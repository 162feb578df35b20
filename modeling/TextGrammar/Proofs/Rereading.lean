import TextGrammar.Form.Draft
import TextGrammar.Proofs.Results

/-! Reading back the description of a form. It gives the form, if the patterns of the form are
compiled from their sources and none of its sequences consists of one form. Normalizing makes such
forms of all drafts without finished parts. -/

namespace TextGrammar

namespace Form

theorem inOrder_of_length_ne_one {α : Type} {forms : List (Form α)} (several : forms.length ≠ 1) :
    inOrder forms = .sequence forms := by
  rw [inOrder]
  rintro form rfl
  exact several rfl

section Expanding

variable {α β ε : Type} {f : α → Except ε (Form β)}

mutual

def leaves : Form α → List α
  | .literal _ => []
  | .leaf value => [value]
  | .sequence forms => leavesOfAll forms
  | .oneOf forms => leavesOfAll forms
  | .manyOf form => form.leaves
  | .optional form => form.leaves
  | .reference _ => []
  | .except form _ => form.leaves

def leavesOfAll : List (Form α) → List α
  | [] => []
  | form :: rest => form.leaves ++ leavesOfAll rest

end

mutual

theorem leaves_map (f : α → β) : ∀ form : Form α, (form.map f).leaves = form.leaves.map f
  | .literal _ => rfl
  | .leaf _ => rfl
  | .sequence forms => by rw [map, leaves, leaves, leavesOfAll_mapAll f forms]
  | .oneOf forms => by rw [map, leaves, leaves, leavesOfAll_mapAll f forms]
  | .manyOf form => by rw [map, leaves, leaves, leaves_map f form]
  | .optional form => by rw [map, leaves, leaves, leaves_map f form]
  | .reference _ => rfl
  | .except form _ => by rw [map, leaves, leaves, leaves_map f form]

theorem leavesOfAll_mapAll (f : α → β) : ∀ forms : List (Form α),
    leavesOfAll (mapAll f forms) = (leavesOfAll forms).map f
  | [] => rfl
  | form :: rest => by
      rw [mapAll, leavesOfAll, leavesOfAll, leaves_map f form, leavesOfAll_mapAll f rest,
        List.map_append]

end

theorem mem_leavesOfAll_iff {value : α} {forms : List (Form α)} :
    value ∈ leavesOfAll forms ↔ ∃ form ∈ forms, value ∈ form.leaves := by
  induction forms with
  | nil => simp [leavesOfAll]
  | cons form rest ih => simp [leavesOfAll, ih]

/-- A property that a form has if its parts have it, where one form in order stands for itself. -/
structure Inherited (property : Form β → Prop) : Prop where
  literal : ∀ text, property (.literal text)
  inOrder : ∀ forms, (∀ form ∈ forms, property form) → property (inOrder forms)
  oneOf : ∀ forms, (∀ form ∈ forms, property form) → property (.oneOf forms)
  manyOf : ∀ form, property form → property (.manyOf form)
  optional : ∀ form, property form → property (.optional form)
  reference : ∀ name, property (.reference name)
  except : ∀ form exclusions, property form → property (.except form exclusions)

variable {property : Form β → Prop}

mutual

/-- What is put in the place of the leaves passes such a property on to the whole. -/
theorem Inherited.of_expand (inherited : Inherited property) : ∀ (form : Form α)
    {expanded : Form β}, (∀ value ∈ form.leaves, ∀ inner, f value = .ok inner → property inner) →
      form.expand f = .ok expanded → property expanded
  | .literal text, _, _, result => by
      cases result
      exact inherited.literal text
  | .leaf value, _, each, result => each value List.mem_cons_self _ result
  | .sequence forms, _, each, result => by
      obtain ⟨inner, parts, rfl⟩ := ok_of_map_eq_ok result
      exact inherited.inOrder inner (inherited.of_expandAll forms each parts)
  | .oneOf forms, _, each, result => by
      obtain ⟨inner, parts, rfl⟩ := ok_of_map_eq_ok result
      exact inherited.oneOf inner (inherited.of_expandAll forms each parts)
  | .manyOf form, _, each, result => by
      obtain ⟨inner, inside, rfl⟩ := ok_of_map_eq_ok result
      exact inherited.manyOf inner (inherited.of_expand form each inside)
  | .optional form, _, each, result => by
      obtain ⟨inner, inside, rfl⟩ := ok_of_map_eq_ok result
      exact inherited.optional inner (inherited.of_expand form each inside)
  | .reference name, _, _, result => by
      cases result
      exact inherited.reference name
  | .except form exclusions, _, each, result => by
      obtain ⟨inner, inside, rfl⟩ := ok_of_map_eq_ok result
      exact inherited.except inner exclusions (inherited.of_expand form each inside)

theorem Inherited.of_expandAll (inherited : Inherited property) : ∀ (forms : List (Form α))
    {expanded : List (Form β)},
    (∀ value ∈ leavesOfAll forms, ∀ inner, f value = .ok inner → property inner) →
      expandAll f forms = .ok expanded → ∀ form ∈ expanded, property form
  | [], _, _, result => by
      cases result
      exact fun form member => absurd member List.not_mem_nil
  | form :: rest, _, each, result => by
      obtain ⟨ofFirst, ofRest⟩ := List.forall_mem_append.mp each
      obtain ⟨first, inside, result⟩ := ok_of_bind_eq_ok result
      obtain ⟨others, parts, result⟩ := ok_of_bind_eq_ok result
      cases result
      exact List.forall_mem_cons.mpr
        ⟨inherited.of_expand form ofFirst inside, inherited.of_expandAll rest ofRest parts⟩

end

mutual

/-- Forms are put in the place of leaves up to the first leaf with an error. -/
theorem errorOf?_expand (f : α → Except ε (Form β)) : ∀ form : Form α,
    errorOf? (form.expand f) = form.leaves.findSome? fun value => errorOf? (f value)
  | .literal _ => rfl
  | .leaf value => by
      rw [expand, leaves, List.findSome?_cons]
      cases f value <;> rfl
  | .sequence forms => by
      rw [expand, leaves, ← errorOf?_expandAll f forms]
      exact errorOf?_map inOrder _
  | .oneOf forms => by
      rw [expand, leaves, errorOf?_map, errorOf?_expandAll f forms]
  | .manyOf form => by
      rw [expand, leaves, errorOf?_map, errorOf?_expand f form]
  | .optional form => by
      rw [expand, leaves, errorOf?_map, errorOf?_expand f form]
  | .reference _ => rfl
  | .except form _ => by
      rw [expand, leaves, errorOf?_map, errorOf?_expand f form]

theorem errorOf?_expandAll (f : α → Except ε (Form β)) : ∀ forms : List (Form α),
    errorOf? (expandAll f forms) = (leavesOfAll forms).findSome? fun value => errorOf? (f value)
  | [] => rfl
  | form :: rest => by
      rw [leavesOfAll, List.findSome?_append, ← errorOf?_expand f form,
        ← errorOf?_expandAll f rest, expandAll]
      cases form.expand f with
      | error error => rfl
      | ok first =>
          cases expandAll f rest <;> rfl

end

end Expanding

section Describing

theorem mapM_exclusionOfJson (exclusions : List String) :
    (exclusions.map Json.string).mapM exclusionOfJson = .ok exclusions := by
  induction exclusions with
  | nil => rfl
  | cons text rest ih =>
      rw [List.map_cons, List.mapM_cons, ih]
      rfl

mutual

theorem ofJson_toJson : ∀ form : Form String, ofJson form.toJson = .ok form
  | .literal _ => rfl
  | .leaf _ => rfl
  | .sequence forms => by
      rw [toJson, ofJson, allOfJson_allToJson]
      rfl
  | .oneOf forms => by
      have parts := allOfJson_allToJson forms
      change Form.oneOf <$> allOfJson (allToJson forms) = _
      rw [parts]
      rfl
  | .manyOf form => by
      have inside := ofJson_toJson form
      change Form.manyOf <$> ofJson form.toJson = _
      rw [inside]
      rfl
  | .optional form => by
      have inside := ofJson_toJson form
      change Form.optional <$> ofJson form.toJson = _
      rw [inside]
      rfl
  | .reference _ => rfl
  | .except form exclusions => by
      have inside := ofJson_toJson form
      have texts := mapM_exclusionOfJson exclusions
      change (do
        let form ← ofJson form.toJson
        let exclusions ← (exclusions.map Json.string).mapM exclusionOfJson
        return Form.except form exclusions) = _
      rw [inside, texts]
      rfl

theorem allOfJson_allToJson : ∀ forms : List (Form String), allOfJson (allToJson forms) = .ok forms
  | [] => rfl
  | form :: rest => by
      rw [allToJson, allOfJson, ofJson_toJson, allOfJson_allToJson]
      rfl

end

end Describing

end Form

def Ingredient.IsWritten : Ingredient → Prop
  | .uncompiled _ => True
  | .described _ => True
  | .compiled _ => False
  | .finished _ => False

variable [RegexEngine]

theorem Pattern.source_of_compile? {source : String} {pattern : Pattern}
    (compiled : Pattern.compile? source = some pattern) : pattern.source = source := by
  rcases Option.map_eq_some_iff.mp compiled with ⟨regex, _, rfl⟩
  rfl

namespace Form

/-- Forms whose patterns are compiled from their sources, without sequences of one form. -/
inductive Settled : Form Pattern → Prop
  | literal {text} : Settled (.literal text)
  | leaf {pattern} (compiled : Pattern.compile? pattern.source = some pattern) :
      Settled (.leaf pattern)
  | sequence {forms} (several : forms.length ≠ 1) (each : ∀ form ∈ forms, Settled form) :
      Settled (.sequence forms)
  | oneOf {forms} (each : ∀ form ∈ forms, Settled form) : Settled (.oneOf forms)
  | manyOf {form} (inside : Settled form) : Settled (.manyOf form)
  | optional {form} (inside : Settled form) : Settled (.optional form)
  | reference {name} : Settled (.reference name)
  | except {form exclusions} (inside : Settled form) : Settled (.except form exclusions)

theorem Settled.inOrder {forms : List (Form Pattern)} (each : ∀ form ∈ forms, Settled form) :
    Settled (inOrder forms) := by
  by_cases several : forms.length = 1
  · obtain ⟨form, rfl⟩ := List.length_eq_one_iff.mp several
    exact each form List.mem_cons_self
  · rw [inOrder_of_length_ne_one several]
    exact .sequence several each

theorem Settled.inherited : Inherited Settled where
  literal _ := .literal
  inOrder _ each := .inOrder each
  oneOf _ each := .oneOf each
  manyOf _ inside := .manyOf inside
  optional _ inside := .optional inside
  reference _ := .reference
  except _ _ inside := .except inside

theorem expandAll_sources {forms : List (Form Pattern)}
    (each : ∀ form ∈ forms, compile form.sources = .ok form) :
    expandAll compilePattern (mapAll Pattern.source forms) = .ok forms := by
  induction forms with
  | nil => rfl
  | cons form rest ih =>
      obtain ⟨first, others⟩ := List.forall_mem_cons.mp each
      have first : (form.map Pattern.source).expand compilePattern = .ok form := first
      rw [mapAll, expandAll, first, ih others]
      rfl

theorem Settled.compile_sources {form : Form Pattern} (settled : form.Settled) :
    compile form.sources = .ok form := by
  induction settled with
  | literal => rfl
  | @leaf pattern compiled =>
      have again : compilePattern pattern.source = .ok (.leaf pattern) := by
        rw [compilePattern, compiled]
      exact again
  | @sequence forms several each ih =>
      have parts := expandAll_sources ih
      rw [sources, map, compile, expand, parts]
      exact congrArg Except.ok (inOrder_of_length_ne_one several)
  | oneOf each ih =>
      have parts := expandAll_sources ih
      rw [sources, map, compile, expand, parts]
      rfl
  | manyOf inside ih =>
      rw [sources, compile] at ih
      rw [sources, map, compile, expand, ih]
      rfl
  | optional inside ih =>
      rw [sources, compile] at ih
      rw [sources, map, compile, expand, ih]
      rfl
  | reference => rfl
  | except inside ih =>
      rw [sources, compile] at ih
      rw [sources, map, compile, expand, ih]
      rfl

/-- Reading back the description of a form compiles it again from its sources. -/
theorem reread_eq (form : Form Pattern) : form.reread = compile form.sources := by
  have read := ofJson_toJson form.sources
  change (Ingredient.described form.sources.toJson).form = _
  rw [Ingredient.form, read]
  rfl

theorem Settled.reread {form : Form Pattern} (settled : form.Settled) :
    form.reread = .ok form := by
  rw [reread_eq]
  exact settled.compile_sources

end Form

theorem settled_of_compilePattern {source : String} {form : Form Pattern}
    (compiled : compilePattern source = .ok form) : form.Settled := by
  rw [compilePattern] at compiled
  split at compiled
  · rename_i pattern found
    cases compiled
    have same := Pattern.source_of_compile? found
    rw [← same] at found
    exact .leaf found
  · cases compiled

theorem Ingredient.settled_of_form {ingredient : Ingredient} (written : ingredient.IsWritten)
    {form : Form Pattern} (formed : ingredient.form = .ok form) : form.Settled := by
  cases ingredient with
  | uncompiled source => exact settled_of_compilePattern formed
  | described json =>
      obtain ⟨described, _, compiled⟩ := ok_of_bind_eq_ok formed
      refine Form.Settled.inherited.of_expand described ?_ compiled
      exact fun source _ inner found => settled_of_compilePattern found
  | compiled pattern => exact written.elim
  | finished form => exact written.elim

/-- Normalizing a draft that is written down throughout settles it. -/
theorem Draft.settled_of_normalize {draft : Draft}
    (written : ∀ ingredient ∈ draft.leaves, ingredient.IsWritten) {form : Form Pattern}
    (normalized : draft.normalize = .ok form) : form.Settled := by
  refine Form.Settled.inherited.of_expand draft ?_ normalized
  exact fun ingredient member inner formed =>
    Ingredient.settled_of_form (written ingredient member) formed

end TextGrammar
