import TextGrammar.Regex.Engine
import TextGrammar.Proofs.Rereading
import TextGrammar.Proofs.Subforms

/-! What comes back from the description of any form. Sequences of one form are gone, and patterns
are compiled again from their sources, of which the first that is rejected is the error. -/

namespace TextGrammar

namespace Form

variable {α β γ ε : Type}

mutual

def collapse : Form α → Form α
  | .literal text => .literal text
  | .leaf value => .leaf value
  | .sequence [form] => form.collapse
  | .sequence forms => .sequence (collapseAll forms)
  | .oneOf forms => .oneOf (collapseAll forms)
  | .manyOf form => .manyOf form.collapse
  | .optional form => .optional form.collapse
  | .reference name => .reference name
  | .except form exclusions => .except form.collapse exclusions

def collapseAll : List (Form α) → List (Form α)
  | [] => []
  | form :: rest => form.collapse :: collapseAll rest

end

def Collapsed (form : Form α) : Prop := ∀ inner, .sequence [inner] ∉ form.subforms

theorem collapse_sequence (forms : List (Form α)) :
    (sequence forms).collapse = inOrder (collapseAll forms) := by
  cases forms with
  | nil => rfl
  | cons first rest =>
      cases rest with
      | nil => simp [collapse, collapseAll, inOrder]
      | cons second others => simp [collapse, collapseAll, inOrder]

theorem Collapsed.inherited : Inherited (Collapsed : Form α → Prop) where
  literal text := by simp [Collapsed, subforms]
  inOrder forms each := by
    by_cases several : forms.length = 1
    · rcases List.length_eq_one_iff.mp several with ⟨form, rfl⟩
      exact each form List.mem_cons_self
    · rw [inOrder_of_length_ne_one several]
      intro inner member
      rcases List.mem_cons.mp member with same | inside
      · rw [← Form.sequence.inj same] at several
        exact several rfl
      · rcases mem_subformsOfAll_iff.mp inside with ⟨form, part, deeper⟩
        exact each form part inner deeper
  oneOf forms each := by
    intro inner member
    simp only [subforms, List.mem_cons, reduceCtorEq, false_or] at member
    rcases mem_subformsOfAll_iff.mp member with ⟨form, part, deeper⟩
    exact each form part inner deeper
  manyOf form inside := by simpa [Collapsed, subforms] using inside
  optional form inside := by simpa [Collapsed, subforms] using inside
  reference name := by simp [Collapsed, subforms]
  except form exclusions inside := by simpa [Collapsed, subforms] using inside

mutual

theorem collapse_eq_self : ∀ form : Form α, form.Collapsed → form.collapse = form
  | .literal _, _ => rfl
  | .leaf _, _ => rfl
  | .sequence forms, collapsed => by
      have several : forms.length ≠ 1 := by
        intro one
        rcases List.length_eq_one_iff.mp one with ⟨form, rfl⟩
        exact collapsed form (self_mem_subforms _)
      have inside : ∀ inner, .sequence [inner] ∉ subformsOfAll forms := by
        intro inner member
        exact collapsed inner (List.mem_cons_of_mem _ member)
      rw [collapse_sequence, collapseAll_eq_self forms inside, inOrder_of_length_ne_one several]
  | .oneOf forms, collapsed => by
      have inside : ∀ inner, .sequence [inner] ∉ subformsOfAll forms := by
        intro inner member
        exact collapsed inner (List.mem_cons_of_mem _ member)
      rw [collapse, collapseAll_eq_self forms inside]
  | .manyOf form, collapsed => by
      have inside : form.Collapsed := by simpa [Collapsed, subforms] using collapsed
      rw [collapse, collapse_eq_self form inside]
  | .optional form, collapsed => by
      have inside : form.Collapsed := by simpa [Collapsed, subforms] using collapsed
      rw [collapse, collapse_eq_self form inside]
  | .reference _, _ => rfl
  | .except form _, collapsed => by
      have inside : form.Collapsed := by simpa [Collapsed, subforms] using collapsed
      rw [collapse, collapse_eq_self form inside]

theorem collapseAll_eq_self : ∀ forms : List (Form α),
    (∀ inner, .sequence [inner] ∉ subformsOfAll forms) → collapseAll forms = forms
  | [], _ => rfl
  | form :: rest, collapsed => by
      simp only [subformsOfAll, List.mem_append, not_or] at collapsed
      have first : form.Collapsed := fun inner => (collapsed inner).1
      have others := collapseAll_eq_self rest fun inner => (collapsed inner).2
      rw [collapseAll, collapse_eq_self form first, others]

end

section Replacing

theorem inOrder_mapAll (g : α → β) (forms : List (Form α)) :
    inOrder (mapAll g forms) = (inOrder forms).map g := by
  cases forms with
  | nil => rfl
  | cons first rest =>
      cases rest with
      | nil => simp [mapAll, inOrder]
      | cons second others => simp [map, mapAll, inOrder]

mutual

theorem collapse_map (g : α → β) : ∀ form : Form α, (form.map g).collapse = form.collapse.map g
  | .literal _ => rfl
  | .leaf _ => rfl
  | .sequence forms => by
      rw [map, collapse_sequence, collapse_sequence, collapseAll_mapAll g forms, inOrder_mapAll]
  | .oneOf forms => by simp [map, collapse, collapseAll_mapAll g forms]
  | .manyOf form => by simp [map, collapse, collapse_map g form]
  | .optional form => by simp [map, collapse, collapse_map g form]
  | .reference _ => rfl
  | .except form _ => by simp [map, collapse, collapse_map g form]

theorem collapseAll_mapAll (g : α → β) : ∀ forms : List (Form α),
    collapseAll (mapAll g forms) = mapAll g (collapseAll forms)
  | [] => rfl
  | form :: rest => by
      simp [mapAll, collapseAll, collapse_map g form, collapseAll_mapAll g rest]

end

variable [BEq α] {g : α → α}

mutual

theorem map_same (alike : ∀ value, (g value == value) = true) :
    ∀ form : Form α, (form.map g).same form = true
  | .literal _ => by simp [map, same]
  | .leaf value => by simp [map, same, alike value]
  | .sequence forms => by simp [map, same, mapAll_sameAll alike forms]
  | .oneOf forms => by simp [map, same, mapAll_sameAll alike forms]
  | .manyOf form => by simp [map, same, map_same alike form]
  | .optional form => by simp [map, same, map_same alike form]
  | .reference _ => by simp [map, same]
  | .except form _ => by simp [map, same, map_same alike form]

theorem mapAll_sameAll (alike : ∀ value, (g value == value) = true) :
    ∀ forms : List (Form α), sameAll (mapAll g forms) forms = true
  | [] => by simp [mapAll, sameAll]
  | form :: rest => by simp [mapAll, sameAll, map_same alike form, mapAll_sameAll alike rest]

end

end Replacing

section Expanding

variable {written : α → γ} {f : γ → Except ε (Form β)} {g : α → β}

mutual

theorem expand_of_accepted : ∀ form : Form α,
    (∀ value ∈ form.leaves, f (written value) = .ok (.leaf (g value))) →
      (form.map written).expand f = .ok (form.map g).collapse
  | .literal _, _ => rfl
  | .leaf value, accepted => accepted value List.mem_cons_self
  | .sequence forms, accepted => by
      rw [map, expand, expandAll_of_accepted forms accepted, map, collapse_sequence]
      rfl
  | .oneOf forms, accepted => by
      rw [map, expand, expandAll_of_accepted forms accepted]
      rfl
  | .manyOf form, accepted => by
      rw [map, expand, expand_of_accepted form accepted]
      rfl
  | .optional form, accepted => by
      rw [map, expand, expand_of_accepted form accepted]
      rfl
  | .reference _, _ => rfl
  | .except form _, accepted => by
      rw [map, expand, expand_of_accepted form accepted]
      rfl

theorem expandAll_of_accepted : ∀ forms : List (Form α),
    (∀ value ∈ leavesOfAll forms, f (written value) = .ok (.leaf (g value))) →
      expandAll f (mapAll written forms) = .ok (collapseAll (mapAll g forms))
  | [], _ => rfl
  | form :: rest, accepted => by
      rcases List.forall_mem_append.mp accepted with ⟨ofFirst, ofRest⟩
      rw [mapAll, expandAll, expand_of_accepted form ofFirst, expandAll_of_accepted rest ofRest]
      rfl

end

end Expanding

end Form

section Engine

variable [RegexEngine]

namespace Pattern

def rejects (source : String) : Bool := (compile? source).isNone

/-- The pattern that is compiled from the source of a pattern, if it can be compiled. The two need
not match the same, for a pattern of a regular expression as it stands. -/
def recompiled (pattern : Pattern) : Pattern := (compile? pattern.source).getD pattern

theorem recompiled_beq (pattern : Pattern) : (pattern.recompiled == pattern) = true := by
  have source : pattern.recompiled.source = pattern.source := by
    rw [recompiled]
    cases compiled : compile? pattern.source with
    | none => rfl
    | some again => exact source_of_compile? compiled
  change (pattern.recompiled.source == pattern.source) = true
  simp [source]

theorem compilePattern_of_accepted {pattern : Pattern}
    (accepted : rejects pattern.source = false) :
    compilePattern pattern.source = .ok (.leaf pattern.recompiled) := by
  rw [compilePattern, recompiled]
  cases compiled : compile? pattern.source with
  | none => simp [rejects, compiled] at accepted
  | some again => rfl

end Pattern

namespace Form

theorem errorOf?_compile (form : Form String) :
    errorOf? form.compile =
      (form.leaves.find? Pattern.rejects).map FormError.invalidPattern := by
  have each : (fun source => errorOf? (compilePattern source)) =
      Option.map FormError.invalidPattern ∘ Option.guard Pattern.rejects := by
    funext source
    rw [Function.comp_apply, compilePattern, Option.guard, Pattern.rejects]
    cases Pattern.compile? source <;> rfl
  rw [compile, errorOf?_expand, each, ← List.map_findSome?, List.findSome?_guard]

theorem reread_of_accepted {form : Form Pattern}
    (accepted : ∀ source ∈ form.sources.leaves, Pattern.rejects source = false) :
    form.reread = .ok (form.collapse.map Pattern.recompiled) := by
  have each : ∀ pattern ∈ form.leaves,
      compilePattern pattern.source = .ok (.leaf pattern.recompiled) := by
    intro pattern member
    apply Pattern.compilePattern_of_accepted
    apply accepted
    rw [sources, leaves_map]
    exact List.mem_map_of_mem member
  rw [reread_eq, compile, sources, expand_of_accepted form each, collapse_map]

theorem reread_of_rejected {form : Form Pattern} {source : String}
    (first : form.sources.leaves.find? Pattern.rejects = some source) :
    form.reread = .error (.invalidPattern source) := by
  have failed := errorOf?_compile form.sources
  rw [first] at failed
  rw [reread_eq]
  exact errorOf?_eq_some_iff.mp failed

end Form

theorem Ingredient.collapsed_of_form {ingredient : Ingredient}
    (unfinished : ∀ used, ingredient ≠ .finished used) {form : Form Pattern}
    (formed : ingredient.form = .ok form) : form.Collapsed := by
  have ofSource : ∀ source inner, compilePattern source = .ok inner → inner.Collapsed := by
    intro source inner compiled
    rw [compilePattern] at compiled
    split at compiled <;> cases compiled
    simp [Form.Collapsed, Form.subforms]
  cases ingredient with
  | uncompiled source => exact ofSource source form formed
  | compiled pattern =>
      cases formed
      simp [Form.Collapsed, Form.subforms]
  | described json =>
      rcases ok_of_bind_eq_ok formed with ⟨read, _, compiled⟩
      exact Form.Collapsed.inherited.of_expand read (fun source _ => ofSource source) compiled
  | finished used => exact absurd rfl (unfinished used)

theorem Draft.collapsed_of_normalize {draft : Draft}
    (unfinished : ∀ used, .finished used ∉ draft.leaves) {form : Form Pattern}
    (normalized : draft.normalize = .ok form) : form.Collapsed := by
  refine Form.Collapsed.inherited.of_expand draft ?_ normalized
  intro ingredient member inner formed
  refine Ingredient.collapsed_of_form ?_ formed
  rintro used rfl
  exact unfinished used member

/-- The description of a form gives the form with its sequences of one form collapsed, or fails for
the first of its patterns that cannot be compiled from its source, and for nothing else. Where
nothing is used as it is, normalizing leaves no sequence to collapse. -/
theorem description_gives_collapsed_form :
    (∀ form : Form Pattern,
      ((∀ source ∈ form.sources.leaves, Pattern.rejects source = false) →
        ∃ read, form.reread = .ok read ∧ (read == form.collapse) = true) ∧
      (∀ source, form.sources.leaves.find? Pattern.rejects = some source →
        form.reread = .error (.invalidPattern source)) ∧
      (∀ misfit, form.reread ≠ .error (.unsupported misfit)) ∧
      (form.Collapsed → form.collapse = form)) ∧
    ∀ (draft : Draft) (form : Form Pattern), (∀ used, .finished used ∉ draft.leaves) →
      draft.normalize = .ok form → form.Collapsed := by
  refine ⟨?_, fun draft form unfinished => Draft.collapsed_of_normalize unfinished⟩
  intro form
  refine ⟨?_, fun source => Form.reread_of_rejected, ?_, Form.collapse_eq_self form⟩
  · intro accepted
    have same := Form.map_same Pattern.recompiled_beq form.collapse
    exact ⟨_, Form.reread_of_accepted accepted, same⟩
  · intro misfit failed
    cases first : form.sources.leaves.find? Pattern.rejects with
    | none =>
        have accepted : ∀ source ∈ form.sources.leaves, Pattern.rejects source = false := by
          simpa using first
        rw [Form.reread_of_accepted accepted] at failed
        cases failed
    | some source =>
        rw [Form.reread_of_rejected first] at failed
        cases failed

end Engine

def nested (pattern : Pattern) : Form Pattern :=
  .sequence [.oneOf [.sequence [.sequence [.literal "a"]], .leaf pattern]]

theorem description_gives_collapsed_form_nested :
    (∃ pattern, Pattern.compile? "b|c" = some pattern ∧ Pattern.rejects "b|c" = false ∧
      ∃ read, (nested pattern).reread = .ok read ∧
        (read == .oneOf [.literal "a", .leaf pattern]) = true) ∧
    ∃ pattern, Pattern.ofRegex? "(?x)a#" false false = some pattern ∧
      Pattern.rejects "(?x)a#" = true ∧
      (nested pattern).reread = .error (.invalidPattern "(?x)a#") := by
  constructor
  · have compiles : (Pattern.compile? "b|c").isSome := by decide +kernel
    rcases Option.isSome_iff_exists.mp compiles with ⟨pattern, compiled⟩
    have accepted : Pattern.rejects "b|c" = false := by
      rw [Pattern.rejects, compiled]
      rfl
    refine ⟨pattern, compiled, accepted, ?_⟩
    apply (description_gives_collapsed_form.1 (nested pattern)).1
    have same := Pattern.source_of_compile? compiled
    simpa [nested, Form.sources, Form.map, Form.mapAll, Form.leaves, Form.leavesOfAll, same]
      using accepted
  · have compiles : (Pattern.ofRegex? "(?x)a#" false false).isSome := by decide +kernel
    rcases Option.isSome_iff_exists.mp compiles with ⟨pattern, made⟩
    have rejected : Pattern.rejects "(?x)a#" = true := by decide +kernel
    have same : pattern.source = "(?x)a#" := Pattern.source_of_ofRegex? made
    refine ⟨pattern, made, rejected, ?_⟩
    apply (description_gives_collapsed_form.1 (nested pattern)).2.1
    simp [nested, Form.sources, Form.map, Form.mapAll, Form.leaves, Form.leavesOfAll, same,
      rejected]

end TextGrammar
