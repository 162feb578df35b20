import Mathlib.Data.List.Induction
import TextGrammar.Regex.Engine
import TextGrammar.Proofs.Compiling
import TextGrammar.Proofs.Subforms

/-! What compiling says of definitions: the first problem that one of them has behind those before
it, or else that the root is missing, or else the first reference to no rule at all, or else the
grammar of their rules. -/

namespace TextGrammar

namespace Form

variable {α : Type}

def referenced? : Form α → Option String
  | .reference name => some name
  | _ => none

theorem referenced?_eq_some_iff {form : Form α} {name : String} :
    form.referenced? = some name ↔ form = .reference name := by
  cases form <;> simp [referenced?]

mutual

theorem references_eq_filterMap : ∀ form : Form α,
    form.references = form.subforms.filterMap referenced?
  | .literal _ => rfl
  | .leaf _ => rfl
  | .sequence forms => referencesAll_eq_filterMap forms
  | .oneOf forms => referencesAll_eq_filterMap forms
  | .manyOf form => references_eq_filterMap form
  | .optional form => references_eq_filterMap form
  | .reference _ => rfl
  | .except form _ => references_eq_filterMap form

theorem referencesAll_eq_filterMap : ∀ forms : List (Form α),
    referencesAll forms = (subformsOfAll forms).filterMap referenced?
  | [] => rfl
  | form :: rest => by
      rw [referencesAll, subformsOfAll, List.filterMap_append, references_eq_filterMap form,
        referencesAll_eq_filterMap rest]

end

def RefersInto (names : List String) (form : Form α) : Prop :=
  ∀ name, .reference name ∈ form.subforms → name ∈ names

def FirstOutside (names : List String) (form : Form α) (name : String) : Prop :=
  name ∉ names ∧ ∃ before after, form.subforms = before ++ .reference name :: after ∧
    ∀ other, .reference other ∈ before → other ∈ names

theorem refersInto_iff {names : List String} {form : Form α} :
    form.RefersInto names ↔ ∀ name ∈ form.references, name ∈ names := by
  simp only [RefersInto, mem_references_iff]

theorem find?_references_eq_some_iff {names : List String} {form : Form α} {name : String} :
    (form.references.find? fun name => name ∉ names) = some name ↔
      form.FirstOutside names name := by
  have outside (part : Form α) : part.referenced?.any (fun name => name ∉ names) = false ↔
      ∀ other, part = .reference other → other ∈ names := by
    cases part <;> simp [referenced?]
  rw [references_eq_filterMap, List.find?_filterMap, Option.bind_eq_some_iff]
  simp only [referenced?_eq_some_iff, exists_eq_right, List.find?_eq_some_iff_append,
    Bool.not_eq_true', outside]
  constructor
  · rintro ⟨missing, before, after, whole, inside⟩
    refine ⟨by simpa [referenced?] using missing, before, after, whole, ?_⟩
    intro other member
    exact inside _ member other rfl
  · rintro ⟨missing, before, after, whole, inside⟩
    refine ⟨by simpa [referenced?] using missing, before, after, whole, ?_⟩
    rintro part member other rfl
    exact inside other member

end Form

namespace Grammar

theorem undefinedReference?_eq_some_iff {rules : List Rule} {name other : String} :
    undefinedReference? rules = some (name, other) ↔
      ∃ front rule back, rules = front ++ rule :: back ∧ rule.name = name ∧
        rule.form.FirstOutside (rules.map (·.name)) other ∧
        ∀ earlier ∈ front, earlier.form.RefersInto (rules.map (·.name)) := by
  have outside : (fun name => (lookUp rules name).isNone) =
      fun name => decide (name ∉ rules.map (·.name)) := by
    funext name
    rw [Bool.eq_iff_iff, isNone_lookUp_iff, decide_eq_true_iff]
  have first (rule : Rule) : (rule.form.references.find? fun name =>
      (lookUp rules name).isNone).map (rule.name, ·) = some (name, other) ↔
        rule.name = name ∧ rule.form.FirstOutside (rules.map (·.name)) other := by
    simp only [outside, Option.map_eq_some_iff, Form.find?_references_eq_some_iff, Prod.mk.injEq]
    constructor
    · rintro ⟨_, first, same, rfl⟩
      exact ⟨same, first⟩
    · rintro ⟨same, first⟩
      exact ⟨other, first, same, rfl⟩
  have nothing (rule : Rule) : (rule.form.references.find? fun name =>
      (lookUp rules name).isNone).map (rule.name, ·) = none ↔
        rule.form.RefersInto (rules.map (·.name)) := by
    rw [outside, Option.map_eq_none_iff, List.find?_eq_none, Form.refersInto_iff]
    simp
  simp only [undefinedReference?, List.findSome?_eq_some_iff, first, nothing, and_assoc]

section Engine

variable [RegexEngine]

/-- Why a definition gives no rule behind some others. A reason holds only where none of those
above it does, so that a definition has one problem at most. -/
inductive Problem (front : List (String × Draft)) : String × Draft → GrammarError → Prop
  | reserved {draft} : Problem front (reservedName, draft) .reservedName
  | duplicate {name draft} (unreserved : name ≠ reservedName) (taken : name ∈ front.map (·.1)) :
      Problem front (name, draft) (.duplicateRule name)
  | invalid {name draft error} (unreserved : name ≠ reservedName)
      (fresh : name ∉ front.map (·.1)) (failed : draft.normalize = .error error) :
      Problem front (name, draft) (.invalidForm name error)

def Sound (definitions : List (String × Draft)) : Prop :=
  ∀ front definition error, front ++ [definition] <+: definitions →
    ¬ Problem front definition error

/-- What is to be said of definitions: the problem of the first that has one, or that there is no
root, or the first reference to no rule, the rules taken in order, or the grammar of the rules. -/
inductive Verdict (definitions : List (String × Draft)) : Except GrammarError Grammar → Prop
  | problem {front definition error} (place : front ++ [definition] <+: definitions)
      (sound : Sound front) (problem : Problem front definition error) :
      Verdict definitions (.error error)
  | rootless (sound : Sound definitions) (missing : rootName ∉ definitions.map (·.1)) :
      Verdict definitions (.error .missingRoot)
  | undefined {front rule back name} (sound : Sound definitions)
      (rooted : rootName ∈ definitions.map (·.1))
      (defined : List.Forall₂ Defines definitions (front ++ rule :: back))
      (before : ∀ earlier ∈ front, earlier.form.RefersInto (definitions.map (·.1)))
      (first : rule.form.FirstOutside (definitions.map (·.1)) name) :
      Verdict definitions (.error (.undefinedRule rule.name name))
  | grammar {rules} (sound : Sound definitions) (rooted : rootName ∈ definitions.map (·.1))
      (defined : List.Forall₂ Defines definitions rules)
      (closed : ∀ rule ∈ rules, rule.form.RefersInto (definitions.map (·.1))) :
      Verdict definitions (.ok ⟨rules, rootName, none⟩)

variable {definitions front : List (String × Draft)} {definition : String × Draft}
  {rules others : List Rule} {error : GrammarError}

theorem names_of_defined (defined : List.Forall₂ Defines definitions rules) :
    rules.map (·.name) = definitions.map (·.1) := by
  induction defined with
  | nil => rfl
  | cons first _ ih => rw [List.map_cons, List.map_cons, first.1, ih]

theorem rules_unique (defined : List.Forall₂ Defines definitions rules)
    (definedToo : List.Forall₂ Defines definitions others) : rules = others := by
  have unique : Relator.RightUnique Defines := by
    intro definition rule other first second
    cases rule
    cases other
    simp_all [Defines]
  exact unique.forall₂ defined definedToo

theorem addRule_eq_error_iff (defined : List.Forall₂ Defines front rules) :
    addRule rules definition = .error error ↔ Problem front definition error := by
  rcases definition with ⟨name, draft⟩
  simp only [addRule, isSome_lookUp_iff, names_of_defined defined]
  constructor
  · intro failed
    split at failed
    · cases failed
      rename_i reserved
      rw [reserved]
      exact .reserved
    · rename_i unreserved
      split at failed
      · cases failed
        rename_i taken
        exact .duplicate unreserved taken
      · rename_i fresh
        split at failed
        · cases failed
          rename_i normalized
          exact .invalid unreserved fresh normalized
        · cases failed
  · intro problem
    cases problem with
    | reserved => rw [if_pos rfl]
    | duplicate unreserved taken => rw [if_neg unreserved, if_pos taken]
    | invalid unreserved fresh failed => rw [if_neg unreserved, if_neg fresh, failed]

theorem sound_concat_iff :
    Sound (front ++ [definition]) ↔
      Sound front ∧ ∀ error, ¬ Problem front definition error := by
  constructor
  · intro sound
    constructor
    · intro earlier other error place
      exact sound earlier other error (place.trans (List.prefix_append _ _))
    · intro error
      exact sound front definition error List.prefix_rfl
  · rintro ⟨sound, last⟩ earlier other error place
    rcases List.prefix_concat_iff.mp place with whole | inside
    · rcases List.append_singleton_inj.mp whole with ⟨rfl, rfl⟩
      exact last error
    · exact sound earlier other error inside

theorem defined_of_folded (folded : definitions.foldlM addRule [] = .ok rules) :
    List.Forall₂ Defines definitions rules ∧ WellNamed rules := by
  rcases (foldlM_addRule_eq_ok_iff .nil).mp folded with ⟨added, defined, named, rfl⟩
  exact ⟨defined, named⟩

theorem folded_concat (folded : front.foldlM addRule [] = .ok rules) :
    (front ++ [definition]).foldlM addRule [] = addRule rules definition := by
  rw [List.foldlM_append, folded]
  exact bind_pure (addRule rules definition)

theorem folded_append_of_error (failed : front.foldlM addRule [] = .error error)
    (back : List (String × Draft)) : (front ++ back).foldlM addRule [] = .error error := by
  rw [List.foldlM_append, failed]
  rfl

/-- Definitions give rules just if none of them has a problem. -/
theorem exists_rules_iff_sound (definitions : List (String × Draft)) :
    (∃ rules, definitions.foldlM addRule [] = .ok rules) ↔ Sound definitions := by
  -- A problem depends on the definitions in front, so the induction is from the end of the list.
  induction definitions using List.reverseRecOn with
  | nil =>
      constructor
      · rintro - front definition error place
        simp at place
      · intro _
        exact ⟨[], rfl⟩
  | append_singleton front definition ih =>
      rw [sound_concat_iff, ← ih]
      constructor
      · rintro ⟨next, added⟩
        cases folded : front.foldlM addRule [] with
        | error error =>
            rw [folded_append_of_error folded] at added
            cases added
        | ok rules =>
            rw [folded_concat folded] at added
            refine ⟨⟨rules, rfl⟩, ?_⟩
            intro error problem
            rw [(addRule_eq_error_iff (defined_of_folded folded).1).mpr problem] at added
            cases added
      · rintro ⟨⟨rules, folded⟩, fine⟩
        rw [folded_concat folded]
        cases added : addRule rules definition with
        | ok next => exact ⟨next, rfl⟩
        | error error =>
            have problem := (addRule_eq_error_iff (defined_of_folded folded).1).mp added
            exact absurd problem (fine error)

theorem folded_of_defined (sound : Sound definitions)
    (defined : List.Forall₂ Defines definitions rules) :
    definitions.foldlM addRule [] = .ok rules := by
  rcases (exists_rules_iff_sound definitions).mpr sound with ⟨others, folded⟩
  rw [folded, rules_unique defined (defined_of_folded folded).1]

theorem exists_problem_of_error (definitions : List (String × Draft))
    (failed : definitions.foldlM addRule [] = .error error) :
    ∃ front definition, front ++ [definition] <+: definitions ∧ Sound front ∧
      Problem front definition error := by
  induction definitions using List.reverseRecOn with
  | nil => cases failed
  | append_singleton front definition ih =>
      cases folded : front.foldlM addRule [] with
      | error earlier =>
          rw [folded_append_of_error folded] at failed
          cases failed
          rcases ih folded with ⟨first, problematic, place, sound, problem⟩
          exact ⟨first, problematic, place.trans (List.prefix_append _ _), sound, problem⟩
      | ok rules =>
          rw [folded_concat folded] at failed
          have sound := (exists_rules_iff_sound front).mp ⟨rules, folded⟩
          have problem := (addRule_eq_error_iff (defined_of_folded folded).1).mp failed
          exact ⟨front, definition, List.prefix_rfl, sound, problem⟩

theorem folded_of_problem (place : front ++ [definition] <+: definitions) (sound : Sound front)
    (problem : Problem front definition error) :
    definitions.foldlM addRule [] = .error error := by
  rcases place with ⟨back, rfl⟩
  rcases (exists_rules_iff_sound front).mpr sound with ⟨rules, folded⟩
  apply folded_append_of_error
  rw [folded_concat folded]
  exact (addRule_eq_error_iff (defined_of_folded folded).1).mpr problem

theorem compile_of_error (failed : definitions.foldlM addRule [] = .error error) :
    compile definitions = .error error := by
  rw [compile, failed]
  rfl

theorem compile_of_ok (folded : definitions.foldlM addRule [] = .ok rules) :
    compile definitions =
      if rootName ∉ definitions.map (·.1) then .error .missingRoot
      else
        match undefinedReference? rules with
        | some (rule, name) => .error (.undefinedRule rule name)
        | none => .ok ⟨rules, rootName, none⟩ := by
  simp only [← names_of_defined (defined_of_folded folded).1, ← isNone_lookUp_iff]
  rw [compile, folded]
  rfl

theorem verdict_compile (definitions : List (String × Draft)) :
    Verdict definitions (compile definitions) := by
  cases folded : definitions.foldlM addRule [] with
  | error error =>
      rw [compile_of_error folded]
      rcases exists_problem_of_error definitions folded with
        ⟨front, definition, place, sound, problem⟩
      exact .problem place sound problem
  | ok rules =>
      have sound := (exists_rules_iff_sound definitions).mp ⟨rules, folded⟩
      have defined := (defined_of_folded folded).1
      rw [compile_of_ok folded]
      split
      · rename_i missing
        exact .rootless sound missing
      · rename_i rooted
        rw [not_not] at rooted
        split
        · rename_i name other found
          rcases undefinedReference?_eq_some_iff.mp found with
            ⟨front, rule, back, rfl, rfl, first, before⟩
          rw [names_of_defined defined] at first before
          exact .undefined sound rooted defined before first
        · rename_i closed
          rw [undefinedReference?_eq_none_iff] at closed
          refine .grammar sound rooted defined ?_
          intro rule member
          rw [Form.refersInto_iff, ← names_of_defined defined]
          exact closed rule member

theorem Verdict.compile_eq {result : Except GrammarError Grammar}
    (verdict : Verdict definitions result) : compile definitions = result := by
  cases verdict with
  | problem place sound problem => exact compile_of_error (folded_of_problem place sound problem)
  | rootless sound missing =>
      rcases (exists_rules_iff_sound definitions).mpr sound with ⟨rules, folded⟩
      rw [compile_of_ok folded, if_pos missing]
  | undefined sound rooted defined before first =>
      rw [← names_of_defined defined] at before first
      have found := undefinedReference?_eq_some_iff.mpr ⟨_, _, _, rfl, rfl, first, before⟩
      rw [compile_of_ok (folded_of_defined sound defined), if_neg (not_not.mpr rooted), found]
  | grammar sound rooted defined closed =>
      rw [← names_of_defined defined] at closed
      have complete : Closed _ := fun rule member => Form.refersInto_iff.mp (closed rule member)
      rw [compile_of_ok (folded_of_defined sound defined), if_neg (not_not.mpr rooted),
        undefinedReference?_eq_none_iff.mpr complete]

/-- Compiling says what is to be said of the definitions, and nothing else. -/
theorem compile_reports_first_problem (definitions : List (String × Draft))
    (result : Except GrammarError Grammar) :
    compile definitions = result ↔ Verdict definitions result := by
  constructor
  · rintro rfl
    exact verdict_compile definitions
  · exact Verdict.compile_eq

end Engine

def tangled : List (String × Draft) :=
  [("Root", .reference "Animal"), ("Root", .pattern "("), ("Error", .literal "dog")]

def dangling : List (String × Draft) :=
  [("Root", .reference "Animal"),
    ("Animal", .oneOf [.reference "Root", .reference "Cat", .reference "Bird"])]

theorem compile_reports_first_problem_tangled :
    compile tangled = .error (.duplicateRule "Root") ∧
      compile dangling = .error (.undefinedRule "Animal" "Cat") := by
  constructor
  · apply (compile_reports_first_problem tangled _).mpr
    have sound : Sound [("Root", .reference "Animal")] :=
      (exists_rules_iff_sound _).mp ⟨_, rfl⟩
    have problem : Problem [("Root", .reference "Animal")] ("Root", .pattern "(")
        (.duplicateRule "Root") := .duplicate (by decide) List.mem_cons_self
    exact .problem ⟨[("Error", .literal "dog")], rfl⟩ sound problem
  · apply (compile_reports_first_problem dangling _).mpr
    have sound : Sound dangling := (exists_rules_iff_sound _).mp ⟨_, rfl⟩
    have defined : List.Forall₂ Defines dangling ([⟨"Root", .reference "Animal"⟩] ++
        ⟨"Animal", .oneOf [.reference "Root", .reference "Cat", .reference "Bird"]⟩ :: []) :=
      .cons ⟨rfl, rfl⟩ (.cons ⟨rfl, rfl⟩ .nil)
    refine .undefined sound List.mem_cons_self defined ?_ ⟨?_, [_, .reference "Root"], _, rfl, ?_⟩
    · simp [Form.RefersInto, Form.subforms, dangling]
    · simp [dangling]
    · simp [dangling]

end Grammar

end TextGrammar
