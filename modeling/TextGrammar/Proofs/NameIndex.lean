import Mathlib.Data.List.Induction
import TextGrammar.Proofs.Compiling

/-! The index of a grammar: the places of its rules under their names. Compiling can look up all
names in it, and the rule of a name is found through it, because it has exactly these places. -/

namespace TextGrammar.Grammar

def placesOf (rules : List Rule) : Std.HashMap String Nat :=
  rules.zipIdx.foldl (fun places entry => places.insert entry.1.name entry.2) ∅

def places (grammar : Grammar) : Std.HashMap String Nat := placesOf grammar.rules

abbrev IndexedRules := List Rule × Std.HashMap String Nat

def addIndexed [RegexEngine] (indexed : IndexedRules) (definition : String × Draft) :
    Except GrammarError IndexedRules :=
  let (rules, places) := indexed
  let (name, draft) := definition
  if name = reservedName then .error .reservedName
  else if places.contains name then .error (.duplicateRule name)
  else
    match draft.normalize with
    | .error error => .error (.invalidForm name error)
    | .ok form => .ok (rules ++ [⟨name, form⟩], places.insert name rules.length)

def unplacedReference? (indexed : IndexedRules) : Option (String × String) :=
  let (rules, places) := indexed
  rules.findSome? fun rule =>
    (rule.form.references.find? fun name => !places.contains name).map (rule.name, ·)

/-- Compiles rules along with their index, in which all names are looked up. -/
def compileIndexed [RegexEngine] (definitions : List (String × Draft)) :
    Except GrammarError (Grammar × Std.HashMap String Nat) := do
  let (rules, places) ← definitions.foldlM addIndexed ([], ∅)
  if !places.contains rootName then .error .missingRoot
  else
    match unplacedReference? (rules, places) with
    | some (rule, name) => .error (.undefinedRule rule name)
    | none => .ok (⟨rules, rootName, none⟩, places)

variable {rules : List Rule} {name : String} {place : Nat}

theorem placesOf_snoc (rules : List Rule) (rule : Rule) :
    placesOf (rules ++ [rule]) = (placesOf rules).insert rule.name rules.length := by
  simp [placesOf, List.zipIdx_append]

theorem contains_placesOf (rules : List Rule) (name : String) :
    (placesOf rules).contains name = (lookUp rules name).isSome := by
  rw [Bool.eq_iff_iff, isSome_lookUp_iff]
  induction rules using List.reverseRecOn with
  | nil => simp [placesOf]
  | append_singleton rules rule ih =>
      rw [placesOf_snoc, Std.HashMap.contains_insert, Bool.or_eq_true, ih]
      rw [List.map_append, List.mem_append, List.map_singleton, List.mem_singleton]
      rw [beq_iff_eq, or_comm, eq_comm]

theorem getElem?_snoc_eq_some_iff {α : Type} {front : List α} {last value : α} {place : Nat} :
    (front ++ [last])[place]? = some value ↔
      front[place]? = some value ∨ place = front.length ∧ last = value := by
  rcases Nat.lt_trichotomy place front.length with less | rfl | more
  · rw [List.getElem?_append_left less]
    simp [Nat.ne_of_lt less]
  · simp
  · have outside : (front ++ [last]).length ≤ place := by
      rw [List.length_append]
      exact more
    rw [List.getElem?_eq_none outside, List.getElem?_eq_none (Nat.le_of_lt more)]
    simp [Nat.ne_of_gt more]

theorem getElem?_placesOf_eq_some_iff (distinct : (rules.map (·.name)).Nodup) :
    (placesOf rules)[name]? = some place ↔ (rules.map (·.name))[place]? = some name := by
  induction rules using List.reverseRecOn with
  | nil => simp [placesOf]
  | append_singleton rules rule ih =>
      rw [List.map_append, List.map_singleton] at distinct ⊢
      rcases List.nodup_append.mp distinct with ⟨before, _, apart⟩
      rw [placesOf_snoc, Std.HashMap.getElem?_insert, getElem?_snoc_eq_some_iff, ← ih before]
      by_cases same : rule.name = name
      · have fresh : (placesOf rules)[name]? ≠ some place := by
          intro taken
          have member := List.mem_of_getElem? ((ih before).mp taken)
          exact apart _ member _ List.mem_cons_self same.symm
        simp [same, fresh, eq_comm]
      · simp [same]

theorem form?_eq_of_places {grammar : Grammar} (distinct : grammar.ruleNames.Nodup)
    (name : String) :
    grammar.form? name =
      grammar.places[name]?.bind fun place => grammar.rules[place]?.map (·.form) := by
  cases place : grammar.places[name]? with
  | none =>
      have absent : grammar.places.contains name = false := by
        rw [Std.HashMap.contains_eq_isSome_getElem?, place]
        rfl
      rw [places, contains_placesOf, Option.isSome_eq_false_iff] at absent
      exact Option.isNone_iff_eq_none.mp absent
  | some place =>
      have named := (getElem?_placesOf_eq_some_iff distinct).mp ‹_›
      rw [List.getElem?_map, Option.map_eq_some_iff] at named
      rcases named with ⟨rule, there, rfl⟩
      have member : rule ∈ grammar.rules := List.mem_of_getElem? there
      simp only [Option.bind_some, there, Option.map_some]
      exact (lookUp_eq_some_iff distinct).mpr member

theorem unplacedReference?_eq (rules : List Rule) :
    unplacedReference? (rules, placesOf rules) = undefinedReference? rules := by
  simp [unplacedReference?, undefinedReference?, contains_placesOf]

variable [RegexEngine]

theorem addIndexed_eq (rules : List Rule) (definition : String × Draft) :
    addIndexed (rules, placesOf rules) definition =
      (addRule rules definition).map fun next => (next, placesOf next) := by
  rcases definition with ⟨name, draft⟩
  simp only [addIndexed, addRule, contains_placesOf]
  by_cases reserved : name = reservedName
  · simp [reserved, Except.map]
  · by_cases taken : (lookUp rules name).isSome
    · simp [reserved, taken, Except.map]
    · cases draft.normalize with
      | error error => simp [reserved, taken, Except.map]
      | ok form => simp [reserved, taken, Except.map, placesOf_snoc]

theorem foldlM_addIndexed_eq (definitions : List (String × Draft)) (rules : List Rule) :
    definitions.foldlM addIndexed (rules, placesOf rules) =
      (definitions.foldlM addRule rules).map fun next => (next, placesOf next) := by
  induction definitions generalizing rules with
  | nil => rfl
  | cons definition rest ih =>
      rw [List.foldlM_cons, List.foldlM_cons, addIndexed_eq]
      cases addRule rules definition with
      | error error => rfl
      | ok next => exact ih next

/-- Compiling with the index gives the grammar that compiling gives, and the places of its rules. -/
theorem compileIndexed_eq (definitions : List (String × Draft)) :
    compileIndexed definitions =
      (compile definitions).map fun grammar => (grammar, grammar.places) := by
  have folded : definitions.foldlM addIndexed ([], ∅) = _ := foldlM_addIndexed_eq definitions []
  rw [compileIndexed, compile, folded]
  cases definitions.foldlM addRule [] with
  | error error => rfl
  | ok rules =>
      simp only [Except.map, Except.bind, bind, contains_placesOf, unplacedReference?_eq]
      by_cases rootless : (lookUp rules rootName).isNone
      · simp [rootless]
      · cases undefinedReference? rules with
        | none => simp [rootless, places]
        | some reference => simp [rootless]

end TextGrammar.Grammar
