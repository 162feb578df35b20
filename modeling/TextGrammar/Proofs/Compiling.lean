import Mathlib.Data.List.Perm.Basic
import Mathlib.Data.List.Forall2
import Mathlib.Data.List.Nodup
import TextGrammar.Grammar.Basic
import TextGrammar.Proofs.Results

/-! What rules a grammar is compiled from: those that the definitions give, one after the other. No
two of them have one name, none has the reserved one, one is the root, and all references are to
them. -/

namespace TextGrammar.Grammar

section LookUp

variable {rules others : List Rule} {name : String}

theorem isSome_lookUp_iff : (lookUp rules name).isSome ↔ name ∈ rules.map (·.name) := by
  rw [lookUp, Option.isSome_map, List.find?_isSome]
  simp

theorem isNone_lookUp_iff : (lookUp rules name).isNone ↔ name ∉ rules.map (·.name) := by
  rw [← isSome_lookUp_iff, Option.not_isSome_iff_eq_none, Option.isNone_iff_eq_none]

theorem mem_of_lookUp_eq_some {form : Form Pattern} (found : lookUp rules name = some form) :
    ⟨name, form⟩ ∈ rules := by
  obtain ⟨rule, first, rfl⟩ := Option.map_eq_some_iff.mp found
  have same : rule.name = name := by simpa using List.find?_some first
  subst same
  exact List.mem_of_find?_eq_some first

theorem lookUp_eq_some_iff (distinct : (rules.map (·.name)).Nodup) {form : Form Pattern} :
    lookUp rules name = some form ↔ ⟨name, form⟩ ∈ rules := by
  refine ⟨mem_of_lookUp_eq_some, ?_⟩
  intro member
  have named : name ∈ rules.map (·.name) := List.mem_map.mpr ⟨_, member, rfl⟩
  obtain ⟨other, found⟩ := Option.isSome_iff_exists.mp (isSome_lookUp_iff.mpr named)
  have only := List.inj_on_of_nodup_map distinct (mem_of_lookUp_eq_some found) member rfl
  cases only
  exact found

theorem lookUp_of_perm (permuted : rules.Perm others) (distinct : (rules.map (·.name)).Nodup) :
    lookUp rules name = lookUp others name := by
  have distinctToo : (others.map (·.name)).Nodup := (permuted.map _).nodup_iff.mp distinct
  apply Option.ext
  intro form
  rw [lookUp_eq_some_iff distinct, lookUp_eq_some_iff distinctToo, permuted.mem_iff]

theorem setRoot_of_mem {grammar : Grammar} (present : name ∈ grammar.ruleNames) :
    grammar.setRoot name = ({ grammar with root := name }, .ok ()) :=
  if_pos (isSome_lookUp_iff.mpr present)

theorem setRoot_of_not_mem {grammar : Grammar} (absent : name ∉ grammar.ruleNames) :
    grammar.setRoot name = (grammar, .error (.noSuchRule name)) :=
  if_neg (mt isSome_lookUp_iff.mp absent)

end LookUp

structure WellNamed (rules : List Rule) : Prop where
  distinct : (rules.map (·.name)).Nodup
  unreserved : reservedName ∉ rules.map (·.name)

namespace WellNamed

variable {rules others : List Rule}

theorem nil : WellNamed [] := ⟨List.nodup_nil, List.not_mem_nil⟩

theorem sublist (named : WellNamed rules) (part : others.Sublist rules) : WellNamed others where
  distinct := named.distinct.sublist (part.map _)
  unreserved := fun member => named.unreserved ((part.map _).subset member)

theorem perm (named : WellNamed rules) (permuted : rules.Perm others) : WellNamed others where
  distinct := (permuted.map _).nodup_iff.mp named.distinct
  unreserved := fun member => named.unreserved ((permuted.map _).mem_iff.mpr member)

theorem snoc_iff {rule : Rule} (named : WellNamed rules) :
    WellNamed (rules ++ [rule]) ↔ rule.name ≠ reservedName ∧ rule.name ∉ rules.map (·.name) := by
  constructor
  · intro together
    have distinct := together.distinct
    rw [List.map_append, List.nodup_append] at distinct
    refine ⟨fun reserved => together.unreserved ?_, ?_⟩
    · rw [← reserved]
      exact List.mem_map_of_mem (List.mem_append_right rules List.mem_cons_self)
    · exact fun taken => distinct.2.2 _ taken _ List.mem_cons_self rfl
  · rintro ⟨unreserved, fresh⟩
    constructor
    · rw [List.map_append, List.nodup_append]
      refine ⟨named.distinct, List.nodup_singleton _, ?_⟩
      rintro name taken other only rfl
      obtain rfl := List.mem_singleton.mp only
      exact fresh taken
    · rw [List.map_append, List.mem_append, not_or]
      exact ⟨named.unreserved, fun same => unreserved (List.mem_singleton.mp same).symm⟩

end WellNamed

def Closed (rules : List Rule) : Prop :=
  ∀ rule ∈ rules, ∀ name ∈ rule.form.references, name ∈ rules.map (·.name)

theorem undefinedReference?_eq_none_iff {rules : List Rule} :
    undefinedReference? rules = none ↔ Closed rules := by
  rw [undefinedReference?, List.findSome?_eq_none_iff]
  simp only [Option.map_eq_none_iff, List.find?_eq_none, isNone_lookUp_iff, not_not, Closed]

variable [RegexEngine]

def Defines (definition : String × Draft) (rule : Rule) : Prop :=
  rule.name = definition.1 ∧ definition.2.normalize = .ok rule.form

variable {definitions : List (String × Draft)}

theorem exists_definition {rules : List Rule} (defined : List.Forall₂ Defines definitions rules)
    {rule : Rule} (member : rule ∈ rules) :
    ∃ definition ∈ definitions, Defines definition rule := by
  induction defined with
  | nil => cases member
  | cons first _ ih =>
      rcases List.mem_cons.mp member with rfl | member
      · exact ⟨_, List.mem_cons_self, first⟩
      · obtain ⟨definition, among, defines⟩ := ih member
        exact ⟨definition, List.mem_cons_of_mem _ among, defines⟩

theorem addRule_eq_ok_iff {rules next : List Rule} {definition : String × Draft}
    (named : WellNamed rules) :
    addRule rules definition = .ok next ↔
      ∃ rule, Defines definition rule ∧ WellNamed (rules ++ [rule]) ∧ next = rules ++ [rule] := by
  obtain ⟨name, draft⟩ := definition
  simp only [named.snoc_iff]
  constructor
  · intro added
    rw [addRule] at added
    split at added
    · cases added
    · split at added
      · cases added
      · split at added
        · cases added
        · rename_i unreserved fresh _ form normalized
          cases added
          rw [isSome_lookUp_iff] at fresh
          exact ⟨⟨name, form⟩, ⟨rfl, normalized⟩, ⟨unreserved, fresh⟩, rfl⟩
  · rintro ⟨rule, ⟨same, normalized⟩, ⟨unreserved, fresh⟩, rfl⟩
    rw [← isSome_lookUp_iff] at fresh
    obtain rfl : rule.name = name := same
    have normalized : draft.normalize = .ok rule.form := normalized
    rw [addRule, if_neg unreserved, if_neg fresh, normalized]

theorem foldlM_addRule_eq_ok_iff {rules result : List Rule} (named : WellNamed rules) :
    definitions.foldlM addRule rules = .ok result ↔
      ∃ added, List.Forall₂ Defines definitions added ∧ WellNamed (rules ++ added) ∧
        result = rules ++ added := by
  induction definitions generalizing rules with
  | nil =>
      constructor
      · intro same
        obtain rfl := Except.ok.inj same
        exact ⟨[], .nil, by rwa [List.append_nil], (List.append_nil rules).symm⟩
      · rintro ⟨added, none, _, rfl⟩
        cases none
        rw [List.append_nil]
        rfl
  | cons definition rest ih =>
      rw [List.foldlM_cons]
      constructor
      · intro folded
        obtain ⟨next, first, folded⟩ := ok_of_bind_eq_ok folded
        obtain ⟨rule, defined, named, rfl⟩ := (addRule_eq_ok_iff named).mp first
        obtain ⟨added, others, named, rfl⟩ := (ih named).mp folded
        rw [List.append_assoc] at named ⊢
        exact ⟨rule :: added, .cons defined others, named, rfl⟩
      · rintro ⟨_, allDefined, together, rfl⟩
        cases allDefined with
        | @cons _ rule _ added defined others =>
            -- The names go together after every step, because they do at the end.
            rw [← List.singleton_append, ← List.append_assoc] at together
            have start := together.sublist (List.sublist_append_left _ _)
            have first := (addRule_eq_ok_iff named).mpr ⟨rule, defined, start, rfl⟩
            rw [first]
            exact (ih start).mpr ⟨added, others, together, List.append_cons rules rule added⟩

structure Compiled (definitions : List (String × Draft)) (grammar : Grammar) : Prop where
  defined : List.Forall₂ Defines definitions grammar.rules
  named : WellNamed grammar.rules
  rooted : rootName ∈ grammar.ruleNames
  closed : Closed grammar.rules
  root : grammar.root = rootName
  depthLimit : grammar.depthLimit = none

theorem compile_eq_ok_iff {grammar : Grammar} :
    compile definitions = .ok grammar ↔ Compiled definitions grammar := by
  constructor
  · intro compiled
    obtain ⟨rules, folded, checked⟩ := ok_of_bind_eq_ok compiled
    obtain ⟨added, defined, named, rfl⟩ := (foldlM_addRule_eq_ok_iff .nil).mp folded
    split at checked
    · cases checked
    · rename_i present
      rw [isNone_lookUp_iff, not_not] at present
      split at checked
      · cases checked
      · rename_i closed
        cases checked
        exact ⟨defined, named, present, undefinedReference?_eq_none_iff.mp closed, rfl, rfl⟩
  · rintro ⟨defined, named, rooted, closed, root, depthLimit⟩
    obtain ⟨rules, _, _⟩ := grammar
    cases root
    cases depthLimit
    have folded : definitions.foldlM addRule [] = .ok rules :=
      (foldlM_addRule_eq_ok_iff .nil).mpr ⟨rules, defined, named, rfl⟩
    have present : ¬ (lookUp rules rootName).isNone := by
      rw [isNone_lookUp_iff, not_not]
      exact rooted
    rw [compile, folded]
    change (if _ then _ else _) = _
    rw [if_neg present, undefinedReference?_eq_none_iff.mpr closed]
    rfl

end TextGrammar.Grammar
