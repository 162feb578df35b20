import Mathlib.Data.List.Sort
import TextGrammar.Regex.Engine
import TextGrammar.Proofs.ByteOrder
import TextGrammar.Proofs.Compiling
import TextGrammar.Proofs.Dependence
import TextGrammar.Proofs.Rereading
import TextGrammar.Proofs.SortedMembers

/-! Reading back the description of a grammar. Its rules come back in the order of their names, and
apart from this order nothing is lost: every rule keeps its form, and parses end as before. -/

namespace TextGrammar.Grammar

def describe (rule : Rule) : String × Json := (rule.name, rule.form.sources.toJson)

def definitionOf (member : String × Json) : String × Draft := (member.1, .ofJson member.2)

def sortedRules (grammar : Grammar) : List Rule :=
  grammar.rules.mergeSort fun rule other => decide (rule.name ≤ other.name)

def reset (grammar : Grammar) (root : String) (limit : Option Nat) : Except GrammarError Grammar :=
  let (changed, result) := grammar.setRoot root
  result.map fun _ => changed.setDepthLimit limit

theorem sortedRules_perm (grammar : Grammar) : grammar.sortedRules.Perm grammar.rules :=
  List.mergeSort_perm _ _

variable {definitions : List (String × Draft)} {grammar : Grammar}

theorem pairwise_sortedRules (named : WellNamed grammar.rules) :
    (grammar.sortedRules.map (·.name)).Pairwise (· < ·) := by
  have ordered : (grammar.sortedRules.map (·.name)).Pairwise (· ≤ ·) := by
    rw [List.pairwise_map]
    refine (List.pairwise_mergeSort ?_ ?_ grammar.rules).imp fun less => of_decide_eq_true less
    · intro rule other later first second
      exact decide_eq_true (le_trans (of_decide_eq_true first) (of_decide_eq_true second))
    · intro rule other
      rw [Bool.or_eq_true, decide_eq_true_eq, decide_eq_true_eq]
      exact le_total rule.name other.name
  have distinct := (named.perm grammar.sortedRules_perm.symm).distinct
  exact (ordered.and distinct).imp fun both => lt_of_le_of_ne both.1 both.2

theorem ascending_sortedRules (named : WellNamed grammar.rules) :
    Json.Ascending (grammar.sortedRules.map describe) := by
  rw [Json.Ascending, List.map_map]
  exact pairwise_sortedRules named

theorem toJson_eq (named : WellNamed grammar.rules) :
    grammar.toJson = .object (grammar.sortedRules.map describe) :=
  Json.ofMembers_eq_of_perm (ascending_sortedRules named) (grammar.sortedRules_perm.map describe)

theorem reset_alike {other : Grammar} (alike : ∀ name, grammar.form? name = other.form? name)
    (root : String) (limit : Option Nat) :
    (∀ source, (grammar.reset root limit).map (·.parse source) =
      (other.reset root limit).map (·.parse source)) ∧
    ∀ form source position,
      (grammar.reset root limit).map (·.matchForm form source position) =
        (other.reset root limit).map (·.matchForm form source position) := by
  -- The forms of all names are alike, so it does not matter which of them a match reaches.
  have agree : AgreeOn (fun _ => True)
      (({ grammar with root := root } : Grammar).setDepthLimit limit)
      (({ other with root := root } : Grammar).setDepthLimit limit) :=
    ⟨fun name _ => alike name, fun _ _ _ _ _ _ => trivial, rfl⟩
  simp only [reset, setRoot, alike root]
  split
  · refine ⟨fun source => ?_, fun form source position => ?_⟩
    · exact congrArg Except.ok (agree.parse_eq rfl trivial source)
    · exact congrArg Except.ok (agree.matchForm_eq (fun _ _ => trivial) source position)
  · exact ⟨fun _ => rfl, fun _ _ _ => rfl⟩

section Engine

variable [RegexEngine]

theorem settled_of_written
    (written : ∀ definition ∈ definitions, ∀ ingredient ∈ definition.2.leaves,
      ingredient.IsWritten)
    {rules : List Rule} (defined : List.Forall₂ Defines definitions rules) {rule : Rule}
    (member : rule ∈ rules) : rule.form.Settled := by
  obtain ⟨definition, among, _, normalized⟩ := exists_definition defined member
  exact Draft.settled_of_normalize (written definition among) normalized

theorem defines_definitionOf {rule : Rule} (settled : rule.form.Settled) :
    Defines (definitionOf (describe rule)) rule :=
  ⟨rfl, settled.reread⟩

/-- The description of a grammar of settled forms gives its rules in the order of their names. -/
theorem ofJson_toJson (compiled : Compiled definitions grammar)
    (settled : ∀ rule ∈ grammar.rules, rule.form.Settled) :
    ofJson grammar.toJson = .ok ⟨grammar.sortedRules, rootName, none⟩ := by
  have sorted := grammar.sortedRules_perm
  rw [toJson_eq compiled.named]
  -- All that compiling asks of the rules was asked of them before, in another order.
  refine compile_eq_ok_iff.mpr ⟨?_, compiled.named.perm sorted.symm, ?_, ?_, rfl, rfl⟩
  · change List.Forall₂ Defines ((grammar.sortedRules.map describe).map definitionOf) _
    rw [List.map_map, List.forall₂_map_left_iff, List.forall₂_same]
    exact fun rule member => defines_definitionOf (settled rule (sorted.mem_iff.mp member))
  · exact (sorted.map _).mem_iff.mpr compiled.rooted
  · intro rule member name referred
    exact (sorted.map _).mem_iff.mpr (compiled.closed rule (sorted.mem_iff.mp member) name referred)

/-- Reading back the description of a grammar gives the same rules in the byte order of their names.
The root and the limit are not described, but once they are set the two grammars give the same
answers. -/
theorem reload_changes_nothing
    (written : ∀ definition ∈ definitions, ∀ ingredient ∈ definition.2.leaves,
      ingredient.IsWritten)
    (compiled : compile definitions = .ok grammar) :
    ∃ reloaded, ofJson grammar.toJson = .ok reloaded ∧
      reloaded.ruleNames.Perm grammar.ruleNames ∧
      reloaded.ruleNames.Pairwise (fun name later =>
        name.toUTF8.data.toList < later.toUTF8.data.toList) ∧
      (∀ name, reloaded.form? name = grammar.form? name) ∧
      reloaded.toJson = grammar.toJson ∧
      reloaded.root = rootName ∧ reloaded.depthLimit = none ∧
      ∀ root limit,
        (∀ source, (reloaded.reset root limit).map (·.parse source) =
          (grammar.reset root limit).map (·.parse source)) ∧
        ∀ form source position,
          (reloaded.reset root limit).map (·.matchForm form source position) =
            (grammar.reset root limit).map (·.matchForm form source position) := by
  have compiled := compile_eq_ok_iff.mp compiled
  have settled (rule : Rule) (member : rule ∈ grammar.rules) : rule.form.Settled :=
    settled_of_written written compiled.defined member
  have named := compiled.named
  have sorted := grammar.sortedRules_perm
  have alike (name : String) : lookUp grammar.sortedRules name = grammar.form? name :=
    lookUp_of_perm sorted (named.perm sorted.symm).distinct
  have described : Json.ofMembers (grammar.sortedRules.map describe) = grammar.toJson := by
    rw [toJson_eq named]
    exact Json.ofMembers_eq_of_perm (ascending_sortedRules named) (.refl _)
  exact ⟨⟨grammar.sortedRules, rootName, none⟩, ofJson_toJson compiled settled, sorted.map _,
    (pairwise_sortedRules named).imp Text.toUTF8_lt_of_lt, alike, described, rfl, rfl,
    reset_alike alike⟩

end Engine

def unsorted : List (String × Draft) :=
  [("Root", .sequence [.literal "hi ", .reference "Name"]),
    ("Name", .leaf (.described (.array [.object
      [("pattern", .string "a|b"), ("type", .string "RegularExpression")]])))]

theorem reload_changes_nothing_unsorted :
    (∀ definition ∈ unsorted, ∀ ingredient ∈ definition.2.leaves, ingredient.IsWritten) ∧
    ∃ grammar reloaded, compile unsorted = .ok grammar ∧ grammar.ruleNames = ["Root", "Name"] ∧
      ofJson grammar.toJson = .ok reloaded ∧
      reloaded.ruleNames.Pairwise (fun name later =>
        name.toUTF8.data.toList < later.toUTF8.data.toList) ∧
      (∀ name, reloaded.form? name = grammar.form? name) ∧ reloaded.toJson = grammar.toJson := by
  have written : ∀ definition ∈ unsorted, ∀ ingredient ∈ definition.2.leaves,
      ingredient.IsWritten := by
    simp [unsorted, Form.leaves, Form.leavesOfAll, Ingredient.IsWritten]
  have compiles : ruleNames <$> compile unsorted = .ok ["Root", "Name"] := by decide +kernel
  obtain ⟨grammar, compiled, names⟩ := ok_of_map_eq_ok compiles
  obtain ⟨reloaded, again, _, ordered, forms, described, _⟩ :=
    reload_changes_nothing written compiled
  exact ⟨written, grammar, reloaded, compiled, names, again, ordered, forms, described⟩

end TextGrammar.Grammar
