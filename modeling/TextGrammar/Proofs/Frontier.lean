import TextGrammar.Proofs.Tiling
import TextGrammar.Proofs.ValueParts

/-! The frontier of a match: its texts and outermost rules in a row, however deep sequences and
repetitions are nested around them. The value of the match has the same parts. So the node of a
match is that of a rule which is alone on the frontier, be it the match of that rule or that of a
sequence or repetition around it. -/

namespace TextGrammar

namespace MatchTree

mutual

/-- The texts of a match that are not empty and its outermost rules, in order. -/
def frontier : MatchTree → List Value
  | .text _ _ content => if content = "" then [] else [.text content]
  | .empty .. => []
  | .sequence _ _ children => frontierOfAll children
  | .repetition _ _ children => frontierOfAll children
  | .rule start stop name body => [.node name body.asValue start stop]

def frontierOfAll : List MatchTree → List Value
  | [] => []
  | child :: rest => child.frontier ++ frontierOfAll rest

end

theorem partsOfAll_eq_frontierOfAll {trees : List MatchTree}
    (each : ∀ tree ∈ trees, tree.asValue.parts = tree.frontier) :
    partsOfAll trees = frontierOfAll trees := by
  induction trees with
  | nil => rfl
  | cons tree rest ih =>
      rw [List.forall_mem_cons] at each
      rw [partsOfAll, frontierOfAll, each.1, ih each.2]

/-- A value keeps what is on the frontier, and nothing else. -/
theorem parts_eq_frontier (tree : MatchTree) : tree.asValue.parts = tree.frontier := by
  induction tree using tree_induction with
  | text start stop content =>
      by_cases blank : content = ""
      · rw [asValue, frontier, if_pos blank, blank, Value.parts_text_empty]
      · rw [asValue, frontier, if_neg blank]
        exact Value.isPart_text blank
  | empty start stop => rfl
  | sequence start stop children ih =>
      rw [parts_sequence, frontier, partsOfAll_eq_frontierOfAll ih]
  | repetition start stop children ih =>
      rw [parts_repetition, frontier, partsOfAll_eq_frontierOfAll ih]
  | rule start stop name body ih => rfl

def ruleNode? : MatchTree → Option Node
  | .rule start stop name body => some ⟨name, body.asValue, start, stop⟩
  | _ => none

end MatchTree

theorem Value.asNode?_eq_some_iff {value : Value} {node : Node} :
    value.asNode? = some node ↔ value = node.toValue := by
  cases value with
  | node rule value start stop => cases node; simp [asNode?, Node.toValue]
  | _ => simp [asNode?, Node.toValue]

namespace MatchTree

theorem asNode?_eq_some_iff {tree : MatchTree} {node : Node} :
    tree.asNode? = some node ↔ tree.frontier = [node.toValue] := by
  rw [asNode?, Value.asNode?_eq_some_iff, ← parts_eq_frontier]
  constructor
  · intro value
    rw [value]
    rfl
  · intro parts
    have said : tree.asValue.parts ≠ [] := by simp [parts]
    rw [← join_parts said, parts]
    rfl

theorem asNode?_eq_some_of_ruleNode? {tree : MatchTree} {node : Node}
    (named : tree.ruleNode? = some node) : tree.asNode? = some node := by
  cases tree with
  | rule start stop name body =>
      cases named
      rfl
  | _ => cases named

/-- The node of a match is that of the only value on its frontier. So a match has the node of its
rule if it is the match of a rule, or if no node is alone on its frontier, and not otherwise. -/
theorem node_of_match_is_alone_on_frontier (tree : MatchTree) :
    (∀ node, tree.asNode? = some node ↔ tree.frontier = [node.toValue]) ∧
      (tree.asNode? = tree.ruleNode? ↔
        tree.ruleNode?.isSome ∨ ∀ node : Node, tree.frontier ≠ [node.toValue]) := by
  constructor
  · intro node
    exact asNode?_eq_some_iff
  · cases named : tree.ruleNode? with
    | some node =>
        have node := asNode?_eq_some_of_ruleNode? named
        simp [node]
    | none =>
        rw [Option.eq_none_iff_forall_ne_some]
        simp [asNode?_eq_some_iff]

end MatchTree

namespace Grammar

def animals : Grammar :=
  ⟨[⟨"Root", .sequence [.reference "Animal", .optional (.literal "!")]⟩,
    ⟨"Animal", .literal "dog"⟩], "Root", none⟩

def uncalled : MatchTree :=
  .sequence .start ⟨3, 0, 3⟩ [.rule .start ⟨3, 0, 3⟩ "Animal" (.text .start ⟨3, 0, 3⟩ "dog"),
    .empty ⟨3, 0, 3⟩ ⟨3, 0, 3⟩]

theorem sequence_may_have_node :
    animals.matchForm (.sequence [.reference "Animal", .optional (.literal "!")]) "dog" .start =
        .ok uncalled ∧
      uncalled.ruleNode? = none ∧ uncalled.asNode? ≠ uncalled.ruleNode? ∧
      uncalled.asNode? = some ⟨"Animal", .text "dog", .start, ⟨3, 0, 3⟩⟩ := by
  have matched : animals.matchForm (.sequence [.reference "Animal", .optional (.literal "!")])
      "dog" .start = .ok uncalled := by
    with_unfolding_all rfl
  have node : uncalled.asNode? = some ⟨"Animal", .text "dog", .start, ⟨3, 0, 3⟩⟩ := rfl
  refine ⟨matched, rfl, ?_, node⟩
  rw [node]
  exact Option.some_ne_none _

end Grammar

end TextGrammar
