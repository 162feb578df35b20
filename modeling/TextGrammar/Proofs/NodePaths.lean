import Mathlib.Data.List.Lex
import TextGrammar.Proofs.ValueText

/-! Paths to nodes. A path with a dot in it leads where its second half leads from where its first
half leads. A path without a dot leads to the first node of that rule which lies below a node in
lists only. The order of the nodes is that of their addresses: the places of the items that lead
to them, compared from the outermost list on. -/

namespace TextGrammar

namespace Value

/-- The node at an address: the place of an item in a list, of an item in that list, and so on. No
address goes on into a node. -/
def nodeAt? : Value → List Nat → Option Node
  | .node rule value start stop, [] => some ⟨rule, value, start, stop⟩
  | .list items, place :: rest => items[place]?.bind fun item => item.nodeAt? rest
  | _, _ => none

/-- A node of a rule that no other node of this rule comes before. -/
def IsFirst (value : Value) (rule : String) (node : Node) : Prop :=
  ∃ address, value.nodeAt? address = some node ∧ node.rule = rule ∧
    ∀ other later, value.nodeAt? other = some later → later.rule = rule →
      other = address ∨ List.Lex (· < ·) address other

variable {value item : Value} {items rest : List Value} {address : List Nat} {rule : String}
  {node : Node}

theorem mem_nodes_of_nodeAt? (found : value.nodeAt? address = some node) :
    node ∈ value.nodes := by
  induction address generalizing value with
  | nil =>
      cases value with
      | node _ _ _ _ => exact List.mem_singleton.mpr (Option.some.inj found).symm
      | _ => cases found
  | cons place rest ih =>
      cases value with
      | list items =>
          rcases Option.bind_eq_some_iff.mp found with ⟨item, here, below⟩
          rw [additive_nodes.list, List.mem_flatMap]
          exact ⟨item, List.mem_of_getElem? here, ih below⟩
      | _ => cases found

theorem IsFirst.head (first : item.IsFirst rule node) :
    (list (item :: rest)).IsFirst rule node := by
  rcases first with ⟨address, found, named, least⟩
  refine ⟨0 :: address, found, named, ?_⟩
  intro other later foundLater namedLater
  cases other with
  | nil => cases foundLater
  | cons place deeper =>
      cases place with
      | zero =>
          rcases least deeper later foundLater namedLater with rfl | before
          · exact .inl rfl
          · exact .inr (.cons before)
      | succ place => exact .inr (.rel (Nat.succ_pos place))

theorem IsFirst.tail (first : (list rest).IsFirst rule node)
    (absent : ∀ inner ∈ item.nodes, inner.rule ≠ rule) :
    (list (item :: rest)).IsFirst rule node := by
  rcases first with ⟨address, found, named, least⟩
  cases address with
  | nil => cases found
  | cons place deeper =>
      refine ⟨(place + 1) :: deeper, found, named, ?_⟩
      intro other later foundLater namedLater
      cases other with
      | nil => cases foundLater
      | cons otherPlace otherDeeper =>
          cases otherPlace with
          | zero => exact absurd namedLater (absent later (mem_nodes_of_nodeAt? foundLater))
          | succ otherPlace =>
              rcases least (otherPlace :: otherDeeper) later foundLater namedLater with
                same | before
              · cases same
                exact .inl rfl
              · cases before with
                | rel less => exact .inr (.rel (Nat.succ_lt_succ less))
                | cons before => exact .inr (.cons before)

theorem IsFirst.unique {other : Node} (first : value.IsFirst rule node)
    (second : value.IsFirst rule other) : node = other := by
  rcases first with ⟨address, found, named, least⟩
  rcases second with ⟨otherAddress, foundOther, namedOther, leastOther⟩
  have same : otherAddress = address := by
    rcases least otherAddress other foundOther namedOther with same | before
    · exact same
    · rcases leastOther address node found named with same | after
      · exact same.symm
      · exact absurd after (asymm before)
  rw [same, found] at foundOther
  exact Option.some.inj foundOther

theorem ne_of_find?_nodes_eq_none
    (none : value.nodes.find? (·.rule == rule) = none) :
    ∀ inner ∈ value.nodes, inner.rule ≠ rule := by
  simpa using none

mutual

theorem isFirst_of_find? : ∀ (value : Value) {node : Node},
    value.nodes.find? (·.rule == rule) = some node → value.IsFirst rule node
  | .text _, _, found => by cases found
  | .list items, _, found => isFirst_of_find?_nodesOfAll items found
  | .node own value start stop, _, found => by
      have named := List.find?_some found
      have same := List.mem_singleton.mp (List.mem_of_find?_eq_some found)
      refine ⟨[], congrArg some same.symm, by simpa using named, ?_⟩
      intro other _ _ _
      cases other with
      | nil => exact .inl rfl
      | cons place deeper => exact .inr .nil

theorem isFirst_of_find?_nodesOfAll : ∀ (items : List Value) {node : Node},
    (nodesOfAll items).find? (·.rule == rule) = some node → (list items).IsFirst rule node
  | [], _, found => by cases found
  | item :: rest, _, found => by
      rw [nodesOfAll, List.find?_append, Option.or_eq_some_iff] at found
      rcases found with inFirst | ⟨absent, inRest⟩
      · exact (isFirst_of_find? item inFirst).head
      · exact (isFirst_of_find?_nodesOfAll rest inRest).tail (ne_of_find?_nodes_eq_none absent)

end

theorem find?_nodes_eq_some_iff :
    value.nodes.find? (·.rule == rule) = some node ↔ value.IsFirst rule node := by
  constructor
  · exact isFirst_of_find? value
  · intro first
    cases found : value.nodes.find? (·.rule == rule) with
    | some other => rw [(isFirst_of_find? value found).unique first]
    | none =>
        rcases first with ⟨address, there, named, -⟩
        exact absurd named (ne_of_find?_nodes_eq_none found node (mem_nodes_of_nodeAt? there))

end Value

namespace Node

theorem segments_ne_nil (path : List Char) : segments path ≠ [] := by
  cases path with
  | nil => exact List.cons_ne_nil _ _
  | cons c rest =>
      rw [segments]
      split
      · exact List.cons_ne_nil _ _
      · split <;> exact List.cons_ne_nil _ _

theorem segments_append_dot (path rest : List Char) :
    segments (path ++ '.' :: rest) = segments path ++ segments rest := by
  induction path with
  | nil => rfl
  | cons c others ih =>
      rw [List.cons_append, segments, segments, ih]
      split
      · rfl
      · -- The character belongs to the first part of the first path, which is never without parts.
        cases parts : segments others with
        | nil => exact absurd parts (segments_ne_nil others)
        | cons first more => rfl

theorem segments_of_not_mem {name : List Char} (dotless : '.' ∉ name) :
    segments name = [name] := by
  induction name with
  | nil => rfl
  | cons c rest ih =>
      rcases not_or.mp (List.mem_cons.not.mp dotless) with ⟨other, dotlessRest⟩
      rw [segments, if_neg (Ne.symm other), ih dotlessRest]

theorem get?_append_dot (node : Node) (path rest : String) :
    node.get? (path ++ "." ++ rest) = (node.get? path).bind (·.get? rest) := by
  have characters : (path ++ "." ++ rest).toList = path.toList ++ '.' :: rest.toList := by
    simp
  rw [get?, characters, segments_append_dot, List.foldlM_append]
  rfl

theorem get?_of_not_mem (node : Node) {rule : String} (dotless : '.' ∉ rule.toList) :
    node.get? rule = node.child? rule := by
  rw [get?, segments_of_not_mem dotless, List.foldlM_cons, String.ofList_toList]
  simp

/-- Paths compose, and a path without a dot is the name of a rule. It leads to the first node of
this rule that lies in the value and not inside of another node, and nowhere if there is none. -/
theorem paths_compose_and_lead_to_first (node : Node) :
    (∀ path rest : String,
      node.get? (path ++ "." ++ rest) = (node.get? path).bind (·.get? rest)) ∧
    ∀ rule : String, '.' ∉ rule.toList →
      node.get? rule = node.child? rule ∧
      node.child? rule = (node.childrenOf rule).head? ∧
      (∀ found, node.child? rule = some found ↔ node.value.IsFirst rule found) ∧
      (node.child? rule = none ↔
        ∀ address inner, node.value.nodeAt? address = some inner → inner.rule ≠ rule) := by
  refine ⟨node.get?_append_dot, ?_⟩
  intro rule dotless
  have first (found : Node) : node.child? rule = some found ↔ node.value.IsFirst rule found :=
    Value.find?_nodes_eq_some_iff
  refine ⟨node.get?_of_not_mem dotless, (List.head?_filter).symm, first, ?_⟩
  constructor
  · intro none address inner there
    exact Value.ne_of_find?_nodes_eq_none none inner (Value.mem_nodes_of_nodeAt? there)
  · intro absent
    rw [Option.eq_none_iff_forall_ne_some]
    intro found some
    rcases (first found).mp some with ⟨address, there, named, -⟩
    exact absent address found there named

def innerWord : Node := ⟨"Word", .text "hot", ⟨1, 0, 1⟩, ⟨4, 0, 4⟩⟩

def outerWord : Node := ⟨"Word", .text "dog", ⟨4, 0, 4⟩, ⟨7, 0, 7⟩⟩

def paired : Node :=
  ⟨"Root",
    .list
      [.list
        [.text "(",
          .node "Pair" (.list [.node "" innerWord.toValue ⟨1, 0, 1⟩ ⟨4, 0, 4⟩]) ⟨1, 0, 1⟩
            ⟨4, 0, 4⟩],
        .list [outerWord.toValue], innerWord.toValue],
    .start, ⟨7, 0, 7⟩⟩

theorem paths_compose_and_lead_to_first_paired :
    (paired.get? "Pair..Word" = (paired.get? "Pair.").bind (·.get? "Word") ∧
      paired.get? "Pair..Word" = some innerWord) ∧
    '.' ∉ "Word".toList ∧ paired.get? "Word" = some outerWord ∧
      paired.value.IsFirst "Word" outerWord := by
  have laws := paths_compose_and_lead_to_first paired
  have dotless : '.' ∉ "Word".toList := by decide
  rcases laws.2 "Word" dotless with ⟨path, -, first, -⟩
  have found : paired.child? "Word" = some outerWord := rfl
  exact ⟨⟨laws.1 "Pair." "Word", rfl⟩, dotless, path.trans found, (first outerWord).mp found⟩

end Node

end TextGrammar
