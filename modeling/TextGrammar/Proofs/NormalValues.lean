import TextGrammar.Proofs.Frontier

/-! The values of matches are in normal form: no list in them has a list or an empty text among its
items, and none is of one item. The value of a sequence or repetition is put together from what is
on its frontier, in whatever way sequences and repetitions are nested inside of it, and its nodes
are those of its outermost rules. -/

namespace TextGrammar

namespace Value

mutual

def subvalues : Value → List Value
  | .text content => [.text content]
  | .list items => .list items :: subvaluesOfAll items
  | .node rule value start stop => .node rule value start stop :: value.subvalues

def subvaluesOfAll : List Value → List Value
  | [] => []
  | item :: rest => item.subvalues ++ subvaluesOfAll rest

end

/-- Without a list of one item, and without a list or an empty text among the items of a list, at
any depth. -/
def Normal (value : Value) : Prop :=
  ∀ items, .list items ∈ value.subvalues →
    items.length ≠ 1 ∧ ∀ item ∈ items, item ≠ .text "" ∧ ∀ inner, item ≠ .list inner

theorem mem_subvaluesOfAll_iff {part : Value} {items : List Value} :
    part ∈ subvaluesOfAll items ↔ ∃ item ∈ items, part ∈ item.subvalues := by
  induction items with
  | nil => simp [subvaluesOfAll]
  | cons item rest ih => simp [subvaluesOfAll, ih]

theorem normal_text (content : String) : (text content).Normal := by
  simp [Normal, subvalues]

theorem normal_node_iff {rule : String} {value : Value} {start stop : Position} :
    (node rule value start stop).Normal ↔ value.Normal := by
  simp [Normal, subvalues]

theorem normal_list_iff {items : List Value} :
    (list items).Normal ↔
      (items.length ≠ 1 ∧ ∀ item ∈ items, item ≠ .text "" ∧ ∀ inner, item ≠ .list inner) ∧
        ∀ item ∈ items, item.Normal := by
  constructor
  · intro normal
    refine ⟨normal items List.mem_cons_self, fun item member others inside => ?_⟩
    have within : .list others ∈ subvaluesOfAll items :=
      mem_subvaluesOfAll_iff.mpr ⟨item, member, inside⟩
    exact normal others (List.mem_cons_of_mem _ within)
  · rintro ⟨own, each⟩ others inside
    rcases List.mem_cons.mp inside with same | within
    · cases same
      exact own
    · rcases mem_subvaluesOfAll_iff.mp within with ⟨item, member, deeper⟩
      exact each item member others deeper

theorem isPart_iff {value : Value} :
    value.IsPart ↔ value ≠ .text "" ∧ ∀ items, value ≠ .list items := by
  cases value with
  | text content =>
      by_cases blank : content = ""
      · simp [IsPart, blank, parts_text_empty]
      · simp [isPart_text blank, blank]
  | list items =>
      have larger : items ≠ [.list items] := by
        intro same
        have sizes := congrArg sizeOf same
        simp at sizes
        omega
      simp [IsPart, parts, larger]
  | node rule value start stop => simp [isPart_node]

theorem Normal.of_mem_parts {value part : Value} (normal : value.Normal)
    (member : part ∈ value.parts) : part.Normal := by
  cases value with
  | list items => exact (normal_list_iff.mp normal).2 part member
  | _ =>
      simp only [parts] at member
      split at member
      · cases member
      · rw [List.mem_singleton.mp member]
        exact normal

theorem join_of_length_ne_one {values : List Value} (several : values.length ≠ 1) :
    join values = .list values := by
  match values with
  | [] => rfl
  | [value] => exact absurd rfl several
  | _ :: _ :: _ => rfl

theorem normal_join {values : List Value} (parts : ∀ value ∈ values, value.IsPart)
    (each : ∀ value ∈ values, value.Normal) : (join values).Normal := by
  by_cases one : values.length = 1
  · rcases List.length_eq_one_iff.mp one with ⟨value, rfl⟩
    exact each value List.mem_cons_self
  · rw [join_of_length_ne_one one, normal_list_iff]
    exact ⟨⟨one, fun value member => isPart_iff.mp (parts value member)⟩, each⟩

end Value

namespace MatchTree

open Value

def IsGroup (tree : MatchTree) : Prop :=
  ∃ start stop children,
    tree = .sequence start stop children ∨ tree = .repetition start stop children

mutual

def outermostRules : MatchTree → List MatchTree
  | .text .. => []
  | .empty .. => []
  | .sequence _ _ children => outermostRulesOfAll children
  | .repetition _ _ children => outermostRulesOfAll children
  | .rule start stop name body => [.rule start stop name body]

def outermostRulesOfAll : List MatchTree → List MatchTree
  | [] => []
  | child :: rest => child.outermostRules ++ outermostRulesOfAll rest

end

theorem asValue_eq_join_frontier {tree : MatchTree} (group : tree.IsGroup) :
    tree.asValue = join tree.frontier := by
  rw [← parts_eq_frontier]
  rcases group with ⟨start, stop, children, rfl | rfl⟩
  · rw [parts_sequence, asValue]
  · rw [parts_repetition, asValue]

theorem normal_of_mem_partsOfAll {trees : List MatchTree}
    (each : ∀ tree ∈ trees, tree.asValue.Normal) : ∀ part ∈ partsOfAll trees, part.Normal := by
  induction trees with
  | nil =>
      intro part member
      cases member
  | cons tree rest ih =>
      rw [List.forall_mem_cons] at each
      intro part member
      rcases List.mem_append.mp member with first | others
      · exact each.1.of_mem_parts first
      · exact ih each.2 part others

theorem normal_asValue (tree : MatchTree) : tree.asValue.Normal := by
  induction tree using tree_induction with
  | text start stop content => exact normal_text content
  | empty start stop => exact normal_text ""
  | sequence start stop children ih =>
      exact normal_join (isPart_of_mem_partsOfAll children) (normal_of_mem_partsOfAll ih)
  | repetition start stop children ih =>
      exact normal_join (isPart_of_mem_partsOfAll children) (normal_of_mem_partsOfAll ih)
  | rule start stop name body ih =>
      rw [asValue, normal_node_iff]
      exact ih

theorem map_nodes_of_all {trees : List MatchTree}
    (each : ∀ tree ∈ trees, tree.asValue.nodes.map some = tree.outermostRules.map ruleNode?) :
    (join (partsOfAll trees)).nodes.map some = (outermostRulesOfAll trees).map ruleNode? := by
  rw [additive_nodes.join, additive_nodes.partsOfAll]
  induction trees with
  | nil => rfl
  | cons tree rest ih =>
      rw [List.forall_mem_cons] at each
      rw [outermostRulesOfAll, List.flatMap_cons, List.map_append, List.map_append, each.1,
        ih each.2]

/-- The nodes of a value are those of the outermost rules of the match, each of them once. -/
theorem map_nodes_asValue (tree : MatchTree) :
    tree.asValue.nodes.map some = tree.outermostRules.map ruleNode? := by
  induction tree using tree_induction with
  | text start stop content => rfl
  | empty start stop => rfl
  | sequence start stop children ih => exact map_nodes_of_all ih
  | repetition start stop children ih => exact map_nodes_of_all ih
  | rule start stop name body ih => rfl

/-- The value of a sequence or repetition is what stands alone on its frontier, and else the list
of what is on it. The value of any match is in normal form and has the nodes of its outermost
rules. -/
theorem values_are_normal_frontiers (tree : MatchTree) :
    (tree.IsGroup →
      (∀ value, tree.frontier = [value] → tree.asValue = value) ∧
      (tree.frontier.length ≠ 1 → tree.asValue = .list tree.frontier) ∧
      ∀ other : MatchTree, other.IsGroup → other.frontier = tree.frontier →
        other.asValue = tree.asValue) ∧
    tree.asValue.Normal ∧
    tree.asValue.nodes.map some = tree.outermostRules.map ruleNode? := by
  refine ⟨fun group => ⟨?_, ?_, ?_⟩, normal_asValue tree, map_nodes_asValue tree⟩
  · intro value alone
    rw [asValue_eq_join_frontier group, alone]
    rfl
  · intro several
    rw [asValue_eq_join_frontier group, join_of_length_ne_one several]
  · intro other also same
    rw [asValue_eq_join_frontier group, asValue_eq_join_frontier also, same]

def gapped : MatchTree :=
  .sequence .start ⟨1, 0, 1⟩
    [.text .start .start "",
      .repetition .start .start [.rule .start .start "Gap" (.sequence .start .start [])],
      .sequence .start ⟨1, 0, 1⟩ [.text .start ⟨1, 0, 1⟩ "a", .empty ⟨1, 0, 1⟩ ⟨1, 0, 1⟩]]

def ungapped : MatchTree :=
  .repetition .start ⟨1, 0, 1⟩
    [.rule .start .start "Gap" (.sequence .start .start []), .text .start ⟨1, 0, 1⟩ "a"]

theorem values_are_normal_frontiers_gapped :
    gapped.asValue = .list [.node "Gap" (.list []) .start .start, .text "a"] ∧
      ungapped.asValue = gapped.asValue ∧ gapped.asValue.Normal ∧
      gapped.asValue.nodes = [⟨"Gap", .list [], .start, .start⟩] := by
  have group : gapped.IsGroup := ⟨_, _, _, .inl rfl⟩
  have also : ungapped.IsGroup := ⟨_, _, _, .inr rfl⟩
  have laws := values_are_normal_frontiers gapped
  refine ⟨(laws.1 group).2.1 (by decide), (laws.1 group).2.2 ungapped also rfl, laws.2.1, ?_⟩
  exact (List.map_inj_right fun _ _ => Option.some.inj).mp laws.2.2

end MatchTree

end TextGrammar
