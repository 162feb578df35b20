import Mathlib.Data.List.Chain
import Mathlib.Data.List.Nodup
import TextGrammar.Proofs.Compiling
import TextGrammar.Proofs.FailureOrigins

/-! Circular references. A reported chain is a path through the references of the grammar that comes
back to one of its rules at the same offset, so a grammar without a cycle of references reports
none. -/

namespace TextGrammar.Grammar

/-- A chain of rules, outermost first, that comes back to one of them at an offset, and the
innermost of them to blame. -/
structure LeftRecursive (grammar : Grammar) (chain : List ActiveRule) (blamed : Option String)
    (offset : Nat) : Prop where
  distinct : chain.Nodup
  ordered : chain.Pairwise fun outer inner => outer.offset ≤ inner.offset
  linked : chain.IsChain fun outer inner => grammar.Refers outer.rule inner.rule
  recurs : ∃ before entry after last, chain = before ++ entry :: after ∧
    (∀ active ∈ entry :: after, active.offset = offset) ∧ chain.getLast? = some last ∧
    grammar.Refers last.rule entry.rule ∧ blamed = some last.rule

theorem LeftRecursive.exists_cycle {grammar : Grammar} {chain : List ActiveRule}
    {blamed : Option String} {offset : Nat}
    (recursive : grammar.LeftRecursive chain blamed offset) :
    ∃ name, Relation.TransGen grammar.Refers name name := by
  rcases recursive.recurs with ⟨before, entry, after, last, rfl, _, ends, back, _⟩
  have linked := recursive.linked.right_of_append
  have names : ((entry :: after).map (·.rule)).IsChain grammar.Refers :=
    (List.isChain_map _).mpr linked
  have ends : ((entry :: after).map (·.rule)).getLast (by simp) = last.rule := by
    rw [List.getLast_map]
    congr 1
    simpa [List.getLast?_append, List.getLast?_eq_some_getLast] using ends
  have path : Relation.ReflTransGen grammar.Refers entry.rule last.rule :=
    List.relationReflTransGen_of_exists_isChain_cons _ names ends
  exact ⟨entry.rule, .tail' path back⟩

theorem Trail.offset_eq {grammar : Grammar} {asked form : Form Pattern} {source : List Char}
    {active inner outer : List ActiveRule} {cursor : Cursor source} {entry later : ActiveRule}
    (trail : grammar.Trail asked active form cursor) (split : active = inner ++ entry :: outer)
    (here : entry.offset = cursor.position.offset) (member : later ∈ inner) :
    later.offset = cursor.position.offset := by
  have passed := trail.passed
  have ordered := trail.ordered
  rw [split] at passed ordered
  have upper : later.offset ≤ cursor.position.offset :=
    passed later (List.mem_append_left _ member)
  have lower : entry.offset ≤ later.offset :=
    (List.pairwise_append.mp ordered).2.2 later member entry List.mem_cons_self
  omega

variable {grammar : Grammar} {asked owner : Form Pattern} {source : List Char} {goal : Goal source}
  {error : MatchError (Form Pattern)} {chain : List ActiveRule}

theorem Origin.leftRecursive (origin : grammar.Origin asked error goal owner)
    (attributed : error.rule = goal.active.head?.map (·.rule))
    (reason : error.reason = .circular chain) :
    chain = goal.active.reverse ∧
      grammar.LeftRecursive chain error.rule error.position.offset ∧
      ∃ first, chain.head? = some first ∧ first.rule ∈ asked.references := by
  rcases origin with ⟨trail, part, raised, _, place⟩
  rw [reason] at raised
  rcases goal with ⟨active, form, cursor⟩
  cases raised with
  | @circular _ name _ body found taken =>
      have referred : name ∈ owner.references := (Form.mem_references_iff name owner).mpr part
      rcases List.append_of_mem taken with ⟨inner, outer, split⟩
      cases active with
      | nil => cases taken
      | cons innermost others =>
          have refers : grammar.Refers innermost.rule name := trail.refers referred
          refine ⟨rfl, ⟨?_, ?_, ?_, ?_⟩, ?_⟩
          · exact List.nodup_reverse.mpr trail.distinct
          · exact List.pairwise_reverse.mpr trail.ordered
          · exact List.isChain_reverse.mpr trail.linked
          · refine ⟨outer.reverse, ⟨name, cursor.position.offset⟩, inner.reverse, innermost, ?_, ?_,
              ?_, refers, attributed⟩
            · simp [split]
            · intro entry member
              rw [place]
              rcases List.mem_cons.mp member with rfl | member
              · rfl
              · exact trail.offset_eq split rfl (List.mem_reverse.mp member)
            · simp
          · have last : ∃ first, (innermost :: others).getLast? = some first :=
              ⟨_, List.getLast?_eq_some_getLast (List.cons_ne_nil _ _)⟩
            rcases last with ⟨first, same⟩
            exact ⟨first, by rw [List.head?_reverse, same], trail.outermost first same⟩

theorem leftRecursive_of_matchForm {form : Form Pattern} {source : String} {position : Position}
    {error : MatchError String} (failed : grammar.matchForm form source position = .error error)
    (reason : error.reason = .circular chain) :
    grammar.LeftRecursive chain error.rule error.position.offset ∧
      ∃ first, chain.head? = some first ∧ first.rule ∈ form.references := by
  rcases exists_origin_of_matchForm failed with
    ⟨_, rfl⟩ | ⟨original, goal, owner, rfl, origin, attributed⟩
  · cases reason
  · exact (origin.leftRecursive attributed (Reason.map_eq_circular_iff.mp reason)).2

theorem leftRecursive_of_parse {source : String} {error : MatchError String}
    (failed : grammar.parse source = .error error) (reason : error.reason = .circular chain) :
    grammar.LeftRecursive chain error.rule error.position.offset ∧
      chain.head? = some ⟨grammar.root, 0⟩ := by
  rcases exists_origin_of_parse failed with
    ⟨_, _, _, _, rfl⟩ | ⟨original, goal, owner, rfl, origin, attributed, outermost⟩
  · cases reason
  · have circular := origin.leftRecursive attributed (Reason.map_eq_circular_iff.mp reason)
    rcases circular with ⟨rules, recursive, first, head, _⟩
    refine ⟨recursive, ?_⟩
    rw [rules, List.head?_reverse] at head ⊢
    rcases outermost with none | ⟨inner, same⟩
    · rw [none] at head
      cases head
    · rw [← same]
      simp

/-- Every circular reference that is reported is left recursion: a chain of rules from the one that
was asked for, each referring to the next, and the last of them, which is to blame, referring back
to one that was entered at the offset of the failure. There is none without a cycle of references.
-/
theorem circular_references_are_cycles (grammar : Grammar) :
    (∀ form source position error chain,
      grammar.matchForm form source position = .error error → error.reason = .circular chain →
      grammar.LeftRecursive chain error.rule error.position.offset ∧
        ∃ first, chain.head? = some first ∧ first.rule ∈ form.references) ∧
    (∀ source error chain,
      grammar.parse source = .error error → error.reason = .circular chain →
      grammar.LeftRecursive chain error.rule error.position.offset ∧
        chain.head? = some ⟨grammar.root, 0⟩) ∧
    ((∀ name, ¬ Relation.TransGen grammar.Refers name name) →
      (∀ form source position error chain,
        grammar.matchForm form source position = .error error → error.reason ≠ .circular chain) ∧
      ∀ source error chain, grammar.parse source = .error error →
        error.reason ≠ .circular chain) := by
  refine ⟨fun form source position error chain => leftRecursive_of_matchForm,
    fun source error chain => leftRecursive_of_parse, ?_⟩
  intro acyclic
  constructor
  · intro form source position error chain failed reason
    rcases (leftRecursive_of_matchForm failed reason).1.exists_cycle with ⟨name, cycle⟩
    exact acyclic name cycle
  · intro source error chain failed reason
    rcases (leftRecursive_of_parse failed reason).1.exists_cycle with ⟨name, cycle⟩
    exact acyclic name cycle

def lists : Grammar :=
  ⟨[⟨"Root", .sequence [.literal "x", .optional (.literal "!"), .reference "List"]⟩,
    ⟨"List", .sequence [.reference "List", .literal ",", .literal "x"]⟩], "Root", none⟩

def items : Grammar :=
  ⟨[⟨"Root", .manyOf (.reference "Item")⟩, ⟨"Item", .literal "x"⟩], "Root", none⟩

theorem items_refers {rule name : String} (refers : items.Refers rule name) :
    rule = "Root" ∧ name = "Item" := by
  rcases refers with ⟨form, found, referred⟩
  have member := mem_of_lookUp_eq_some found
  simp only [items, List.mem_cons, Rule.mk.injEq, List.not_mem_nil, or_false] at member
  rcases member with ⟨rfl, rfl⟩ | ⟨rfl, rfl⟩
  · simpa [Form.references] using referred
  · simp [Form.references] at referred

theorem circular_references_are_cycles_lists :
    (lists.parse "x,x" = .error ⟨some "List", .circular [⟨"Root", 0⟩, ⟨"List", 1⟩], ⟨1, 0, 1⟩⟩ ∧
      lists.LeftRecursive [⟨"Root", 0⟩, ⟨"List", 1⟩] (some "List") 1) ∧
    (∀ name, ¬ Relation.TransGen items.Refers name name) ∧
      ∀ source error chain, items.parse source = .error error → error.reason ≠ .circular chain := by
  have result : lists.parse "x,x" =
      .error ⟨some "List", .circular [⟨"Root", 0⟩, ⟨"List", 1⟩], ⟨1, 0, 1⟩⟩ := by
    with_unfolding_all rfl
  have acyclic : ∀ name, ¬ Relation.TransGen items.Refers name name := by
    intro name cycle
    rcases Relation.TransGen.head'_iff.mp cycle with ⟨_, first, _⟩
    rcases Relation.TransGen.tail'_iff.mp cycle with ⟨_, _, last⟩
    have root := (items_refers first).1
    have item := (items_refers last).2
    rw [root] at item
    exact absurd item (by decide)
  exact ⟨⟨result, ((circular_references_are_cycles lists).2.1 _ _ _ result rfl).1⟩, acyclic,
    ((circular_references_are_cycles items).2.2 acyclic).2⟩

end TextGrammar.Grammar
