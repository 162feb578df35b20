import TextGrammar.Proofs.LeftRecursion
import TextGrammar.Proofs.RuleStack

/-! What enclosing rules do to a match. Of the rules that are being matched around a form, only
those that were entered at the offset of its cursor matter. The others are shown where a circular
reference is reported, and that is all. -/

namespace TextGrammar

variable {source : List Char} {left right : List ActiveRule}

/-- Failures under enclosing rules and under others: the same ones, but for the rules that a
circular reference shows in front of those that were entered since. -/
inductive SameFailure (left right : List ActiveRule) :
    MatchError (Form Pattern) → MatchError (Form Pattern) → Prop
  | plain (error) (uncircular : ∀ chain, error.reason ≠ .circular chain) :
      SameFailure left right error error
  | circular (rule inner position) :
      SameFailure left right ⟨rule, .circular (left.reverse ++ inner), position⟩
        ⟨rule, .circular (right.reverse ++ inner), position⟩

inductive SameOutcome (left right : List ActiveRule) : Outcome source → Outcome source → Prop
  | matched (tree behind) : SameOutcome left right (.ok (tree, behind)) (.ok (tree, behind))
  | failed {error other} (same : SameFailure left right error other) :
      SameOutcome left right (.error error) (.error other)

theorem SameFailure.isFatal_eq {error other : MatchError (Form Pattern)}
    (same : SameFailure left right error other) :
    error.reason.isFatal = other.reason.isFatal := by
  cases same <;> rfl

theorem SameFailure.within {error other : MatchError (Form Pattern)}
    (same : SameFailure left right error other) (name : String) :
    SameFailure left right (error.within name) (other.within name) := by
  cases same with
  | plain _ uncircular => exact .plain _ uncircular
  | circular rule inner position => exact .circular (some (rule.getD name)) inner position

namespace SameOutcome

theorem expected (form : Form Pattern) (cursor : Cursor source) :
    SameOutcome left right (.error (form.expected cursor) : Outcome source)
      (.error (form.expected cursor)) :=
  .failed (.plain _ fun _ => by simp [Form.expected])

theorem within {outcome other : Outcome source} (same : SameOutcome left right outcome other)
    (name : String) :
    SameOutcome left right (outcome.mapError (·.within name)) (other.mapError (·.within name)) := by
  cases same with
  | matched tree behind => exact .matched tree behind
  | failed same => exact .failed (same.within name)

end SameOutcome

namespace Form

variable {resolve other : String → Cursor source → Outcome source}

/-- A form comes to the same if its references do. Only references from the cursor on matter. -/
theorem matchWith_sameOutcome
    (forward : ∀ name cursor tree behind, resolve name cursor = .ok (tree, behind) →
      cursor ≤ behind)
    {form : Form Pattern} {cursor : Cursor source}
    (references : ∀ name later, cursor ≤ later →
      SameOutcome left right (resolve name later) (other name later)) :
    SameOutcome left right (form.matchWith resolve cursor) (form.matchWith other cursor) := by
  induction form, cursor using match_induction with
  | literal text cursor =>
      rw [matchWith, matchWith]
      split
      · exact .matched _ _
      · exact .expected _ cursor
  | leaf pattern cursor =>
      rw [matchWith, matchWith]
      split
      · exact .matched _ _
      · exact .expected _ cursor
  | sequence_nil cursor =>
      rw [matchWith_sequence_nil, matchWith_sequence_nil]
      exact .matched _ _
  | sequence_cons form rest cursor first others =>
      have head := first references
      rw [matchWith_sequence_cons, matchWith_sequence_cons]
      generalize found : form.matchWith resolve cursor = outcome at head ⊢
      generalize form.matchWith other cursor = otherOutcome at head ⊢
      cases head with
      | failed same => exact .failed same
      | matched tree behind =>
          have moved := le_of_matchWith forward found
          have tail := others behind fun name later after =>
            references name later (moved.trans after)
          dsimp only
          generalize (sequence rest).matchWith resolve behind = outcome at tail ⊢
          generalize (sequence rest).matchWith other behind = otherOutcome at tail ⊢
          cases tail with
          | failed same => exact .failed same
          | matched trees last => exact .matched _ _
  | oneOf_nil cursor =>
      rw [matchWith_oneOf_nil, matchWith_oneOf_nil]
      exact .expected _ cursor
  | oneOf_cons form rest cursor first others =>
      have head := first references
      have tail := others references
      rw [matchWith_oneOf_cons, matchWith_oneOf_cons]
      generalize form.matchWith resolve cursor = outcome at head ⊢
      generalize form.matchWith other cursor = otherOutcome at head ⊢
      generalize (oneOf rest).matchWith resolve cursor = following at tail ⊢
      generalize (oneOf rest).matchWith other cursor = otherFollowing at tail ⊢
      cases head with
      | matched tree behind => exact .matched _ _
      | failed same =>
          simp only [same.isFatal_eq]
          split
          · exact .failed same
          · cases tail with
            | matched tree behind => exact .matched _ _
            | failed same =>
                simp only [same.isFatal_eq]
                split
                · exact .failed same
                · exact .expected _ cursor
  | manyOf form cursor once again =>
      have head := once references
      rw [matchWith_manyOf, matchWith_manyOf]
      generalize form.matchWith resolve cursor = outcome at head ⊢
      generalize form.matchWith other cursor = otherOutcome at head ⊢
      cases head with
      | failed same =>
          simp only [same.isFatal_eq]
          split
          · exact .failed same
          · exact .expected _ cursor
      | matched tree behind =>
          dsimp only
          split
          · rename_i moved
            have after := Cursor.le_of_offset_lt moved
            have tail := again behind moved fun name later beyond =>
              references name later (after.trans beyond)
            generalize (manyOf form).matchWith resolve behind = following at tail ⊢
            generalize (manyOf form).matchWith other behind = otherFollowing at tail ⊢
            cases tail with
            | matched trees last => exact .matched _ _
            | failed same =>
                simp only [same.isFatal_eq]
                split
                · exact .failed same
                · exact .matched _ _
          · exact .matched _ _
  | optional form cursor ih =>
      have inside := ih references
      rw [matchWith, matchWith]
      generalize form.matchWith resolve cursor = outcome at inside ⊢
      generalize form.matchWith other cursor = otherOutcome at inside ⊢
      cases inside with
      | matched tree behind => exact .matched _ _
      | failed same =>
          simp only [same.isFatal_eq]
          split
          · exact .failed same
          · exact .matched _ _
  | reference name cursor =>
      have rule := references name cursor le_rfl
      rw [matchWith, matchWith]
      generalize resolve name cursor = outcome at rule ⊢
      generalize other name cursor = otherOutcome at rule ⊢
      cases rule with
      | matched body behind => exact .matched _ _
      | failed same => exact .failed same
  | except form exclusions cursor ih =>
      have inside := ih references
      rw [matchWith, matchWith]
      generalize form.matchWith resolve cursor = outcome at inside ⊢
      generalize form.matchWith other cursor = otherOutcome at inside ⊢
      cases inside with
      | failed same => exact .failed same
      | matched tree behind =>
          dsimp only
          split
          · exact .expected _ cursor
          · exact .matched _ _

end Form

/-- Rules that are being matched when a cursor is reached, and others. The same rules of both were
entered at its offset, and none behind it. -/
structure SameHere (cursor : Cursor source) (left right : List ActiveRule) : Prop where
  leftPassed : ∀ entry ∈ left, entry.offset ≤ cursor.position.offset
  rightPassed : ∀ entry ∈ right, entry.offset ≤ cursor.position.offset
  here : ∀ name, ⟨name, cursor.position.offset⟩ ∈ left ↔ ⟨name, cursor.position.offset⟩ ∈ right

/-- From the cursor on, a rule is being matched under both or under neither. -/
theorem SameHere.mem_append_iff {cursor later : Cursor source} (same : SameHere cursor left right)
    (after : cursor ≤ later) (inner : List ActiveRule) (name : String) :
    ⟨name, later.position.offset⟩ ∈ inner ++ left ↔
      ⟨name, later.position.offset⟩ ∈ inner ++ right := by
  rw [List.mem_append, List.mem_append]
  refine or_congr_right ?_
  rcases after with rfl | moved
  · exact same.here name
  · -- Behind the cursor nothing was entered yet.
    constructor
    · intro member
      exact absurd (same.leftPassed _ member) (Nat.not_le_of_lt moved)
    · intro member
      exact absurd (same.rightPassed _ member) (Nat.not_le_of_lt moved)

namespace Grammar

variable {grammar : Grammar} {cursor later : Cursor source}

theorem hasRoom_of_unlimited (unlimited : grammar.depthLimit = none) (active : List ActiveRule) :
    grammar.HasRoom active := by
  intro limit limited
  rw [unlimited] at limited
  cases limited

/-- Rules come to the same under enclosing rules as under others, whichever rules were entered
since. -/
theorem matchRule_sameOutcome (unlimited : grammar.depthLimit = none)
    (same : SameHere cursor left right) (after : cursor ≤ later) (inner : List ActiveRule)
    (name : String) :
    SameOutcome left right (grammar.matchRule (inner ++ left) name later)
      (grammar.matchRule (inner ++ right) name later) := by
  generalize around : inner ++ left = active
  fun_induction grammar.matchRule active name later generalizing inner with
  | case1 active name later missing =>
      rw [matchRule_undefined missing]
      exact .failed (.plain _ fun _ => by simp)
  | case2 active name later _ body found taken =>
      subst around
      have takenToo := (same.mem_append_iff after inner name).mp taken
      rw [matchRule_circular found takenToo, List.reverse_append, List.reverse_append]
      exact .failed (.circular none inner.reverse later.position)
  | case3 active name later _ body found fresh limit limited =>
      rw [unlimited] at limited
      cases limited
  | case4 active name later entry body found fresh room ih =>
      subst around
      have freshToo := mt (same.mem_append_iff after inner name).mpr fresh
      rw [matchRule_entered found freshToo (hasRoom_of_unlimited unlimited _)]
      apply SameOutcome.within
      apply Form.matchWith_sameOutcome
      · exact fun _ _ _ _ matched => le_of_matchRule matched
      · intro next beyond further
        exact ih next beyond (after.trans further) (entry :: inner) rfl

/-- Without a limit on the nesting of rules, the outcome of a form depends on the enclosing rules
only by those that were entered at the offset of its cursor. Others are shown in front of a circular
reference. Under whichever rules, the stack of them is left as it was. -/
theorem only_rules_entered_here_matter (unlimited : grammar.depthLimit = none)
    (form : Form Pattern) (same : SameHere cursor left right) :
    (grammar.attempt form cursor).run left =
        some (form.matchWith (grammar.matchRule left) cursor, left) ∧
      (grammar.attempt form cursor).run right =
        some (form.matchWith (grammar.matchRule right) cursor, right) ∧
      SameOutcome left right (form.matchWith (grammar.matchRule left) cursor)
        (form.matchWith (grammar.matchRule right) cursor) := by
  refine ⟨grammar.run_attempt form cursor left,
    grammar.run_attempt form cursor right, ?_⟩
  apply Form.matchWith_sameOutcome
  · exact fun _ _ _ _ matched => le_of_matchRule matched
  · intro name later after
    exact matchRule_sameOutcome unlimited same after [] name

def behindItem : Cursor ['x'] := (Cursor.atStart ['x']).advance 1

theorem only_rules_entered_here_matter_lists :
    lists.depthLimit = none ∧ SameHere behindItem [⟨"Root", 1⟩, ⟨"List", 0⟩] [⟨"Root", 1⟩] ∧
      (lists.attempt (.sequence [.optional (.reference "Root"), .reference "List"])
          behindItem).run [⟨"Root", 1⟩, ⟨"List", 0⟩] =
        some (.error ⟨some "List", .circular [⟨"List", 0⟩, ⟨"Root", 1⟩, ⟨"List", 1⟩], ⟨1, 0, 1⟩⟩,
          [⟨"Root", 1⟩, ⟨"List", 0⟩]) ∧
      (lists.attempt (.sequence [.optional (.reference "Root"), .reference "List"])
          behindItem).run [⟨"Root", 1⟩] =
        some (.error ⟨some "List", .circular [⟨"Root", 1⟩, ⟨"List", 1⟩], ⟨1, 0, 1⟩⟩,
          [⟨"Root", 1⟩]) := by
  -- The optional root is on the stack here already and is given up. The list is entered anew and
  -- then wants itself.
  have unlimited : lists.depthLimit = none := rfl
  have place : behindItem.position.offset = 1 := rfl
  have same : SameHere behindItem [⟨"Root", 1⟩, ⟨"List", 0⟩] [⟨"Root", 1⟩] :=
    ⟨by simp [place], by simp [place], by simp [place]⟩
  rcases only_rules_entered_here_matter unlimited
    (.sequence [.optional (.reference "Root"), .reference "List"]) same with ⟨first, second, -⟩
  refine ⟨unlimited, same, ?_, ?_⟩
  · rw [first]
    with_unfolding_all rfl
  · rw [second]
    with_unfolding_all rfl

end Grammar

end TextGrammar
