import Mathlib.Data.List.DropRight
import TextGrammar.Proofs.LineBreaks

/-! What the extent of a text counts. Every carriage return and every line feed is a break, but for
the pairs of both, which are one, and the last line is what is behind the last of them. A position
moves over two texts as over both at once, except where the cut between them parts such a pair. -/

namespace TextGrammar

namespace Text

def endsLine (c : Char) : Bool := c == '\r' || c == '\n'

def breakPairs (text : List Char) : Nat := (text.zip text.tail).count ('\r', '\n')

theorem breakPairs_pair (rest : List Char) :
    breakPairs ('\r' :: '\n' :: rest) = breakPairs rest + 1 := by
  cases rest with
  | nil => rfl
  | cons c others => simp [breakPairs]

theorem breakPairs_cons {c : Char} {rest : List Char}
    (pair : ∀ others, c = '\r' → rest = '\n' :: others → False) :
    breakPairs (c :: rest) = breakPairs rest := by
  cases rest with
  | nil => rfl
  | cons d others =>
      have other : (c, d) ≠ ('\r', '\n') := by
        intro same
        obtain ⟨first, second⟩ := Prod.mk.inj same
        exact pair others first (by rw [second])
      simp [breakPairs, List.count_cons_of_ne other]

theorem partsBreak_iff {left right : List Char} :
    partsBreak left right = true ↔ left.getLast? = some '\r' ∧ right.head? = some '\n' := by
  simp [partsBreak]

end Text

namespace Extent

theorem lineBreaks_extend (reached : Extent) (text : List Char) :
    (extend reached text).lineBreaks + Text.breakPairs text =
      reached.lineBreaks + text.count '\n' + text.count '\r' := by
  fun_induction extend reached text with
  | case1 reached => rfl
  | case2 reached rest ih =>
      dsimp only at ih
      rw [Text.breakPairs_pair]
      simp only [List.count_cons_self, List.count_cons_of_ne (show '\r' ≠ '\n' by decide),
        List.count_cons_of_ne (show '\n' ≠ '\r' by decide)]
      omega
  | case3 reached c rest pair broken ih =>
      dsimp only at ih
      rw [Text.breakPairs_cons pair]
      rcases broken with rfl | rfl
      · rw [List.count_cons_self, List.count_cons_of_ne (by decide)]
        omega
      · rw [List.count_cons_self, List.count_cons_of_ne (by decide)]
        omega
  | case4 reached c rest pair ordinary ih =>
      rw [not_or] at ordinary
      rw [Text.breakPairs_cons pair, List.count_cons_of_ne ordinary.1,
        List.count_cons_of_ne ordinary.2]
      exact ih

theorem lastLineLength_extend_singleton (reached : Extent) (c : Char) :
    (extend reached [c]).lastLineLength =
      if Text.endsLine c then 0 else reached.lastLineLength + 1 := by
  by_cases broken : c = '\r' ∨ c = '\n'
  · rw [extend, if_pos broken]
    · simp [extend, Text.endsLine, broken]
    · simp
  · rw [extend, if_neg broken]
    · simp [extend, Text.endsLine, not_or.mp broken]
    · simp

theorem lastLineLength_ofText (text : List Char) :
    (ofText text).lastLineLength = (text.rtakeWhile (!Text.endsLine ·)).length := by
  -- From the end of the text, where a character decides whether the line before it goes on.
  induction text using List.reverseRecOn with
  | nil => rfl
  | append_singleton text c ih =>
      have step := congrArg lastLineLength (extend_extend ⟨0, 0⟩ text [c])
      rw [lastLineLength_extend_singleton] at step
      rw [← ofText, ih] at step
      rw [ofText, ← step, List.rtakeWhile_concat]
      by_cases broken : Text.endsLine c <;> simp [broken]

end Extent

namespace Position

theorem after_after_eq_iff {position : Position} {left right : List Char} :
    (position.after left).after right = position.after (left ++ right) ↔
      Text.partsBreak left right = false := by
  rw [after_after]
  constructor
  · intro same
    have lines := congrArg Position.line same
    cases parted : Text.partsBreak left right with
    | false => rfl
    | true => simp [parted] at lines
  · intro whole
    rw [whole]
    rfl

/-- Breaks are counted by their characters less the pairs, and positions compose exactly where no
pair is parted. There the line is one too many, and nothing else is different. -/
theorem breaks_are_counted_and_compose :
    (∀ text : List Char,
      (Extent.ofText text).lineBreaks + Text.breakPairs text =
        text.count '\n' + text.count '\r' ∧
      (Extent.ofText text).lastLineLength = (text.rtakeWhile (!Text.endsLine ·)).length) ∧
    ∀ (position : Position) (left right : List Char),
      ((position.after left).after right = position.after (left ++ right) ↔
        ¬ (left.getLast? = some '\r' ∧ right.head? = some '\n')) ∧
      (left.getLast? = some '\r' ∧ right.head? = some '\n' →
        ((position.after left).after right).offset = (position.after (left ++ right)).offset ∧
        ((position.after left).after right).column = (position.after (left ++ right)).column ∧
        ((position.after left).after right).line =
          (position.after (left ++ right)).line + 1) := by
  constructor
  · intro text
    have lines := Extent.lineBreaks_extend ⟨0, 0⟩ text
    dsimp only at lines
    rw [Nat.zero_add] at lines
    exact ⟨lines, Extent.lastLineLength_ofText text⟩
  · intro position left right
    constructor
    · rw [after_after_eq_iff, ← Text.partsBreak_iff, Bool.not_eq_true]
    · intro parted
      rw [after_after, Text.partsBreak_iff.mpr parted]
      exact ⟨rfl, rfl, rfl⟩

theorem breaks_are_counted_and_compose_run :
    (Extent.ofText "a\r\r\n\nbc".toList).lineBreaks + 1 = 2 + 2 ∧
      (((⟨4, 2, 4⟩ : Position).after "a\r\r".toList).after "\n\nbc".toList).line =
        ((⟨4, 2, 4⟩ : Position).after "a\r\r\n\nbc".toList).line + 1 ∧
      ((⟨4, 2, 4⟩ : Position).after "a\r".toList).after "\r\n\nbc".toList =
        (⟨4, 2, 4⟩ : Position).after "a\r\r\n\nbc".toList := by
  refine ⟨(breaks_are_counted_and_compose.1 "a\r\r\n\nbc".toList).1, ?_, ?_⟩
  · exact ((breaks_are_counted_and_compose.2 ⟨4, 2, 4⟩ "a\r\r".toList "\n\nbc".toList).2
      (by decide)).2.2
  · exact (breaks_are_counted_and_compose.2 ⟨4, 2, 4⟩ "a\r".toList "\r\n\nbc".toList).1.mpr
      (by decide)

end Position

end TextGrammar
