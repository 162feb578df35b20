import Mathlib.Data.Prod.Lex
import TextGrammar.Proofs.SplitBreaks

/-! The order of the positions in a match. All of them are on the way over the texts of the match,
and each text that is not empty raises the offset as well as the line or, on the same line, the
column. So either of them tells which of two positions is first, also where a line break is split.
-/

namespace TextGrammar

theorem Extent.reaches_of_extend (reached : Extent) (text : List Char)
    (moved : 0 < reached.lineBreaks ∨ 0 < reached.lastLineLength ∨ text ≠ []) :
    0 < (reached.extend text).lineBreaks ∨ 0 < (reached.extend text).lastLineLength := by
  fun_induction extend reached text with
  | case1 reached => simpa using moved
  | case2 reached rest ih => exact ih (.inl (Nat.succ_pos _))
  | case3 reached c rest _ breaks ih => exact ih (.inl (Nat.succ_pos _))
  | case4 reached c rest _ inLine ih => exact ih (.inr (.inl (Nat.succ_pos _)))

namespace Position

def lineColumn (position : Position) : Nat ×ₗ Nat := toLex (position.line, position.column)

theorem lineColumn_lt_iff {first second : Position} :
    first.lineColumn < second.lineColumn ↔
      first.line < second.line ∨ first.line = second.line ∧ first.column < second.column :=
  Prod.Lex.toLex_lt_toLex

theorem lt_iff {first second : Position} :
    first < second ↔ first.offset < second.offset ∨
      first.offset = second.offset ∧ first.lineColumn < second.lineColumn := by
  have compared : first < second ↔
      (compare first.offset second.offset).then ((compare first.line second.line).then
        (compare first.column second.column)) = .lt := .rfl
  simp only [compared, Ordering.then_eq_lt, Nat.compare_eq_lt, Nat.compare_eq_eq,
    lineColumn_lt_iff]

structure Precedes (first second : Position) : Prop where
  offset : first.offset < second.offset
  lineColumn : first.lineColumn < second.lineColumn

theorem Precedes.trans {first second third : Position} (before : first.Precedes second)
    (after : second.Precedes third) : first.Precedes third :=
  ⟨before.offset.trans after.offset, before.lineColumn.trans after.lineColumn⟩

theorem precedes_after (position : Position) {text : List Char} (some : text ≠ []) :
    position.Precedes (position.after text) where
  offset := by
    have bytes : Text.byteLength text ≠ 0 := mt Text.byteLength_eq_zero_iff.mp some
    rw [offset_after]
    omega
  lineColumn := by
    rw [lineColumn_lt_iff]
    by_cases unbroken : (Extent.ofText text).lineBreaks = 0
    · have reaches := Extent.reaches_of_extend ⟨0, 0⟩ text (.inr (.inr some))
      have wider : 0 < (Extent.ofText text).lastLineLength :=
        reaches.resolve_left (by rw [← Extent.ofText, unbroken]; exact lt_irrefl 0)
      right
      simp only [after, unbroken, if_true]
      omega
    · left
      simp only [after]
      omega

theorem Passes.pairwise {start stop : Position} {texts : List (Position × List Char)}
    (passes : start.Passes texts stop) :
    (start :: texts.map Prod.fst).Pairwise fun first second =>
      first = second ∨ first.Precedes second := by
  induction texts generalizing start with
  | nil => exact List.pairwise_singleton _ _
  | cons text rest ih =>
      rcases text with ⟨behind, content⟩
      rcases passes with ⟨rfl, further⟩
      have others := ih further
      refine List.pairwise_cons.mpr ⟨?_, others⟩
      -- An empty text leads nowhere, any other one strictly ahead of all that came before.
      by_cases nothing : content = []
      · have still : start.after content = start := by
          rw [nothing]
          rfl
        rw [still] at others ⊢
        exact List.forall_mem_cons.mpr ⟨.inl rfl, (List.pairwise_cons.mp others).1⟩
      · have step := start.precedes_after nothing
        refine List.forall_mem_cons.mpr ⟨.inr step, ?_⟩
        intro later member
        rcases (List.pairwise_cons.mp others).1 later member with rfl | ahead
        · exact .inr step
        · exact .inr (step.trans ahead)

/-- Two positions whose offsets, lines and columns, and derived order say the same of them. -/
structure OrderedAlike (first second : Position) : Prop where
  lineColumn : first.offset < second.offset ↔ first.lineColumn < second.lineColumn
  derived : first.offset < second.offset ↔ first < second
  same : first.offset = second.offset → first = second

theorem OrderedAlike.refl (position : Position) : OrderedAlike position position where
  lineColumn := by simp
  derived := by simp [lt_iff]
  same _ := rfl

theorem Precedes.orderedAlike {first second : Position} (before : first.Precedes second) :
    OrderedAlike first second where
  lineColumn := iff_of_true before.offset before.lineColumn
  derived := iff_of_true before.offset (lt_iff.mpr (.inl before.offset))
  same alike := absurd alike before.offset.ne

theorem Precedes.orderedAlike_symm {first second : Position} (before : first.Precedes second) :
    OrderedAlike second first where
  lineColumn := iff_of_false before.offset.asymm before.lineColumn.asymm
  derived := by
    rw [lt_iff]
    have behind := before.offset
    omega
  same alike := absurd alike before.offset.ne'

theorem Passes.orderedAlike {start stop : Position} {texts : List (Position × List Char)}
    (passes : start.Passes texts stop) {first second : Position}
    (one : first ∈ start :: texts.map Prod.fst) (other : second ∈ start :: texts.map Prod.fst) :
    OrderedAlike first second := by
  have ahead : (start :: texts.map Prod.fst).Pairwise OrderedAlike := by
    apply passes.pairwise.imp
    rintro first second (rfl | before)
    · exact .refl first
    · exact before.orderedAlike
  have behind : (start :: texts.map Prod.fst).Pairwise (flip OrderedAlike) := by
    apply passes.pairwise.imp
    rintro first second (rfl | before)
    · exact .refl first
    · exact before.orderedAlike_symm
  exact ahead.forall_of_forall_of_flip (fun position _ => .refl position) behind one other

end Position

namespace Grammar

/-- Of two places where a part of a match starts or ends, the offsets, the lines and columns, and
the order of positions say alike which is first, and places of one offset are the same. -/
theorem positions_of_match_ordered_alike {grammar : Grammar} {form : Form Pattern} {source : String}
    {position : Position} {tree : MatchTree}
    (matched : grammar.matchForm form source position = .ok tree) :
    ∀ part ∈ tree.subtrees, ∀ other ∈ tree.subtrees, ∀ first ∈ part.ends, ∀ second ∈ other.ends,
      (first.offset < second.offset ↔
        first.line < second.line ∨ first.line = second.line ∧ first.column < second.column) ∧
      (first.offset < second.offset ↔ first < second) ∧
      (first.offset = second.offset → first = second) := by
  rcases exists_matched_of_matchForm matched with ⟨cursor, behind, _, found⟩
  have tiles := found.tiles
  intro part member other memberToo first ending second endingToo
  have alike := tiles.passes.orderedAlike (tiles.ends_subset part member ending)
    (tiles.ends_subset other memberToo endingToo)
  rw [← Position.lineColumn_lt_iff]
  exact ⟨alike.lineColumn, alike.derived, alike.same⟩

def tornLater : MatchTree :=
  .sequence ⟨1, 4, 7⟩ ⟨7, 7, 0⟩ [.text ⟨1, 4, 7⟩ ⟨4, 5, 0⟩ "é\r",
    .text ⟨4, 5, 0⟩ ⟨4, 5, 0⟩ "", .text ⟨4, 5, 0⟩ ⟨7, 7, 0⟩ "\n\r\n"]

theorem positions_of_match_ordered_alike_torn :
    accents.matchForm torn "aé\r\n\r\n" ⟨1, 4, 7⟩ = .ok tornLater ∧
      ∀ part ∈ tornLater.subtrees, ∀ first ∈ part.ends,
        (first.offset < 7 ↔ first.line < 7 ∨ first.line = 7 ∧ first.column < 0) ∧
        (first.offset < 7 ↔ first < ⟨7, 7, 0⟩) ∧ (first.offset = 7 → first = ⟨7, 7, 0⟩) := by
  have result : accents.matchForm torn "aé\r\n\r\n" ⟨1, 4, 7⟩ = .ok tornLater := by
    with_unfolding_all rfl
  refine ⟨result, ?_⟩
  intro part member first ending
  have last : (⟨7, 7, 0⟩ : Position) ∈ tornLater.ends := by decide
  exact positions_of_match_ordered_alike result part member tornLater tornLater.self_mem_subtrees
    first ending _ last

end Grammar

end TextGrammar
