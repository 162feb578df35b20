import Mathlib.Order.Defs.PartialOrder
import TextGrammar.Matching.Cursor

/-! The order of the cursors in a source. Matching goes from a cursor to a later one, and a cursor
at the same offset that is reached that way is the same cursor, down to its line and column. -/

namespace TextGrammar

theorem Position.after_nil (position : Position) : position.after [] = position := by
  simp [Position.after, Extent.ofText, Extent.extend]

namespace Cursor

variable {source : List Char}

instance : PartialOrder (Cursor source) where
  le first second := first = second ∨ first.position.offset < second.position.offset
  le_refl _ := .inl rfl
  le_trans first second third earlier later := by
    rcases earlier with rfl | earlier
    · exact later
    · rcases later with rfl | later
      · exact .inr earlier
      · exact .inr (Nat.lt_trans earlier later)
  le_antisymm first second earlier later := by
    rcases earlier with same | earlier
    · exact same
    · rcases later with same | later
      · exact same.symm
      · omega

theorem le_of_offset_lt {first second : Cursor source}
    (moved : first.position.offset < second.position.offset) : first ≤ second :=
  .inr moved

theorem offset_le_of_le {first second : Cursor source} (later : first ≤ second) :
    first.position.offset ≤ second.position.offset := by
  rcases later with rfl | moved
  · exact Nat.le_refl _
  · exact Nat.le_of_lt moved

theorem eq_of_le_of_offset_eq {first second : Cursor source} (later : first ≤ second)
    (same : second.position.offset = first.position.offset) : first = second := by
  rcases later with rfl | moved
  · rfl
  · omega

theorem offset_add_byteLength_rest (cursor : Cursor source) :
    cursor.position.offset + Text.byteLength cursor.rest = Text.byteLength source := by
  obtain ⟨before, whole, length⟩ := cursor.located
  have total := congrArg Text.byteLength whole
  rwa [Text.byteLength_append, length] at total

theorem exists_splitAt?_offset (cursor : Cursor source) :
    ∃ before, Text.splitAt? cursor.position.offset source = some (before, cursor.rest) := by
  obtain ⟨before, whole, length⟩ := cursor.located
  exact ⟨before, Text.splitAt?_eq_some_iff.mpr ⟨whole, length⟩⟩

section

variable {first last : Cursor source} {between : List Char}

theorem offset_of_append_rest (whole : between ++ last.rest = first.rest) :
    last.position.offset = first.position.offset + Text.byteLength between := by
  have firstBytes := first.offset_add_byteLength_rest
  have lastBytes := last.offset_add_byteLength_rest
  rw [← whole, Text.byteLength_append] at firstBytes
  omega

theorem splitAt?_of_append_rest (whole : between ++ last.rest = first.rest) :
    Text.splitAt? (last.position.offset - first.position.offset) first.rest =
      some (between, last.rest) := by
  have bytes := offset_of_append_rest whole
  rw [bytes, Nat.add_sub_cancel_left]
  exact Text.splitAt?_eq_some_iff.mpr ⟨whole, rfl⟩

theorem slice?_of_append_rest (whole : between ++ last.rest = first.rest) :
    Text.slice? source first.position.offset last.position.offset = some between := by
  obtain ⟨before, front⟩ := first.exists_splitAt?_offset
  have bytes := offset_of_append_rest whole
  have ordered : first.position.offset ≤ last.position.offset := by omega
  rw [Text.slice?, if_pos ordered, front]
  simp only [Option.bind_eq_bind, Option.bind_some, splitAt?_of_append_rest whole]
  rfl

theorem textTo_of_append_rest (whole : between ++ last.rest = first.rest) :
    first.textTo last = between := by
  rw [textTo, splitAt?_of_append_rest whole]

end

theorem take_append_rest_advance (cursor : Cursor source) (count : Nat) :
    cursor.rest.take count ++ (cursor.advance count).rest = cursor.rest :=
  List.take_append_drop count cursor.rest

theorem le_advance (cursor : Cursor source) (count : Nat) : cursor ≤ cursor.advance count := by
  cases taken : cursor.rest.take count with
  | nil =>
      refine .inl (Cursor.ext ?_ ?_)
      · simp [advance, taken, Position.after_nil]
      · have whole := List.take_append_drop count cursor.rest
        simpa [advance, taken] using whole.symm
  | cons c rest =>
      have positive := Char.utf8Size_pos c
      refine le_of_offset_lt ?_
      simp only [advance, taken, Position.offset_after, Text.byteLength_cons]
      omega

theorem rest_suffix_of_le {first second : Cursor source} (later : first ≤ second) :
    second.rest <:+ first.rest := by
  obtain ⟨_, firstWhole, _⟩ := first.located
  obtain ⟨_, secondWhole, _⟩ := second.located
  rcases later with rfl | moved
  · exact List.suffix_rfl
  · have firstBytes := first.offset_add_byteLength_rest
    have secondBytes := second.offset_add_byteLength_rest
    rcases List.suffix_or_suffix_of_suffix ⟨_, secondWhole⟩ ⟨_, firstWhole⟩ with inside | outside
    · exact inside
    · obtain ⟨between, whole⟩ := outside
      have longer := congrArg Text.byteLength whole
      rw [Text.byteLength_append] at longer
      omega

theorem at?_position (cursor : Cursor source) : at? source cursor.position = some cursor := by
  obtain ⟨before, whole, length⟩ := cursor.located
  have cut : Text.splitAt? cursor.position.offset source = some (before, cursor.rest) :=
    Text.splitAt?_eq_some_iff.mpr ⟨whole, length⟩
  unfold at?
  split
  · rename_i _ rest found
    rw [cut] at found
    cases found
    rfl
  · rename_i missing
    rw [cut] at missing
    cases missing

theorem eq_of_at?_eq_some {position : Position} {cursor : Cursor source}
    (found : at? source position = some cursor) : cursor.position = position := by
  unfold at? at found
  split at found
  · cases found
    rfl
  · cases found

end Cursor

end TextGrammar
