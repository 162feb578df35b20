import Mathlib.Data.List.Basic
import TextGrammar.Matching.Cursor
import TextGrammar.Matching.Error

/-! Positions that are counted from another origin than the start of a source. Offsets and lines add
up, columns only on the first line. Moving over a text does the same to them from any origin, and so
do cursors in front of the same text. -/

namespace TextGrammar

namespace Position

def shift (origin position : Position) : Position where
  offset := position.offset + origin.offset
  line := position.line + origin.line
  column := if position.line = 0 then position.column + origin.column else position.column

@[simp] theorem offset_shift (origin position : Position) :
    (origin.shift position).offset = position.offset + origin.offset := rfl

@[simp] theorem start_shift (position : Position) : start.shift position = position := by
  simp [shift, start]

@[simp] theorem shift_start (origin : Position) : origin.shift start = origin := by
  simp [shift, start]

/-- The column of the origin matters up to the first line break, on either way. -/
theorem shift_after (origin position : Position) (text : List Char) :
    origin.shift (position.after text) = (origin.shift position).after text := by
  by_cases unbroken : (Extent.ofText text).lineBreaks = 0
  · by_cases first : position.line = 0
    · simp [shift, after, unbroken, first]
      omega
    · simp [shift, after, unbroken, first]
      omega
  · simp [shift, after, unbroken]
    omega

end Position

/-- A cursor in front of the same text as another, at the position that is counted from an
origin. -/
structure Cursor.Shifted (origin : Position) {source other : List Char} (cursor : Cursor source)
    (image : Cursor other) : Prop where
  position : image.position = origin.shift cursor.position
  rest : image.rest = cursor.rest

namespace Cursor.Shifted

variable {source other : List Char} {origin : Position} {cursor behind : Cursor source}
  {image later : Cursor other}

theorem offset (shifted : cursor.Shifted origin image) :
    image.position.offset = cursor.position.offset + origin.offset := by
  rw [shifted.position, Position.offset_shift]

theorem advance (shifted : cursor.Shifted origin image) (count : Nat) :
    (cursor.advance count).Shifted origin (image.advance count) where
  position := by
    simp only [Cursor.advance, shifted.position, shifted.rest, Position.shift_after]
  rest := by simp only [Cursor.advance, shifted.rest]

theorem offset_lt_iff (shifted : cursor.Shifted origin image)
    (moved : behind.Shifted origin later) :
    image.position.offset < later.position.offset ↔
      cursor.position.offset < behind.position.offset := by
  rw [shifted.offset, moved.offset]
  exact Nat.add_lt_add_iff_right

theorem textTo_eq (shifted : cursor.Shifted origin image) (moved : behind.Shifted origin later) :
    image.textTo later = cursor.textTo behind := by
  rw [textTo, textTo, shifted.offset, moved.offset, shifted.rest, Nat.add_sub_add_right]

theorem eq_of_start {image : Cursor source} (shifted : cursor.Shifted .start image) :
    image = cursor := by
  refine Cursor.ext ?_ shifted.rest
  rw [shifted.position, Position.start_shift]

end Cursor.Shifted

def ActiveRule.shift (origin : Position) (entry : ActiveRule) : ActiveRule :=
  ⟨entry.rule, entry.offset + origin.offset⟩

@[simp] theorem ActiveRule.shift_start (entry : ActiveRule) :
    ActiveRule.shift .start entry = entry := rfl

theorem ActiveRule.shift_injective (origin : Position) : Function.Injective (shift origin) := by
  intro first second same
  cases first
  cases second
  simpa [shift] using same

theorem Cursor.Shifted.entry_eq {source other : List Char} {origin : Position}
    {cursor : Cursor source} {image : Cursor other} (shifted : cursor.Shifted origin image)
    (name : String) :
    (⟨name, image.position.offset⟩ : ActiveRule) =
      ActiveRule.shift origin ⟨name, cursor.position.offset⟩ := by
  rw [ActiveRule.shift, shifted.offset]

/-- Whether a rule is being matched does not depend on the origin. -/
theorem Cursor.Shifted.entry_mem_iff {source other : List Char} {origin : Position}
    {cursor : Cursor source} {image : Cursor other} (shifted : cursor.Shifted origin image)
    {name : String} {active : List ActiveRule} :
    ⟨name, image.position.offset⟩ ∈ active.map (·.shift origin) ↔
      ⟨name, cursor.position.offset⟩ ∈ active := by
  rw [shifted.entry_eq]
  exact List.mem_map_of_injective (ActiveRule.shift_injective origin)

def Reason.shift {ε : Type} (origin : Position) : Reason ε → Reason ε
  | .circular chain => .circular (chain.map (·.shift origin))
  | reason => reason

@[simp] theorem Reason.shift_start {ε : Type} (reason : Reason ε) :
    reason.shift .start = reason := by
  cases reason <;> simp [shift]

def MatchError.shift {ε : Type} (origin : Position) (error : MatchError ε) : MatchError ε :=
  ⟨error.rule, error.reason.shift origin, origin.shift error.position⟩

theorem MatchError.shift_start {ε : Type} (error : MatchError ε) : error.shift .start = error := by
  rw [shift, Reason.shift_start, Position.start_shift]

end TextGrammar
