import TextGrammar.Position

/-!
Cursors: places between two characters of a source, with the text that is left to match.
-/

namespace TextGrammar

structure Cursor (source : List Char) where
  position : Position
  rest : List Char
  located : ∃ before, before ++ rest = source ∧ Text.byteLength before = position.offset

namespace Cursor

variable {source : List Char}

@[ext] theorem ext {left right : Cursor source} (position : left.position = right.position)
    (rest : left.rest = right.rest) : left = right := by
  cases left
  cases right
  simp_all

def atStart (source : List Char) : Cursor source :=
  ⟨.start, source, [], rfl, rfl⟩

/-- The cursor at a position, if its offset lies between two characters or at an end. -/
def at? (source : List Char) (position : Position) : Option (Cursor source) :=
  match found : Text.splitAt? position.offset source with
  | some (before, rest) => some ⟨position, rest, before, Text.splitAt?_eq_some_iff.mp found⟩
  | none => none

theorem offset_le (cursor : Cursor source) :
    cursor.position.offset ≤ Text.byteLength source := by
  obtain ⟨before, whole, length⟩ := cursor.located
  have total := congrArg Text.byteLength whole
  simp at total
  omega

def advance (cursor : Cursor source) (count : Nat) : Cursor source where
  position := cursor.position.after (cursor.rest.take count)
  rest := cursor.rest.drop count
  located := by
    obtain ⟨before, whole, length⟩ := cursor.located
    exact ⟨before ++ cursor.rest.take count, by simp [whole], by simp [length]⟩

def textTo (cursor later : Cursor source) : List Char :=
  match Text.splitAt? (later.position.offset - cursor.position.offset) cursor.rest with
  | some (between, _) => between
  | none => []

end Cursor

end TextGrammar
