import TextGrammar.Text.Bytes

/-!
Lines and columns. A line break is a line feed, a carriage return, or a carriage return directly
followed by a line feed, which is one break. A position moves over a text by `Position.after`
alone, so line and column always come from text that was passed over.
-/

namespace TextGrammar

/-- How far a text reaches: its line breaks, and the characters after the last of them (all of
its characters if it has none). -/
structure Extent where
  lineBreaks : Nat
  lastLineLength : Nat
  deriving DecidableEq, Repr

namespace Extent

def extend : Extent → List Char → Extent
  | reached, [] => reached
  | reached, '\r' :: '\n' :: rest => extend ⟨reached.lineBreaks + 1, 0⟩ rest
  | reached, c :: rest =>
    if c = '\r' ∨ c = '\n' then extend ⟨reached.lineBreaks + 1, 0⟩ rest
    else extend ⟨reached.lineBreaks, reached.lastLineLength + 1⟩ rest

def ofText (text : List Char) : Extent := extend ⟨0, 0⟩ text

end Extent

/-- A place in a source: a byte offset, a line and a column, all counted from zero. Columns count
characters. -/
structure Position where
  offset : Nat
  line : Nat
  column : Nat
  deriving DecidableEq, Repr

namespace Position

def start : Position := ⟨0, 0, 0⟩

def after (position : Position) (text : List Char) : Position :=
  let extent := Extent.ofText text
  { offset := position.offset + Text.byteLength text
    line := position.line + extent.lineBreaks
    column :=
      if extent.lineBreaks = 0 then position.column + extent.lastLineLength
      else extent.lastLineLength }

@[simp] theorem offset_after (position : Position) (text : List Char) :
    (position.after text).offset = position.offset + Text.byteLength text := rfl

instance : Ord Position where
  compare a b :=
    (compare a.offset b.offset).then ((compare a.line b.line).then (compare a.column b.column))

instance : LT Position := ltOfOrd

def display (position : Position) : String := s!"{position.line}:{position.column}"

end Position

end TextGrammar
