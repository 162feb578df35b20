/-!
Ranges of characters in UTF-8. The spellings of a range of characters are sequences of byte ranges:
a text of one of the characters has its bytes in the ranges of one sequence, in order, and every
choice of bytes from the ranges of one sequence is such a text.
-/

namespace TextGrammar.Text

abbrev ByteRange := Nat × Nat

/-- The numbers between two bounds as sequences of ranges of their digits in base 64. There are so
many digits after the first, which may be greater than the others. -/
def digitRanges : Nat → Nat → Nat → List (List (Nat × Nat))
  | 0, low, high => [[(low, high)]]
  | places + 1, low, high =>
    let size := Nat.pow 64 (places + 1)
    let first := low / size
    let last := high / size
    let under (digit low high : Nat) :=
      (digitRanges places low high).map fun digits => (digit, digit) :: digits
    if first = last then under first (low % size) (high % size)
    else
      let lowWhole := low % size = 0
      let highWhole := high % size = size - 1
      let firstWhole := if lowWhole then first else first + 1
      let lastWhole := if highWhole then last else last - 1
      let whole := (firstWhole, lastWhole) :: List.replicate (places + 1) (0, 63)
      (if lowWhole then [] else under first (low % size) (size - 1)) ++
        (if firstWhole ≤ lastWhole then [whole] else []) ++
          (if highWhole then [] else under last 0 (high % size))

/-- Code points that are spelled alike: with so many bytes after the first, and with the same number
added to the first digit. -/
structure Plane where
  first : Nat
  last : Nat
  places : Nat
  lead : Nat
  deriving DecidableEq, Repr

def planes : List Plane :=
  [⟨0x0, 0x7F, 0, 0x00⟩, ⟨0x80, 0x7FF, 1, 0xC0⟩, ⟨0x800, 0xD7FF, 2, 0xE0⟩,
   ⟨0xE000, 0xFFFF, 2, 0xE0⟩, ⟨0x10000, 0x10FFFF, 3, 0xF0⟩]

def Plane.bytes (plane : Plane) : List (Nat × Nat) → List ByteRange
  | [] => []
  | (low, high) :: rest =>
    (plane.lead + low, plane.lead + high) :: rest.map fun (low, high) => (0x80 + low, 0x80 + high)

def spellings (low high : Nat) : List (List ByteRange) :=
  planes.flatMap fun plane =>
    let low := max low plane.first
    let high := min high plane.last
    if low ≤ high then (digitRanges plane.places low high).map plane.bytes else []

def spelling (c : Char) : List Nat := (spellings c.toNat c.toNat).flatten.map (·.1)

end TextGrammar.Text
