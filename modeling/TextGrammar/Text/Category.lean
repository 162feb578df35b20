import TextGrammar.Text.Category.Word
import TextGrammar.Text.Category.Number
import TextGrammar.Text.Category.Invisible

/-!
Classes of characters: word characters, letters, digits, blanks, and characters that are not shown
as they are. Each is looked up in ascending ranges of code points.
-/

namespace TextGrammar.Text

def inRanges (code : Nat) : List (Nat × Nat) → Bool
  | [] => false
  | (low, high) :: rest => low ≤ code && (code ≤ high || inRanges code rest)

open Category

def isDecimalDigit (c : Char) : Bool := inRanges c.toNat decimalDigits

def isNumber (c : Char) : Bool := isDecimalDigit c || inRanges c.toNat otherNumbers

def isWord (c : Char) : Bool := inRanges c.toNat wordCharacters

def isAlphabetic (c : Char) : Bool :=
  isWord c && !isDecimalDigit c && !inRanges c.toNat nonletters

def isBlank (c : Char) : Bool := inRanges c.toNat blanks

def isHidden (c : Char) : Bool :=
  [undrawn, extending, unassigned].any (inRanges c.toNat)

end TextGrammar.Text
