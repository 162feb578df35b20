import TextGrammar.Text.Category
import TextGrammar.Text.CodePoint

/-!
Sets of characters as regular expressions describe them. A set is kept as ascending ranges of code
points with at least one character missing between any two, so sets of the same characters are
equal.
-/

namespace TextGrammar

def followingCode (code : Nat) : Nat := if code = 0xD7FF then 0xE000 else code + 1

def precedingCode (code : Nat) : Nat := if code = 0xE000 then 0xD7FF else code - 1

structure CharSet where
  ranges : List (Nat × Nat)
  deriving DecidableEq, Repr

namespace CharSet

def contains (set : CharSet) (c : Char) : Bool := Text.inRanges c.toNat set.ranges

def nothing : CharSet := ⟨[]⟩

def range (first last : Char) : CharSet := ⟨[(first.toNat, last.toNat)]⟩

def single (c : Char) : CharSet := range c c

def decimalDigit : CharSet := ⟨Text.Category.decimalDigits⟩

def wordCharacter : CharSet := ⟨Text.Category.wordCharacters⟩

def blank : CharSet := ⟨Text.Category.blanks⟩

def only? : CharSet → Option Char
  | ⟨[(first, last)]⟩ => if first = last then Text.character? first else none
  | _ => none

def isAscii (set : CharSet) : Bool := set.ranges.all fun (_, last) => last < 0x80

def insertRange (low high : Nat) : List (Nat × Nat) → List (Nat × Nat)
  | [] => [(low, high)]
  | (first, last) :: rest =>
    if followingCode high < first then (low, high) :: (first, last) :: rest
    else if followingCode last < low then (first, last) :: insertRange low high rest
    else insertRange (min low first) (max high last) rest

def union (left right : CharSet) : CharSet :=
  ⟨right.ranges.foldr (fun (low, high) ranges => insertRange low high ranges) left.ranges⟩

def gaps (start : Nat) : List (Nat × Nat) → List (Nat × Nat)
  | [] => if start ≤ 0x10FFFF then [(start, 0x10FFFF)] else []
  | (first, last) :: rest =>
    if start < first then (start, precedingCode first) :: gaps (followingCode last) rest
    else gaps (followingCode last) rest

def complement (set : CharSet) : CharSet := ⟨gaps 0 set.ranges⟩

def intersection (left right : CharSet) : CharSet :=
  complement (union left.complement right.complement)

def difference (left right : CharSet) : CharSet := complement (union left.complement right)

def symmetricDifference (left right : CharSet) : CharSet :=
  difference (union left right) (intersection left right)

/-- The characters that are the same letter as this one, itself included. The Kelvin sign is a `k`
and the long s an `s`. -/
def caseVariants (c : Char) : List Char :=
  if c = 'k' then ['k', 'K', '\u212A']
  else if c = 's' then ['s', 'S', '\u017F']
  else [c, c.toUpper]

def anyCase (set : CharSet) : CharSet :=
  "abcdefghijklmnopqrstuvwxyz".toList.foldl
    (fun set letter =>
      if (caseVariants letter).any set.contains then
        (caseVariants letter).foldl (fun set c => set.union (single c)) set
      else set)
    set

def ofRanges (ranges : List (Char × Char)) : CharSet :=
  ranges.foldr (fun (first, last) set => (range first last).union set) nothing

def named? : String → Option CharSet
  | "alnum" => some (ofRanges [('0', '9'), ('A', 'Z'), ('a', 'z')])
  | "alpha" => some (ofRanges [('A', 'Z'), ('a', 'z')])
  | "ascii" => some (.range '\x00' '\x7f')
  | "blank" => some (ofRanges [('\t', '\t'), (' ', ' ')])
  | "cntrl" => some (ofRanges [('\x00', '\x1f'), ('\x7f', '\x7f')])
  | "digit" => some (.range '0' '9')
  | "graph" => some (.range '!' '~')
  | "lower" => some (.range 'a' 'z')
  | "print" => some (.range ' ' '~')
  | "punct" => some (ofRanges [('!', '/'), (':', '@'), ('[', '\x60'), ('\x7b', '~')])
  | "space" => some (ofRanges [('\t', '\r'), (' ', ' ')])
  | "upper" => some (.range 'A' 'Z')
  | "word" => some (ofRanges [('0', '9'), ('A', 'Z'), ('_', '_'), ('a', 'z')])
  | "xdigit" => some (ofRanges [('0', '9'), ('A', 'F'), ('a', 'f')])
  | _ => none

end CharSet

end TextGrammar
