import TextGrammar.Text.Encoding
import TextGrammar.Regex.CharSet

/-!
The size of automata that read a character of a set, or one of several literals, byte by byte. An
automaton may read the bytes forwards or backwards.
-/

namespace TextGrammar

inductive Direction where
  | forwards
  | backwards
  deriving DecidableEq, Repr

namespace ByteAutomaton

open Text (ByteRange)

-- In bytes: a state, each of several ranges that a state tells apart, each way on from a fork.
def stateSize : Nat := 32

def rangeSize : Nat := 8

def wayOnSize : Nat := 4

def total (sizes : List Nat) : Nat := sizes.foldr (· + ·) 0

def firstRanges : List (List ByteRange) → List (ByteRange × List (List ByteRange))
  | [] => []
  | [] :: rest => firstRanges rest
  | (range :: following) :: rest =>
    match firstRanges rest with
    | (other, others) :: more =>
      if range = other then (range, following :: others) :: more
      else (range, [following]) :: (other, others) :: more
    | [] => [(range, [following])]

def treeStates : Nat → List (List ByteRange) → List (List (List ByteRange))
  | 0, _ => []
  | length + 1, sequences =>
    match firstRanges sequences with
    | [] => []
    | ranges => sequences :: ranges.flatMap fun (_, following) => treeStates length following

/-- The size of an automaton that reads one character of a set. One state is enough to read ASCII.
Forwards, states that the same bytes may follow are shared. Backwards, each spelling is read on its
own after a fork, as far as it ends unlike the others. -/
def sizeOfSet (direction : Direction) (set : CharSet) : Nat :=
  if set.isAscii then 2 * stateSize + rangeSize * set.ranges.length
  else
    let spellings := set.ranges.flatMap fun (low, high) => Text.spellings low high
    let states := treeStates 4 spellings
    match direction with
    | .forwards =>
      stateSize +
        total (states.eraseDups.map fun state =>
          stateSize + rangeSize * (firstRanges state).length)
    | .backwards =>
      2 * stateSize + wayOnSize * spellings.length +
        total (states.map fun state => stateSize * (firstRanges state).length)

def splitAtEnds : List (List Nat) → List (List (List Nat))
  | [] => [[]]
  | [] :: rest => [] :: splitAtEnds rest
  | text :: rest =>
    match splitAtEnds rest with
    | [] => [[text]]
    | part :: parts => (text :: part) :: parts

/-- The size of a tree that reads one of some texts of at most so many bytes, earlier ones first.
Where a text ends, those after it need a way on of their own; one that ends there again does not. -/
def sizeOfTree : Nat → List (List Nat) → Nat
  | 0, _ => 0
  | length + 1, texts =>
    if texts.all List.isEmpty then 0
    else
      let parts :=
        match texts with
        | [] :: rest => splitAtEnds ([] :: rest.dropWhile List.isEmpty)
        | texts => splitAtEnds texts
      let reading := parts.filter (!·.isEmpty)
      let sizes := reading.map fun part =>
        let bytes := (part.filterMap List.head?).eraseDups
        let following (byte : Nat) :=
          part.filterMap fun text => if text.head? = some byte then some text.tail else none
        stateSize + (if 1 < bytes.length then rangeSize * bytes.length else 0) +
          total (bytes.map fun byte => sizeOfTree length (following byte))
      stateSize + wayOnSize * (parts.length - 1 + reading.length) + total sizes

def sizeOfLiterals (direction : Direction) (literals : List (List Char)) : Nat :=
  let texts := literals.map fun literal =>
    let bytes := literal.flatMap Text.spelling
    match direction with
    | .forwards => bytes
    | .backwards => bytes.reverse
  stateSize + sizeOfTree ((texts.map List.length).foldr max 0 + 1) texts

end ByteAutomaton

end TextGrammar
