import TextGrammar.Regex.Escape

/-!
Sets of characters in brackets. They hold characters, ranges, escapes and further sets in brackets,
and two ampersands, minus signs or tildes take the intersection, difference or symmetric difference
of all that stands before them and what follows.
-/

namespace TextGrammar.Regex

structure Nested (α : Type) where
  value : α
  depth : Nat

structure BracketItems where
  set : CharSet
  count : Nat
  depth : Nat

namespace BracketItems

def empty : BracketItems := ⟨.nothing, 0, 0⟩

def add (items : BracketItems) (item : Nested CharSet) : BracketItems :=
  ⟨.union items.set item.value, items.count + 1, max items.depth item.depth⟩

def toNested (items : BracketItems) : Nested CharSet :=
  ⟨items.set, if 1 < items.count then items.depth + 1 else items.depth⟩

end BracketItems

structure OpenBracket where
  negated : Bool
  pending : Option ((CharSet → CharSet → CharSet) × Nested CharSet)
  items : BracketItems

namespace OpenBracket

/-- The set that was read since the bracket was opened. Both sides of an operation are taken in
any case when letters are. -/
def contents (flags : Flags) (bracket : OpenBracket) : Nested CharSet :=
  let cased (set : CharSet) := if flags.ignoreCase then set.anyCase else set
  let right := bracket.items.toNested
  match bracket.pending with
  | none => right
  | some (operation, left) =>
    ⟨operation (cased left.value) (cased right.value), max left.depth right.depth + 1⟩

def close (flags : Flags) (bracket : OpenBracket) : Nested CharSet :=
  let inside := bracket.contents flags
  let set := if flags.ignoreCase then inside.value.anyCase else inside.value
  ⟨if bracket.negated then .complement set else set, inside.depth + 1⟩

def operate (flags : Flags) (bracket : OpenBracket)
    (operation : CharSet → CharSet → CharSet) : OpenBracket :=
  { bracket with pending := some (operation, bracket.contents flags), items := .empty }

def add (bracket : OpenBracket) (item : Nested CharSet) : OpenBracket :=
  { bracket with items := bracket.items.add item }

end OpenBracket

def takeMinusSigns (flags : Flags) : Nat → BracketItems → List Char → BracketItems × List Char
  | steps + 1, items, '-' :: rest =>
    takeMinusSigns flags steps (items.add ⟨.single '-', 0⟩) (flags.skip rest)
  | _, items, text => (items, text)

/-- Reads what may follow an opening bracket only: a negation, minus signs, and a closing bracket
that stands for itself because nothing is before it. -/
def openBracket (flags : Flags) (text : List Char) : OpenBracket × List Char :=
  let text := flags.skip text
  let (negated, text) :=
    match text with
    | '^' :: rest => (true, flags.skip rest)
    | text => (false, text)
  let (items, text) := takeMinusSigns flags text.length .empty text
  match items.count, text with
  | 0, ']' :: rest => (⟨negated, none, items.add ⟨.single ']', 0⟩⟩, flags.skip rest)
  | _, text => (⟨negated, none, items⟩, text)

def readNamedSet? (flags : Flags) : List Char → Option (CharSet × List Char)
  | ':' :: text =>
    let (negated, text) :=
      match text with
      | '^' :: rest => (true, rest)
      | text => (false, text)
    let (name, text) := text.span (· != ':')
    match CharSet.named? (String.ofList name), text with
    | some set, ':' :: ']' :: rest =>
      let set := if flags.ignoreCase then set.anyCase else set
      some (if negated then .complement set else set, rest)
    | _, _ => none
  | _ => none

def readBracketAtom? (flags : Flags) : List Char → Option (Atom × List Char)
  | '\\' :: rest => readEscape? flags rest
  | c :: rest => some (.literal c, rest)
  | [] => none

def afterMinus (flags : Flags) (text : List Char) : Option Char :=
  if flags.layout then
    match text.dropWhile Text.isBlank with
    | '#' :: rest => (rest.dropWhile Text.isBlank).head?
    | rest => rest.head?
  else text.head?

/-- Reads a character, an escape or a range. A minus sign before a closing bracket or another
minus sign makes no range. -/
def readBracketItem? (flags : Flags) (text : List Char) : Option (CharSet × List Char) := do
  let (first, rest) ← readBracketAtom? flags text
  let rest := flags.skip rest
  let range? :=
    match rest with
    | '-' :: tail =>
      if afterMinus flags tail == some ']' || afterMinus flags tail == some '-' then none
      else some tail
    | _ => none
  match first, range? with
  | .literal c, none => return (.single c, rest)
  | .set set, none => return (set, rest)
  | .literal low, some tail =>
    match ← readBracketAtom? flags (flags.skip tail) with
    | (.literal high, rest) => if low ≤ high then return (.range low high, rest) else none
    | _ => none
  | _, _ => none

-- Every step reads a character here too.
def readBrackets? (flags : Flags) :
    Nat → OpenBracket → List OpenBracket → List Char → Option (Nested CharSet × List Char)
  | 0, _, _, _ => none
  | steps + 1, bracket, outer, text =>
    match flags.skip text with
    | [] => none
    | '[' :: rest =>
      match readNamedSet? flags rest with
      | some (set, rest) => readBrackets? flags steps (bracket.add ⟨set, 0⟩) outer rest
      | none =>
        let (inner, rest) := openBracket flags rest
        readBrackets? flags steps inner (bracket :: outer) rest
    | ']' :: rest =>
      let completed := bracket.close flags
      match outer with
      | [] => some (completed, rest)
      | enclosing :: outer => readBrackets? flags steps (enclosing.add completed) outer rest
    | '&' :: '&' :: rest =>
      readBrackets? flags steps (bracket.operate flags .intersection) outer rest
    | '-' :: '-' :: rest =>
      readBrackets? flags steps (bracket.operate flags .difference) outer rest
    | '~' :: '~' :: rest =>
      readBrackets? flags steps (bracket.operate flags .symmetricDifference) outer rest
    | text => do
      let (set, rest) ← readBracketItem? flags text
      readBrackets? flags steps (bracket.add ⟨set, 0⟩) outer rest

def readSet? (flags : Flags) (text : List Char) : Option (Nested CharSet × List Char) :=
  let (bracket, rest) := openBracket flags text
  readBrackets? flags text.length bracket [] rest

end TextGrammar.Regex
