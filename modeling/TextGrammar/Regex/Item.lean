import TextGrammar.Regex.Bracket
import TextGrammar.Decimal.Literal

/-!
The items of a written regular expression: characters, sets and conditions, the opening and closing
of groups, bars between alternatives, repetitions, and changes of the flags.
-/

namespace TextGrammar.Regex

inductive Item where
  | atom (regex : Nested Regex)
  /-- A group whose match is not kept has no name either. -/
  | openGroup (flags : Flags) (kept : Bool) (name : Option String)
  | closeGroup
  | bar
  | rounds (least : Nat) (most : Option Nat) (greedy : Bool)
  /-- From here to the end of the group other flags hold. -/
  | change (flags : Flags)

def Flags.assign? (flags : Flags) (value : Bool) : Char → Option Flags
  | 'i' => some { flags with ignoreCase := value }
  | 'm' => some { flags with multiLine := value }
  | 's' => some { flags with dotAll := value }
  | 'U' => some { flags with swapGreed := value }
  | 'x' => some { flags with layout := value }
  | 'u' => if value then some flags else none
  | _ => none

/-- Reads the letters of flags up to a colon or a closing parenthesis. No letter may come twice,
nor may the minus sign, after which flags are cleared; a letter has to follow it. -/
def readFlags? (seen : List Char) (flags : Flags) : List Char → Option (Flags × List Char)
  | [] => none
  | c :: rest =>
    if c = ':' ∨ c = ')' then
      if seen.head? == some '-' then none else some (flags, c :: rest)
    else if seen.contains c then none
    else if c = '-' then readFlags? (c :: seen) flags rest
    else (flags.assign? (!seen.contains '-') c).bind fun flags => readFlags? (c :: seen) flags rest

def beginsName (c : Char) : Bool := c == '_' || Text.isAlphabetic c

def continuesName (c : Char) : Bool :=
  beginsName c || Text.isNumber c || c == '.' || c == '[' || c == ']'

def readName? (text : List Char) : Option (String × List Char) :=
  match text.span (· != '>') with
  | (first :: others, '>' :: rest) =>
    if beginsName first && others.all continuesName then
      some (String.ofList (first :: others), rest)
    else none
  | _ => none

def readGroup? (flags : Flags) (text : List Char) : Option (Item × List Char) :=
  match flags.skip text with
  | '?' :: '<' :: '=' :: _ => none
  | '?' :: '<' :: '!' :: _ => none
  | '?' :: 'P' :: '<' :: rest =>
    (readName? rest).map fun (name, rest) => (.openGroup flags true (some name), rest)
  | '?' :: '<' :: rest =>
    (readName? rest).map fun (name, rest) => (.openGroup flags true (some name), rest)
  | '?' :: ')' :: _ => none
  | '?' :: rest =>
    match readFlags? [] flags rest with
    | some (flags, ':' :: rest) => some (.openGroup flags false none, rest)
    | some (flags, ')' :: rest) => some (.change flags, rest)
    | _ => none
  | rest => some (.openGroup flags true none, rest)

def roundsBound : Nat := Nat.pow 2 32

def readCount? (flags : Flags) (text : List Char) : Option (Nat × List Char) :=
  let text := text.dropWhile Text.isBlank
  let (digits, rest) := flags.gather Char.isDigit text.length text
  let count := Decimal.natural digits
  if digits.isEmpty || roundsBound ≤ count then none
  else some (count, flags.skip (rest.dropWhile Text.isBlank))

def takeLazy (flags : Flags) : List Char → Bool × List Char
  | '?' :: rest => (flags.swapGreed, rest)
  | rest => (!flags.swapGreed, rest)

def readBounds? (flags : Flags) (text : List Char) : Option (Item × List Char) := do
  let (least, rest) ← readCount? flags (flags.skip text)
  let (most, rest) ←
    match rest with
    | ',' :: rest =>
      match flags.skip rest with
      | '\x7d' :: rest => some (none, '\x7d' :: rest)
      | rest => (readCount? flags rest).map fun (most, rest) => (some most, rest)
    | rest => some (some least, rest)
  match rest with
  | '\x7d' :: rest =>
    let (greedy, rest) := takeLazy flags (flags.skip rest)
    if most.all (least ≤ ·) then return (.rounds least most greedy, rest) else none
  | _ => none

def atom (regex : Regex) : Item := .atom ⟨regex, 0⟩

def Atom.toItem (flags : Flags) : Atom → Item
  | .literal c =>
    let only := CharSet.single c
    Regex.atom (ofSet (if flags.ignoreCase then only.anyCase else only))
  | .set chars => Regex.atom (ofSet chars)
  | .look condition => Regex.atom (.look condition)

def readItem? (flags : Flags) : List Char → Option (Item × List Char)
  | [] => none
  | '(' :: rest => readGroup? flags rest
  | ')' :: rest => some (.closeGroup, rest)
  | '|' :: rest => some (.bar, rest)
  | '[' :: rest =>
    (readSet? flags rest).map fun (set, rest) => (.atom ⟨ofSet set.value, set.depth⟩, rest)
  | '?' :: rest =>
    let (greedy, rest) := takeLazy flags rest
    some (.rounds 0 (some 1) greedy, rest)
  | '*' :: rest =>
    let (greedy, rest) := takeLazy flags rest
    some (.rounds 0 none greedy, rest)
  | '+' :: rest =>
    let (greedy, rest) := takeLazy flags rest
    some (.rounds 1 none greedy, rest)
  | '\x7b' :: rest => readBounds? flags rest
  | '.' :: rest =>
    some (atom (ofSet (.complement (if flags.dotAll then .nothing else .single '\n'))), rest)
  | '^' :: rest => some (atom (.look (if flags.multiLine then .lineStart else .textStart)), rest)
  | '$' :: rest => some (atom (.look (if flags.multiLine then .lineEnd else .textEnd)), rest)
  | '\\' :: rest => (readEscape? flags rest).map fun (atom, rest) => (atom.toItem flags, rest)
  | c :: rest => some ((Atom.literal c).toItem flags, rest)

end TextGrammar.Regex
