import TextGrammar.Text.CodePoint
import TextGrammar.Regex.Basic

/-!
The smallest pieces of a written regular expression: single characters, and what a backslash makes
of the characters after it. Where blanks are allowed for layout they are skipped, and so are
comments, from a number sign to the end of the line.
-/

namespace TextGrammar.Regex

structure Flags where
  ignoreCase : Bool
  /-- Line conditions hold at the ends of every line. -/
  multiLine : Bool
  dotAll : Bool
  /-- Repetitions prefer few rounds, and many with a question mark. -/
  swapGreed : Bool
  /-- Blanks and comments are layout. -/
  layout : Bool
  deriving DecidableEq, Repr

inductive Atom where
  | literal (c : Char)
  | set (set : CharSet)
  | look (condition : Look)

def skipLayout (inComment : Bool) : List Char → List Char
  | [] => []
  | c :: rest =>
    if inComment then skipLayout (c != '\n') rest
    else if Text.isBlank c then skipLayout false rest
    else if c = '#' then skipLayout true rest
    else c :: rest

def Flags.skip (flags : Flags) (text : List Char) : List Char :=
  if flags.layout then skipLayout false text else text

def Flags.gather (flags : Flags) (accepted : Char → Bool) :
    Nat → List Char → List Char × List Char
  | limit + 1, c :: rest =>
    if accepted c then
      let (read, rest) := flags.gather accepted limit (flags.skip rest)
      (c :: read, rest)
    else ([], c :: rest)
  | _, text => ([], text)

def isHexDigit (c : Char) : Bool := (Text.hexDigit? c).isSome

def characterOf? (digits : List Char) : Option Char :=
  if digits.isEmpty then none else (Text.hexNumber? digits).bind Text.character?

def readCodePoint? (flags : Flags) (count : Nat) (text : List Char) :
    Option (Char × List Char) := do
  match flags.skip text with
  | '\x7b' :: rest =>
    let rest := flags.skip rest
    let (digits, rest) := flags.gather isHexDigit rest.length rest
    match rest with
    | '\x7d' :: rest => return (← characterOf? digits, flags.skip rest)
    | _ => none
  | rest =>
    let (digits, rest) := flags.gather isHexDigit count rest
    if digits.length = count then return (← characterOf? digits, rest) else none

def readWordCondition? (flags : Flags) (text : List Char) :
    Option (Option Look × List Char) :=
  match text with
  | '\x7b' :: rest =>
    let inside := flags.skip rest
    let (name, rest) := flags.gather (fun c => c.isAlpha || c == '-') inside.length inside
    match name, rest with
    | [], _ :: _ => some (none, text)
    | name, '\x7d' :: rest =>
      match String.ofList name with
      | "start" => some (some .wordStart, rest)
      | "end" => some (some .wordEnd, rest)
      | "start-half" => some (some .halfWordStart, rest)
      | "end-half" => some (some .halfWordEnd, rest)
      | _ => none
    | _, _ => none
  | _ => some (none, text)

def readEscape? (flags : Flags) : List Char → Option (Atom × List Char)
  | [] => none
  | 'x' :: rest => (readCodePoint? flags 2 rest).map fun (c, rest) => (.literal c, rest)
  | 'u' :: rest => (readCodePoint? flags 4 rest).map fun (c, rest) => (.literal c, rest)
  | 'U' :: rest => (readCodePoint? flags 8 rest).map fun (c, rest) => (.literal c, rest)
  | 'd' :: rest => some (.set .decimalDigit, rest)
  | 'D' :: rest => some (.set (.complement .decimalDigit), rest)
  | 'w' :: rest => some (.set .wordCharacter, rest)
  | 'W' :: rest => some (.set (.complement .wordCharacter), rest)
  | 's' :: rest => some (.set .blank, rest)
  | 'S' :: rest => some (.set (.complement .blank), rest)
  | 'a' :: rest => some (.literal '\x07', rest)
  | 'f' :: rest => some (.literal '\x0c', rest)
  | 't' :: rest => some (.literal '\t', rest)
  | 'n' :: rest => some (.literal '\n', rest)
  | 'r' :: rest => some (.literal '\r', rest)
  | 'v' :: rest => some (.literal '\x0b', rest)
  | 'A' :: rest => some (.look .textStart, rest)
  | 'z' :: rest => some (.look .textEnd, rest)
  | 'b' :: rest =>
    (readWordCondition? flags rest).map fun (condition, rest) =>
      (.look (condition.getD .wordBoundary), rest)
  | 'B' :: rest => some (.look .noWordBoundary, rest)
  | '<' :: rest => some (.look .wordStart, rest)
  | '>' :: rest => some (.look .wordEnd, rest)
  | c :: rest => if c.toNat < 0x80 && !c.isAlphanum then some (.literal c, rest) else none

end TextGrammar.Regex
