import TextGrammar.Json.Number
import TextGrammar.Text.CodePoint

/-!
The tokens of a JSON document: brackets, commas, colons and scalars. Between them only spaces,
tabs, line feeds and carriage returns may stand.
-/

namespace TextGrammar

open Text

inductive JsonToken where
  | openArray
  | closeArray
  | openObject
  | closeObject
  | comma
  | colon
  | scalar (value : Json)

namespace JsonToken

def simpleEscape? : Char → Option Char
  | '"' => some '"'
  | '\\' => some '\\'
  | '/' => some '/'
  | 'b' => some '\x08'
  | 'f' => some '\x0c'
  | 'n' => some '\n'
  | 'r' => some '\r'
  | 't' => some '\t'
  | _ => none

def scanString (read : List Char) : List Char → Option (String × List Char)
  | [] => none
  | '"' :: rest => some (String.ofList read.reverse, rest)
  | '\\' :: 'u' :: a :: b :: c :: d :: rest =>
    match hexNumber? [a, b, c, d] with
    | none => none
    | some code =>
      match character? code, rest with
      | some character, rest => scanString (character :: read) rest
      | none, '\\' :: 'u' :: e :: f :: g :: h :: rest =>
        match (hexNumber? [e, f, g, h]).bind (surrogatePair? code) with
        | some character => scanString (character :: read) rest
        | none => none
      | none, _ => none
  | '\\' :: c :: rest =>
    match simpleEscape? c with
    | some character => scanString (character :: read) rest
    | none => none
  | c :: rest => if c.toNat < 0x20 then none else scanString (c :: read) rest

def scanExponent : List Char → Option (Option (Bool × List Char) × List Char)
  | [] => some (none, [])
  | c :: rest =>
    if c = 'e' ∨ c = 'E' then
      let (negative, rest) := Decimal.takeSign rest
      let (digits, rest) := rest.span Char.isDigit
      if digits.isEmpty then none else some (some (negative, digits), rest)
    else some (none, c :: rest)

def scanNumber (negative : Bool) (text : List Char) : Option (JsonNumber × List Char) := do
  let (whole, rest) := text.span Char.isDigit
  if whole.isEmpty || (whole.head? == some '0' && 1 < whole.length) then none
  let (fraction, rest) ←
    match rest with
    | '.' :: rest =>
      let (fraction, rest) := rest.span Char.isDigit
      if fraction.isEmpty then none else some (fraction, rest)
    | _ => some ([], rest)
  let (exponent, rest) ← scanExponent rest
  let value ← NumberText.value? ⟨negative, whole, fraction, exponent⟩
  return (value, rest)

def scanOne : List Char → Option (JsonToken × List Char)
  | '[' :: rest => some (.openArray, rest)
  | ']' :: rest => some (.closeArray, rest)
  | '\x7b' :: rest => some (.openObject, rest)
  | '\x7d' :: rest => some (.closeObject, rest)
  | ',' :: rest => some (.comma, rest)
  | ':' :: rest => some (.colon, rest)
  | '"' :: rest => (scanString [] rest).map fun (text, rest) => (.scalar (.string text), rest)
  | 'n' :: 'u' :: 'l' :: 'l' :: rest => some (.scalar .null, rest)
  | 't' :: 'r' :: 'u' :: 'e' :: rest => some (.scalar (.bool true), rest)
  | 'f' :: 'a' :: 'l' :: 's' :: 'e' :: rest => some (.scalar (.bool false), rest)
  | '-' :: rest => (scanNumber true rest).map fun (value, rest) => (.scalar (.number value), rest)
  | text => (scanNumber false text).map fun (value, rest) => (.scalar (.number value), rest)

/-- Reads tokens up to the end. Every step reads a character, so as many steps as there are
characters suffice. -/
def scanAll : Nat → List Char → Option (List JsonToken)
  | _, [] => some []
  | 0, _ :: _ => none
  | steps + 1, c :: rest =>
    if c = ' ' ∨ c = '\t' ∨ c = '\n' ∨ c = '\r' then scanAll steps rest
    else do
      let (token, rest) ← scanOne (c :: rest)
      return token :: (← scanAll steps rest)

def ofText? (text : String) : Option (List JsonToken) :=
  scanAll text.length text.toList

end JsonToken

end TextGrammar
