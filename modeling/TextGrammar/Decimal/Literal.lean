import TextGrammar.Decimal.Binary

/-!
Numbers as they are written: integers with an optional sign, and floating-point numbers with an
optional sign, point and exponent.
-/

namespace TextGrammar.Decimal

def natural (digits : List Char) : Nat :=
  digits.foldl (fun number digit => 10 * number + (digit.toNat - '0'.toNat)) 0

def takeSign : List Char → Bool × List Char
  | '-' :: rest => (true, rest)
  | '+' :: rest => (false, rest)
  | text => (false, text)

/-- Reads an integer between two bounds. Only below zero may a minus stand in front. -/
def readInteger? (least greatest : Int) (text : String) : Option Int :=
  let (negative, digits) := takeSign text.toList
  if digits.isEmpty || !digits.all Char.isDigit || (negative && least == 0) then none
  else
    let number : Int := if negative then -natural digits else natural digits
    if least ≤ number ∧ number ≤ greatest then some number else none

def readExponent? : List Char → Option Int
  | [] => some 0
  | c :: rest =>
    let (negative, digits) := takeSign rest
    if (c != 'e' && c != 'E') || digits.isEmpty || !digits.all Char.isDigit then none
    else if negative then some (-natural digits) else some (natural digits)

/-- The number of a format nearest to some digits times a power of ten. Powers that lie far
outside every format are not computed. -/
def approximate (format : BinaryFormat) (negative : Bool) (digits : List Char) (exponent : Int) :
    Binary :=
  let significant := digits.dropWhile (· == '0')
  let magnitude := significant.length + exponent
  if significant.isEmpty || magnitude < -400 then .finite negative 0 format.least
  else if 400 < magnitude then .infinite negative
  else format.round negative (Ratio.scaleDecimal ⟨natural significant, 1⟩ exponent)

def readBinary? (format : BinaryFormat) (text : String) : Option Binary :=
  let (negative, unsigned) := takeSign text.toList
  let word := String.ofList (unsigned.map Char.toLower)
  if word = "nan" then some .notANumber
  else if word = "inf" ∨ word = "infinity" then some (.infinite negative)
  else do
    let (whole, rest) := unsigned.span Char.isDigit
    let (fraction, rest) :=
      match rest with
      | '.' :: rest => rest.span Char.isDigit
      | _ => ([], rest)
    if whole.isEmpty && fraction.isEmpty then none
    else
      let exponent ← readExponent? rest
      return approximate format negative (whole ++ fraction) (exponent - fraction.length)

end TextGrammar.Decimal
