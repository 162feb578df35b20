import TextGrammar.Json.Basic
import TextGrammar.Decimal.Literal

/-!
The value of a JSON number. An integer that fits in 64 bits, with or without a sign, is kept as it
is. Any other number is computed in 64-bit floating point from its leading digits, as many as fit
in 64 bits, and a power of ten; it may be off by some units in the last place.
-/

namespace TextGrammar

structure NumberText where
  negative : Bool
  whole : List Char
  fraction : List Char
  exponent : Option (Bool × List Char)

namespace NumberText

def wordBound : Nat := Nat.pow 2 64 - 1

/-- Appends digits to a significand while it fits in 64 bits. Returns it with the number of
digits left over. -/
def absorb : Nat → List Char → Nat × Nat
  | significand, [] => (significand, 0)
  | significand, digit :: rest =>
    let next := 10 * significand + (digit.toNat - '0'.toNat)
    if next ≤ wordBound then absorb next rest else (significand, rest.length + 1)

def powerOfTen (exponent : Nat) : Binary := BinaryFormat.double.round false ⟨Nat.pow 10 exponent, 1⟩

-- Divides by a power of ten in steps, each of which is rounded.
def lower (number : Binary) (places : Nat) : Binary :=
  if number.isZero then number
  else if places ≤ 308 then BinaryFormat.double.dividedBy number (powerOfTen places)
  else lower (BinaryFormat.double.dividedBy number (powerOfTen 308)) (places - 308)
termination_by places

def scale? (significand : Nat) (exponent : Int) : Option Binary :=
  let number := BinaryFormat.double.round false ⟨significand, 1⟩
  if exponent < 0 then some (lower number (-exponent).toNat)
  else if number.isZero then some number
  else if 308 < exponent then none
  else
    let product := BinaryFormat.double.times number (powerOfTen exponent.toNat)
    if product.isInfinite then none else some product

def real? (number : NumberText) : Option Binary :=
  let (leading, skipped) := absorb 0 number.whole
  let (significand, unused) := absorb leading number.fraction
  let exponent : Int := skipped + unused - number.fraction.length
  match number.exponent with
  | none => scale? significand exponent
  | some (negative, digits) =>
    let power := Decimal.natural digits
    if Nat.pow 2 31 ≤ power then
      if significand = 0 ∨ negative then some (.finite false 0 BinaryFormat.double.least) else none
    else scale? significand (if negative then exponent - power else exponent + power)

/-- The number that is written, if it is not too great. Zero with a minus is no integer. -/
def value? (number : NumberText) : Option JsonNumber :=
  let magnitude := Decimal.natural number.whole
  let bound := if number.negative then Nat.pow 2 63 else wordBound
  if number.fraction.isEmpty && number.exponent.isNone && magnitude ≤ bound &&
      !(number.negative && magnitude == 0) then
    some (.integer (if number.negative then -magnitude else magnitude))
  else
    number.real?.map fun value => .real (if number.negative then value.negate else value)

end NumberText

end TextGrammar
