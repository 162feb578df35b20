import TextGrammar.Decimal.Binary

/-!
The shortest decimal text of a binary number: the fewest digits that round to the number in its
format, and of those the nearest. It is written in full, without an exponent.
-/

namespace TextGrammar

structure Decimal where
  digits : Nat
  exponent : Int
  deriving DecidableEq, Repr

namespace Decimal

def toRatio (decimal : Decimal) : Ratio := Ratio.scaleDecimal ⟨decimal.digits, 1⟩ decimal.exponent

def text (decimal : Decimal) : String :=
  let digits := Nat.toDigits 10 decimal.digits
  let places := (-decimal.exponent).toNat
  let zeros (count : Nat) := List.replicate count '0'
  if places = 0 then String.ofList (digits ++ zeros decimal.exponent.toNat)
  else
    let padded := zeros (places + 1 - digits.length) ++ digits
    let (whole, fraction) := padded.splitAt (padded.length - places)
    String.ofList (whole ++ '.' :: fraction)

end Decimal

namespace Ratio

def below (left right : Ratio) : Bool :=
  left.numerator * right.denominator < right.numerator * left.denominator

def nearerTo (middle low high : Ratio) : Bool :=
  -- Twice the distance to the lower end is below the distance of the two ends.
  2 * middle.numerator * low.denominator * high.denominator <
    (low.numerator * high.denominator + high.numerator * low.denominator) * middle.denominator

end Ratio

namespace BinaryFormat

def decimalPlace (ratio : Ratio) : Int :=
  -- The least power of ten above the fraction. Scaled so far up no fraction of a format is below
  -- one.
  let shift := 400
  (Nat.toDigits 10 (ratio.scaleDecimal shift).floor).length - shift

/-- Whether a fraction rounds to the given positive number. The midpoints to its neighbours do
when the significand is even. Below a power of two the gap is half as wide. -/
def roundsTo (format : BinaryFormat) (significand : Nat) (exponent : Int) (ratio : Ratio) : Bool :=
  let narrow := significand == Nat.pow 2 (format.precision - 1) && format.least < exponent
  let low := Ratio.scaleBinary ⟨4 * significand - (if narrow then 1 else 2), 1⟩ (exponent - 2)
  let high := Ratio.scaleBinary ⟨4 * significand + 2, 1⟩ (exponent - 2)
  if significand % 2 = 0 then !ratio.below low && !high.below ratio
  else low.below ratio && ratio.below high

/-- The first power of ten, going down, that has a multiple which rounds to the number. The
multiple is one of the two next to the number: the nearer one, and of two as near the greater. -/
def shortestFrom (format : BinaryFormat) (significand : Nat) (exponent : Int) :
    Nat → Int → Decimal
  | 0, place =>
    let value := Ratio.scaleBinary ⟨significand, 1⟩ exponent
    ⟨(value.scaleDecimal (-place)).nearest, place⟩
  | further + 1, place =>
    let value := Ratio.scaleBinary ⟨significand, 1⟩ exponent
    let low : Decimal := ⟨(value.scaleDecimal (-place)).floor, place⟩
    let high : Decimal := ⟨low.digits + 1, place⟩
    match format.roundsTo significand exponent low.toRatio,
        format.roundsTo significand exponent high.toRatio with
    | true, true => if value.nearerTo low.toRatio high.toRatio then low else high
    | true, false => low
    | false, true => high
    | false, false => shortestFrom format significand exponent further (place - 1)

def shortest (format : BinaryFormat) (significand : Nat) (exponent : Int) : Decimal :=
  -- Seventeen digits suffice for 64 bits, and the first place lies above the number.
  shortestFrom format significand exponent 18
    (decimalPlace (Ratio.scaleBinary ⟨significand, 1⟩ exponent))

def text (format : BinaryFormat) : Binary → String
  | .notANumber => "NaN"
  | .infinite negative => if negative then "-inf" else "inf"
  | .finite negative significand exponent =>
    let unsigned := if significand = 0 then "0" else (format.shortest significand exponent).text
    if negative then "-" ++ unsigned else unsigned

end BinaryFormat

end TextGrammar
