/-!
Binary floating-point numbers, held exactly. A finite number is a significand times a power of
two; a format says which of them there are. Arithmetic is exact arithmetic followed by one
rounding to the nearest number of the format.
-/

namespace TextGrammar

inductive Binary where
  /-- The significand times two to the exponent, with a sign that zero has too. -/
  | finite (negative : Bool) (significand : Nat) (exponent : Int)
  | infinite (negative : Bool)
  | notANumber
  deriving DecidableEq, Repr

/-- A format: significands lie below two to the precision, exponents between the bounds. -/
structure BinaryFormat where
  precision : Nat
  least : Int
  greatest : Int

structure Ratio where
  numerator : Nat
  denominator : Nat

namespace Ratio

def scaleBinary (ratio : Ratio) (exponent : Int) : Ratio :=
  ⟨ratio.numerator * Nat.pow 2 exponent.toNat, ratio.denominator * Nat.pow 2 (-exponent).toNat⟩

def scaleDecimal (ratio : Ratio) (exponent : Int) : Ratio :=
  ⟨ratio.numerator * Nat.pow 10 exponent.toNat, ratio.denominator * Nat.pow 10 (-exponent).toNat⟩

def floor (ratio : Ratio) : Nat := ratio.numerator / ratio.denominator

def nearest (ratio : Ratio) : Nat :=
  let quotient := ratio.floor
  let twice := 2 * (ratio.numerator % ratio.denominator)
  if twice < ratio.denominator then quotient
  else if ratio.denominator < twice then quotient + 1
  else quotient + quotient % 2

end Ratio

namespace BinaryFormat

def double : BinaryFormat := ⟨53, -1074, 971⟩

def single : BinaryFormat := ⟨24, -149, 104⟩

/-- The exponent at which a nonzero fraction gets a significand of full precision, or the least
exponent if that is greater. -/
def exponentOf (format : BinaryFormat) (ratio : Ratio) : Int :=
  let estimate :=
    max format.least (ratio.numerator.log2 - ratio.denominator.log2 - format.precision : Int)
  if (ratio.scaleBinary (-estimate)).floor < Nat.pow 2 format.precision then estimate
  else estimate + 1

/-- The number of the format nearest to a fraction. Past the greatest number it is infinite. -/
def round (format : BinaryFormat) (negative : Bool) (ratio : Ratio) : Binary :=
  if ratio.numerator = 0 then .finite negative 0 format.least
  else
    let exponent := format.exponentOf ratio
    let significand := (ratio.scaleBinary (-exponent)).nearest
    let (significand, exponent) :=
      if significand = Nat.pow 2 format.precision then
        (Nat.pow 2 (format.precision - 1), exponent + 1)
      else (significand, exponent)
    if format.greatest < exponent then .infinite negative
    else .finite negative significand exponent

def times (format : BinaryFormat) : Binary → Binary → Binary
  | .finite _ m p, .finite _ n q => format.round false (Ratio.scaleBinary ⟨m * n, 1⟩ (p + q))
  | .notANumber, _ => .notANumber
  | _, .notANumber => .notANumber
  | _, _ => .infinite false

def dividedBy (format : BinaryFormat) : Binary → Binary → Binary
  | .finite _ m p, .finite _ n q => format.round false (Ratio.scaleBinary ⟨m, n⟩ (p - q))
  | .infinite _, .finite _ _ _ => .infinite false
  | .finite _ _ _, .infinite _ => .finite false 0 format.least
  | _, _ => .notANumber

end BinaryFormat

namespace Binary

def isZero : Binary → Bool
  | .finite _ significand _ => significand == 0
  | _ => false

def isInfinite : Binary → Bool
  | .infinite _ => true
  | _ => false

def negate : Binary → Binary
  | .finite negative significand exponent => .finite (!negative) significand exponent
  | .infinite negative => .infinite (!negative)
  | .notANumber => .notANumber

end Binary

end TextGrammar
