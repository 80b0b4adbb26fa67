import Glyphcast.Text.Decimal

/-!
# Numbers with three places

A length in seconds is shown with three decimal places. The value of the float is taken apart
exactly, as a whole number times a power of two, and rounded once: to the nearest thousandth, and
from the middle between two to the even one.
-/

namespace Glyphcast.Decimal

/-- One above the fractions that a float can store: the bit that a normal float leaves out. -/
def hiddenBit : Nat := 1 <<< 52

/-- Whole numbers `m` and `q` with `m * 2 ^ q` the value of a float that is finite and not
negative. -/
def binaryParts (x : Float) : Nat × Int :=
  let bits := x.toBits.toNat
  let fraction := bits % hiddenBit
  let exponent := bits / hiddenBit % 2048
  if exponent = 0 then (fraction, -1074) else (fraction + hiddenBit, (exponent : Int) - 1075)

/-- A quotient rounded to the nearest whole number, from the middle to the even one. -/
def roundHalfEven (num den : Nat) : Nat :=
  let quotient := num / den
  let twice := 2 * (num % den)
  if den < twice ∨ (den = twice ∧ quotient % 2 = 1) then quotient + 1 else quotient

/-- The thousandths nearest to a float. -/
def thousandths (x : Float) : Nat :=
  match binaryParts x with
  | (m, .ofNat q) => (m * 1000) <<< q
  | (m, .negSucc q) => roundHalfEven (m * 1000) (2 <<< q)

/-- A float that is finite and not negative, with three decimal places. -/
def threePlaces (x : Float) : String :=
  let n := thousandths x
  toString (n / 1000) ++ "." ++ padded 3 (n % 1000)

end Glyphcast.Decimal
