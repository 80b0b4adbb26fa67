import Glyphcast.Json.Value
import Glyphcast.Text.Decimal

/-!
# Reading a JSON number

A number is first cut out of the text as a `Numeral`, the parts that the grammar names, and then
given a value. A numeral without fraction and exponent that fits in 64 bits keeps its value
exactly. Every other one becomes a float, and a value that no finite float can hold is an error.

## How a float is made

The leading digits are collected into one 64-bit number for as long as they fit, the digits left
over count only as places, and the float of that number is then multiplied by a power of ten, or
divided by one. That takes two roundings at most, so the result can miss the nearest float by one
place; a speed factor can bear that.
-/

namespace Glyphcast.Json

/-- The parts of a number as it is written. -/
structure Numeral where
  /-- Whether a minus sign stands in front. -/
  negative : Bool
  /-- The digits before the point. -/
  whole : List Char
  /-- The digits after the point, if there is one. -/
  fraction : Option (List Char)
  /-- The exponent's sign (true for minus) and digits, if there is one. -/
  exponent : Option (Bool × List Char)

/-- The digits that a text starts with, and the rest. -/
def spanDigits (cs : List Char) : List Char × List Char :=
  (cs.takeWhile Char.isDigit, cs.dropWhile Char.isDigit)

/-- The digits before the point: a lone zero, or digits that start with another one. -/
def readWhole? (cs : List Char) : Option (List Char × List Char) :=
  match spanDigits cs with
  | ([], _) => none
  | (['0'], rest) => some (['0'], rest)
  | ('0' :: _, _) => none
  | (ds, rest) => some (ds, rest)

/-- The digits after the point, at least one of them, if there is a point. -/
def readFraction? : List Char → Option (Option (List Char) × List Char)
  | '.' :: cs =>
    match spanDigits cs with
    | ([], _) => none
    | (ds, rest) => some (some ds, rest)
  | cs => some (none, cs)

/-- The sign of an exponent. -/
def readSign : List Char → Bool × List Char
  | '+' :: cs => (false, cs)
  | '-' :: cs => (true, cs)
  | cs => (false, cs)

/-- The exponent, with at least one digit, if there is one. -/
def readExponent? : List Char → Option (Option (Bool × List Char) × List Char)
  | c :: cs =>
    if c = 'e' ∨ c = 'E' then
      let (negative, digits) := readSign cs
      match spanDigits digits with
      | ([], _) => none
      | (ds, rest) => some (some (negative, ds), rest)
    else some (none, c :: cs)
  | [] => some (none, [])

/-- The numeral that a text starts with, and the rest. -/
def Numeral.read? (cs : List Char) : Option (Numeral × List Char) := do
  let (negative, cs) := match cs with
    | '-' :: rest => (true, rest)
    | _ => (false, cs)
  let (whole, cs) ← readWhole? cs
  let (fraction, cs) ← readFraction? cs
  let (exponent, cs) ← readExponent? cs
  return (⟨negative, whole, fraction, exponent⟩, cs)

/-! ## The value as a float -/

/-- Append digits to a number while it stays below `2 ^ 64`, and count those appended. -/
def appendDigits (n taken : Nat) : List Char → Nat × Nat
  | [] => (n, taken)
  | d :: ds =>
    let next := 10 * n + (d.toNat - '0'.toNat)
    if next < UInt64.size then appendDigits next (taken + 1) ds else (n, taken)

/-- `x * 10 ^ e`, by one multiplication or division for each 308 places. There is none if it
exceeds every finite float. -/
def scale? (x : Float) (e : Int) : Option Float :=
  if e.natAbs ≤ 308 then
    let power := Float.ofScientific 1 false e.natAbs
    if 0 ≤ e then
      if (x * power).isInf then none else some (x * power)
    else some (x / power)
  else if x == 0 then some x
  else if 0 ≤ e then none
  else scale? (x / Float.ofScientific 1 false 308) (e + 308)
termination_by e.natAbs
decreasing_by omega

/-- The digits that count, as one number, and the power of ten that goes with them. -/
def Numeral.significant (numeral : Numeral) : Nat × Int :=
  let (n, taken) := appendDigits 0 0 numeral.whole
  let dropped := numeral.whole.length - taken
  let (n, places) := appendDigits n 0 (numeral.fraction.getD [])
  let shift : Int := match numeral.exponent with
    | none => 0
    | some (true, ds) => -(Decimal.value ds : Int)
    | some (false, ds) => Decimal.value ds
  (n, dropped - places + shift)

/-- The float that a numeral stands for. -/
def Numeral.toFloat? (numeral : Numeral) : Option Float := do
  let (n, e) := numeral.significant
  let x ← scale? (UInt64.ofNat n).toFloat e
  return if numeral.negative then -x else x

/-- The number that a numeral stands for. -/
def Numeral.value? (numeral : Numeral) : Option Number :=
  let n := Decimal.value numeral.whole
  if numeral.fraction = none ∧ numeral.exponent = none ∧ n < UInt64.size then
    if !numeral.negative then some (.natural n)
    else if 0 < n ∧ n ≤ UInt64.size / 2 then some (.negative n)
    else some (.real (-(UInt64.ofNat n).toFloat))
  else numeral.toFloat?.map .real

end Glyphcast.Json
