/-!
# JSON values

What a client sends is JSON. A value keeps everything that a message can depend on: an object is
the list of its members as they were written, because a member that is written twice is an error
in some places and not in others, and a number remembers whether it was written as a whole number,
because `10` is a frame rate and `10.0` is not.
-/

namespace Glyphcast

/-- A number, by how it was written and how much of it fits in 64 bits. -/
inductive Json.Number where
  /-- A whole number without a sign, below `2 ^ 64`. -/
  | natural (n : Nat)
  /-- The whole number `-n`, with `n` from `1` to `2 ^ 63`. -/
  | negative (n : Nat)
  /-- Anything else: a fraction, an exponent, a minus zero, or too many digits. -/
  | real (x : Float)

/-- A JSON value. -/
inductive Json where
  /-- The literal `null`. -/
  | null
  /-- The literal `true` or `false`. -/
  | bool (b : Bool)
  /-- A number. -/
  | number (n : Json.Number)
  /-- A string. -/
  | string (s : String)
  /-- An array. -/
  | array (items : List Json)
  /-- An object, with its members in the order they were written. -/
  | object (members : List (String × Json))

namespace Json.Number

/-- The number as a 64-bit float. -/
def toFloat : Number → Float
  | natural n => (UInt64.ofNat n).toFloat
  | negative n => -(UInt64.ofNat n).toFloat
  | real x => x

end Json.Number

namespace Json

/-- The text of a string. -/
def asText? : Json → Option String
  | string s => some s
  | _ => none

/-- A whole number of 32 bits. A number written with a fraction, an exponent or a minus sign is
none, whatever its value. -/
def asWord? : Json → Option UInt32
  | number (.natural n) => if n < UInt32.size then some (UInt32.ofNat n) else none
  | _ => none

/-- Any number. -/
def asFloat? : Json → Option Float
  | number n => some n.toFloat
  | _ => none

/-- A value that may be left open by writing `null`. -/
def asOptional? {α : Type} (read : Json → Option α) : Json → Option (Option α)
  | null => some none
  | value => (read value).map some

end Json

end Glyphcast
