import Glyphcast.Error
import Glyphcast.Text.Blank
import Glyphcast.Text.Cut
import Glyphcast.Text.Decimal

/-!
# Grid sizes

A stream is rendered on a grid of characters, and a resolution is that grid's size. It is written
`120x90`. Reading is more liberal than writing: the `x` may be a capital, white space may stand
around the whole text and around each number, and a number may carry a `+` and leading zeros. A
side of zero is no side.
-/

namespace Glyphcast

/-- A size in columns and rows. -/
structure Resolution where
  /-- Columns. -/
  width : UInt32
  /-- Rows. -/
  height : UInt32
  deriving DecidableEq, Repr

namespace Resolution

/-- The size used when none is asked for. -/
def standard : Resolution := ⟨120, 90⟩

/-- The product of two sides, held at the largest value that a side can have. -/
def saturatingMul (a b : UInt32) : UInt32 :=
  UInt32.ofNat (min (a.toNat * b.toNat) (UInt32.size - 1))

theorem toNat_saturatingMul (a b : UInt32) :
    (saturatingMul a b).toNat = min (a.toNat * b.toNat) (UInt32.size - 1) := by
  have fits : min (a.toNat * b.toNat) (UInt32.size - 1) < UInt32.size :=
    Nat.lt_of_le_of_lt (Nat.min_le_right ..) (by decide)
  exact UInt32.toNat_ofNat_of_lt' fits

/-- Both sides multiplied. A side that would grow too large stays at the largest value. -/
def scaled (r : Resolution) (factor : UInt32) : Resolution :=
  ⟨saturatingMul r.width factor, saturatingMul r.height factor⟩

/-- Whether neither side exceeds the limit's. -/
def fitsWithin (r limit : Resolution) : Bool :=
  r.width ≤ limit.width && r.height ≤ limit.height

/-- How many cells the grid has. -/
def area (r : Resolution) : Nat := r.width.toNat * r.height.toNat

/-- The written form. -/
def text (r : Resolution) : String :=
  toString r.width.toNat ++ "x" ++ toString r.height.toNat

/-- A side of the grid: a positive numeral of 32 bits, in any white space. -/
def readSide? (cs : List Char) : Option UInt32 := do
  let n ← Decimal.read? UInt32.size (Text.trim cs)
  if n = 0 then none else some (UInt32.ofNat n)

/-- The size that a text stands for. -/
def ofText? (text : String) : Option Resolution := do
  let (w, h) ← Text.cut? (fun c ↦ c == 'x' || c == 'X') (Text.trim text.toList)
  return ⟨← readSide? w, ← readSide? h⟩

/-- The size that a text stands for, or the refusal that quotes the text. -/
def parse (text : String) : Except HubError Resolution :=
  match ofText? text with
  | some r => .ok r
  | none => .error (.invalidResolution text)

end Resolution

end Glyphcast
