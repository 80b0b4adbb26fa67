/-!
# Decimal numerals

Numbers are printed as plain decimal digits and read a little more liberally: one `+` may stand
in front, and leading zeros are fine. Nothing else is: no sign `-`, no separators, no blanks, and
no value at or above the bound that the caller gives, which is where the number's width comes in.
-/

namespace Glyphcast.Decimal

/-- The digits of a number, without leading zeros. -/
def digits (n : Nat) : List Char := Nat.toDigits 10 n

/-- A number in at least `width` digits, with zeros in front. -/
def padded (width n : Nat) : String :=
  let written := toString n
  "".pushn '0' (width - written.length) ++ written

/-- The value of a row of decimal digits, most significant first. -/
def value (ds : List Char) : Nat := ds.foldl (fun n d ↦ 10 * n + (d.toNat - '0'.toNat)) 0

/-- A numeral without the `+` that may stand in front of it. -/
def unsigned : List Char → List Char
  | '+' :: rest => rest
  | cs => cs

/-- The number below `bound` that a numeral stands for. -/
def read? (bound : Nat) (cs : List Char) : Option Nat :=
  let ds := unsigned cs
  if ds ≠ [] ∧ ds.all Char.isDigit ∧ value ds < bound then some (value ds) else none

/-! ## Printing and reading back -/

@[simp] theorem value_digits (n : Nat) : value (digits n) = n :=
  Nat.ofDigitChars_toDigits (by decide) (by decide)

theorem isDigit_of_mem_digits {n : Nat} {c : Char} (mem : c ∈ digits n) : c.isDigit = true :=
  Nat.isDigit_of_mem_toDigits (by decide) (by decide) mem

theorem unsigned_of_isDigit {ds : List Char} (h : ∀ c ∈ ds, c.isDigit = true) :
    unsigned ds = ds := by
  unfold unsigned
  split
  · next rest => exact absurd (h '+' List.mem_cons_self) (by decide)
  · rfl

/-- A printed number is read as itself, where it is below the bound. -/
theorem read?_digits {bound n : Nat} (h : n < bound) : read? bound (digits n) = some n := by
  have all : (digits n).all Char.isDigit = true :=
    List.all_eq_true.mpr fun _ mem ↦ isDigit_of_mem_digits mem
  have unsigned_eq : unsigned (digits n) = digits n :=
    unsigned_of_isDigit fun _ mem ↦ isDigit_of_mem_digits mem
  rw [read?, unsigned_eq, value_digits, if_pos ⟨Nat.toDigits_ne_nil, all, h⟩]

end Glyphcast.Decimal
