import Glyphcast.Text.Cut
import Glyphcast.Text.Decimal
import Mathlib.Data.List.TakeWhile

/-!
# Separators and numerals

Two things a reader of lines does are told here without saying how it does them: a text is cut at
its first separator, and a text is read as a number exactly if it spells one. `Spells` is the
grammar of numerals: a `+` or nothing in front, then decimal digits, at least one, and as many zeros
before the others as one likes. The bound is no part of it.

Printed numbers have no zeros in front, so the beginning of one stands for zero only if the whole
does.
-/

namespace Glyphcast

namespace Text

variable {α : Type} {separates : α → Bool} {xs before after : List α}

theorem beq_eq_false_of_not_mem [DecidableEq α] {x : α} (free : x ∉ xs) :
    ∀ y ∈ xs, (y == x) = false := by
  intro y mem
  rw [beq_eq_false_iff_ne]
  rintro rfl
  exact free mem

/-- Without a separator nothing is cut. -/
theorem cut?_eq_none_iff : cut? separates xs = none ↔ ∀ x ∈ xs, separates x = false := by
  rw [cut?]
  constructor
  · intro h x mem
    split at h
    · next passed =>
      have pass := List.dropWhile_eq_nil_iff.mp passed x mem
      rwa [Bool.not_eq_true'] at pass
    · exact absurd h (Option.some_ne_none _)
  · intro free
    have passed : xs.dropWhile (!separates ·) = [] := by
      rw [List.dropWhile_eq_nil_iff]
      intro x mem
      rw [free x mem]
      rfl
    rw [passed]

/-- A cut is made at the first separator. -/
theorem cut?_eq_some_iff : cut? separates xs = some (before, after) ↔
    ∃ separator, xs = before ++ separator :: after ∧ separates separator = true ∧
      ∀ x ∈ before, separates x = false := by
  constructor
  · intro h
    have parts := xs.takeWhile_append_dropWhile (p := (!separates ·))
    rw [cut?] at h
    split at h
    · exact absurd h.symm (Option.some_ne_none _)
    next separator rest found =>
    obtain ⟨rfl, rfl⟩ := Prod.mk.inj (Option.some.inj h)
    rw [found] at parts
    refine ⟨separator, parts.symm, ?_, ?_⟩
    · have stops := List.head?_dropWhile_not (!separates ·) xs
      rw [found] at stops
      simpa using stops
    · intro x mem
      have pass := List.all_eq_true.mp (List.all_takeWhile (p := (!separates ·)) (l := xs)) x mem
      simpa using pass
  · rintro ⟨separator, rfl, found, free⟩
    exact cut?_append free found

end Text

namespace Decimal

/-- A text spells a number. -/
def Spells (cs : List Char) (n : Nat) : Prop :=
  ∃ sign ds, cs = sign ++ ds ∧ (sign = [] ∨ sign = ['+']) ∧ ds ≠ [] ∧
    (∀ d ∈ ds, d.isDigit = true) ∧ value ds = n

variable {cs : List Char} {bound n : Nat}

theorem spells_iff : Spells cs n ↔
    unsigned cs ≠ [] ∧ (∀ d ∈ unsigned cs, d.isDigit = true) ∧ value (unsigned cs) = n := by
  constructor
  · rintro ⟨sign, ds, rfl, rfl | rfl, some, digits, value⟩
    · rw [List.nil_append, unsigned_of_isDigit digits]
      exact ⟨some, digits, value⟩
    · exact ⟨some, digits, value⟩
  · rintro ⟨some, digits, value⟩
    by_cases signed : ∃ ds, cs = '+' :: ds
    · obtain ⟨ds, rfl⟩ := signed
      exact ⟨['+'], ds, rfl, .inr rfl, some, digits, value⟩
    · have bare : unsigned cs = cs := by
        unfold unsigned
        split
        · next ds => exact absurd ⟨ds, rfl⟩ signed
        · rfl
      rw [bare] at some digits value
      exact ⟨[], cs, rfl, .inl rfl, some, digits, value⟩

/-- A text is read as a number exactly if it spells it and the number is below the bound. -/
theorem read?_eq_some_iff : read? bound cs = some n ↔ Spells cs n ∧ n < bound := by
  rw [spells_iff, read?]
  constructor
  · intro h
    split at h
    · next spelled =>
      obtain ⟨some, digits, small⟩ := spelled
      obtain rfl := Option.some.inj h
      exact ⟨⟨some, List.all_eq_true.mp digits, rfl⟩, small⟩
    · exact absurd h.symm (Option.some_ne_none _)
  · rintro ⟨⟨some, digits, rfl⟩, small⟩
    exact if_pos ⟨some, List.all_eq_true.mpr digits, small⟩

theorem Spells.mem (h : Spells cs n) {c : Char} (mem : c ∈ cs) : c.isDigit = true ∨ c = '+' := by
  obtain ⟨sign, ds, rfl, signs, -, digits, -⟩ := h
  rcases List.mem_append.mp mem with inSign | inDigits
  · rcases signs with rfl | rfl
    · nomatch inSign
    · exact .inr (List.mem_singleton.mp inSign)
  · exact .inl (digits c inDigits)

theorem spells_digits (n : Nat) : Spells (digits n) n :=
  ⟨[], digits n, rfl, .inl rfl, Nat.toDigits_ne_nil, fun _ mem ↦ isDigit_of_mem_digits mem,
    value_digits n⟩

/-! ## No zeros in front -/

private theorem eq_zero_of_head_digits (h : (digits n).head? = some '0') : n = 0 := by
  induction n using Nat.strongRecOn with
  | ind n ih =>
    rw [digits, Nat.toDigits_eq_if (by decide)] at h
    split at h
    · exact Nat.digitChar_eq_zero.mp (Option.some.inj h)
    next large =>
    have fewer : n / 10 < n := by omega
    have front : (digits (n / 10)).head? = some '0' := by
      rw [List.head?_append, List.head?_eq_some_head Nat.toDigits_ne_nil, Option.some_or] at h
      rw [digits, List.head?_eq_some_head Nat.toDigits_ne_nil, h]
    have := ih (n / 10) fewer front
    omega

/-- Further digits make a number no smaller. -/
theorem le_foldl_digits (ds : List Char) (m : Nat) :
    m ≤ ds.foldl (fun n d ↦ 10 * n + (d.toNat - '0'.toNat)) m := by
  induction ds generalizing m with
  | nil => exact Nat.le_refl m
  | cons d ds ih =>
    have later := ih (10 * m + (d.toNat - '0'.toNat))
    rw [List.foldl_cons]
    omega

/-- The beginning of a printed number that is worth nothing is all of it. -/
theorem eq_digits_of_front (front : cs <+: digits n) (h : Spells cs 0) : n = 0 ∧ cs = digits n := by
  have rows : ∀ c ∈ cs, c.isDigit = true := fun c mem ↦ isDigit_of_mem_digits (front.mem mem)
  rw [spells_iff, unsigned_of_isDigit rows] at h
  obtain ⟨some, -, nothing⟩ := h
  obtain ⟨d, ds, rfl⟩ := List.exists_cons_of_ne_nil some
  have least : d.toNat = '0'.toNat := by
    have bound := le_foldl_digits ds (10 * 0 + (d.toNat - '0'.toNat))
    have low := (Char.isDigit_iff_toNat.mp (rows d List.mem_cons_self)).1
    rw [value, List.foldl_cons] at nothing
    omega
  obtain rfl : d = '0' := Char.toNat_inj.mp least
  obtain ⟨rest, whole⟩ := front
  have zero : n = 0 := eq_zero_of_head_digits (by rw [← whole]; rfl)
  subst zero
  have single : ('0' :: ds) ++ rest = ['0'] := whole
  obtain ⟨rfl, -⟩ := List.append_eq_nil_iff.mp (List.cons.inj single).2
  exact ⟨rfl, rfl⟩

end Decimal

end Glyphcast
