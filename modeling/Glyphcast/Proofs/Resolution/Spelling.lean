import Glyphcast.Proofs.Text.Padding
import Glyphcast.Resolution

/-!
# Sizes as texts

A size is written as two numerals with an `x` between them. It is read from more than that, and
exactly from what `Laid` lays out: the `x` may be a capital, there may be white space in four
places, and the numerals may have a sign and zeros in front. The reader does not look for these
places. It trims the text, cuts it at the first `x`, and trims the two parts, which is what
`Spelled` says; that the two come to the same is because a numeral has neither white space nor an
`x` in it.

A side is a number of 32 bits other than zero, so a size with a side of zero has a text that cannot
be read back.
-/

namespace Glyphcast.Resolution

open Text (isBlank trim)

variable {text : String} {grid : Resolution} {cs : List Char} {side : UInt32} {refusal : HubError}

/-- A character that stands between two sides. -/
def IsTimes (c : Char) : Prop := c = 'x' ∨ c = 'X'

/-- A text that a size is read from: trimmed, and cut at the first character that stands between two
sides, it has a positive numeral of 32 bits in each part, with white space around it or none. -/
def Spelled (text : String) (grid : Resolution) : Prop :=
  ∃ width times height, trim text.toList = width ++ times :: height ∧ IsTimes times ∧
    (∀ c ∈ width, ¬IsTimes c) ∧
    (Decimal.Spells (trim width) grid.width.toNat ∧ 0 < grid.width) ∧
    Decimal.Spells (trim height) grid.height.toNat ∧ 0 < grid.height

/-- A text in which a size is laid out: two positive numerals of 32 bits, a character between them,
and white space before, between and after the three. -/
def Laid (text : String) (grid : Resolution) : Prop :=
  ∃ before width left times right height after,
    text.toList = before ++ width ++ left ++ times :: right ++ height ++ after ∧
      (∀ c ∈ before ++ left ++ right ++ after, isBlank c = true) ∧ IsTimes times ∧
      (Decimal.Spells width grid.width.toNat ∧ 0 < grid.width) ∧
      Decimal.Spells height grid.height.toNat ∧ 0 < grid.height

/-! ## What is read -/

private theorem readSide?_eq_some_iff : readSide? cs = some side ↔
    Decimal.Spells (trim cs) side.toNat ∧ 0 < side := by
  simp only [readSide?, Option.bind_eq_bind, Option.bind_eq_some_iff, Decimal.read?_eq_some_iff]
  constructor
  · rintro ⟨n, ⟨spells, small⟩, h⟩
    by_cases zero : n = 0
    · rw [if_pos zero] at h
      cases h
    · rw [if_neg zero, Option.some.injEq] at h
      subst h
      rw [UInt32.lt_iff_toNat_lt, UInt32.toNat_ofNat_of_lt' small]
      exact ⟨spells, Nat.pos_of_ne_zero zero⟩
  · rintro ⟨spells, positive⟩
    have some : side.toNat ≠ 0 := Nat.ne_of_gt (UInt32.lt_iff_toNat_lt.mp positive)
    refine ⟨side.toNat, ⟨spells, side.toNat_lt_size⟩, ?_⟩
    rw [if_neg some, UInt32.ofNat_toNat]

theorem ofText?_eq_some_iff : ofText? text = some grid ↔ Spelled text grid := by
  have times (c : Char) : (c == 'x' || c == 'X') = true ↔ IsTimes c := by
    rw [Bool.or_eq_true, beq_iff_eq, beq_iff_eq, IsTimes]
  have other (c : Char) : (c == 'x' || c == 'X') = false ↔ ¬IsTimes c := by
    rw [← times, Bool.not_eq_true]
  simp only [ofText?, Option.bind_eq_bind, Option.bind_eq_some_iff, Option.pure_def,
    Option.some.injEq, Text.cut?_eq_some_iff, readSide?_eq_some_iff, times, other, Prod.exists]
  constructor
  · rintro ⟨width, height, ⟨separator, parts, separates, free⟩, w, wide, h, high, rfl⟩
    exact ⟨width, separator, height, parts, separates, free, wide, high⟩
  · rintro ⟨width, separator, height, parts, separates, free, wide, high⟩
    exact ⟨width, height, ⟨separator, parts, separates, free⟩, _, wide, _, high, rfl⟩

theorem parse_eq_ok_iff : parse text = .ok grid ↔ Spelled text grid := by
  rw [parse, ← ofText?_eq_some_iff]
  cases ofText? text with
  | none => simp only [reduceCtorEq]
  | some found => rw [Except.ok.injEq, Option.some.injEq]

theorem parse_eq_error_iff : parse text = .error refusal ↔
    (∀ grid, ¬Spelled text grid) ∧ refusal = .invalidResolution text := by
  simp only [parse, ← ofText?_eq_some_iff]
  cases ofText? text with
  | none =>
    simp only [Except.error.injEq, reduceCtorEq, not_false_eq_true, implies_true, true_and, eq_comm]
  | some found =>
    simp only [reduceCtorEq, Option.some.injEq, false_iff, not_and]
    exact fun h ↦ absurd rfl (h found)

theorem Spelled.pos (h : Spelled text grid) : 0 < grid.width ∧ 0 < grid.height := by
  obtain ⟨-, -, -, -, -, -, ⟨-, wide⟩, -, high⟩ := h
  exact ⟨wide, high⟩

/-! ## Where white space may stand -/

private theorem not_isTimes_of_spells {n : Nat} (h : Decimal.Spells cs n) {c : Char}
    (mem : c ∈ cs) : ¬IsTimes c := by
  rcases h.mem mem with digit | rfl
  · rintro (rfl | rfl)
    · exact absurd digit (by decide)
    · exact absurd digit (by decide)
  · rintro (sign | sign)
    · exact absurd sign (by decide)
    · exact absurd sign (by decide)

private theorem not_isTimes_of_isBlank {c : Char} (blank : isBlank c = true) : ¬IsTimes c := by
  rintro (rfl | rfl)
  · exact absurd blank (by decide)
  · exact absurd blank (by decide)

/-- Trimming and cutting finds exactly what is laid out. -/
theorem spelled_iff_laid : Spelled text grid ↔ Laid text grid := by
  constructor
  · rintro ⟨width, times, height, whole, separates, -, ⟨wide, wide_pos⟩, high, high_pos⟩
    obtain ⟨before, after, parts, hBefore, hAfter⟩ := Text.exists_trim_eq text.toList
    obtain ⟨front, w, left, rfl, hFront, hLeft, wide⟩ := Decimal.spells_trim_iff.mp wide
    obtain ⟨right, h, back, rfl, hRight, hBack, high⟩ := Decimal.spells_trim_iff.mp high
    refine ⟨before ++ front, w, left, times, right, h, back ++ after, ?_, ?_, separates,
      ⟨wide, wide_pos⟩, high, high_pos⟩
    · rw [parts, whole]
      simp only [List.append_assoc, List.cons_append]
    · intro c mem
      simp only [List.mem_append, or_assoc] at mem
      rcases mem with mem | mem | mem | mem | mem | mem
      · exact hBefore c mem
      · exact hFront c mem
      · exact hLeft c mem
      · exact hRight c mem
      · exact hBack c mem
      · exact hAfter c mem
  · rintro ⟨before, width, left, times, right, height, after, whole, blank, separates,
      ⟨wide, wide_pos⟩, high, high_pos⟩
    simp only [List.forall_mem_append] at blank
    obtain ⟨⟨⟨hBefore, hLeft⟩, hRight⟩, hAfter⟩ := blank
    have none : ∀ c ∈ ([] : List Char), isBlank c = true := List.forall_mem_nil _
    -- the text begins and ends with a numeral, once it is trimmed
    have trimmed : trim text.toList = (width ++ left) ++ times :: (right ++ height) := by
      have parts : text.toList =
          before ++ (((width ++ left) ++ times :: (right ++ height)) ++ after) := by
        rw [whole]
        simp only [List.append_assoc, List.cons_append]
      rw [parts]
      refine Text.trim_append hBefore hAfter (fun c mem ↦ wide.isBlank ?_) fun c mem ↦
        high.isBlank ?_
      · rw [List.append_assoc, List.head?_append_of_ne_nil _ wide.ne_nil] at mem
        exact List.mem_of_mem_head? mem
      · rw [← List.cons_append, ← List.append_assoc,
          List.getLast?_append_of_ne_nil _ high.ne_nil] at mem
        exact List.mem_of_mem_getLast? mem
    have left_trimmed : trim (width ++ left) = width := wide.trim_append none hLeft
    have right_trimmed : trim (right ++ height) = height := by
      have parts := high.trim_append hRight none
      rwa [List.append_nil] at parts
    refine ⟨width ++ left, times, right ++ height, trimmed, separates, ?_, ?_, ?_⟩
    · intro c mem
      rcases List.mem_append.mp mem with mem | mem
      · exact not_isTimes_of_spells wide mem
      · exact not_isTimes_of_isBlank (hLeft c mem)
    · rw [left_trimmed]
      exact ⟨wide, wide_pos⟩
    · rw [right_trimmed]
      exact ⟨high, high_pos⟩

/-! ## Reading back -/

theorem toList_text (grid : Resolution) : grid.text.toList =
    Decimal.digits grid.width.toNat ++ 'x' :: Decimal.digits grid.height.toNat := by
  simp only [text, String.toList_append, Text.toList_toString, List.append_assoc]
  rfl

private theorem readSide?_digits {n : Nat} : readSide? (Decimal.digits n) = some side ↔
    side.toNat = n ∧ 0 < side := by
  have solid : ∀ c ∈ Decimal.digits n, isBlank c = false :=
    fun c mem ↦ (Decimal.spells_digits n).isBlank mem
  rw [readSide?_eq_some_iff, Text.trim_of_not_blank solid]
  refine and_congr_left fun _ ↦ ⟨fun spells ↦ spells.unique (Decimal.spells_digits n), ?_⟩
  rintro rfl
  exact Decimal.spells_digits _

/-- What is read from the text of a size is the size, and it is read just if no side is zero. -/
theorem parse_text_eq_ok_iff {r : Resolution} : parse r.text = .ok grid ↔
    grid = r ∧ 0 < r.width ∧ 0 < r.height := by
  have solid : ∀ c ∈ r.text.toList, isBlank c = false := by
    intro c mem
    rw [toList_text, List.mem_append, List.mem_cons] at mem
    rcases mem with mem | rfl | mem
    · exact (Decimal.spells_digits _).isBlank mem
    · decide
    · exact (Decimal.spells_digits _).isBlank mem
  have free : ∀ c ∈ Decimal.digits r.width.toNat, (c == 'x' || c == 'X') = false := by
    intro c mem
    have other := not_isTimes_of_spells (Decimal.spells_digits _) mem
    rwa [← Bool.not_eq_true, Bool.or_eq_true, beq_iff_eq, beq_iff_eq]
  have cut : Text.cut? (fun c ↦ c == 'x' || c == 'X') (trim r.text.toList) =
      some (Decimal.digits r.width.toNat, Decimal.digits r.height.toNat) := by
    rw [Text.trim_of_not_blank solid, toList_text]
    exact Text.cut?_append free (by decide)
  rw [parse_eq_ok_iff, ← ofText?_eq_some_iff]
  simp only [ofText?, cut, Option.bind_eq_bind, Option.bind_some, Option.bind_eq_some_iff,
    readSide?_digits, Option.pure_def, Option.some.injEq, UInt32.toNat_inj]
  constructor
  · rintro ⟨_, ⟨rfl, wide⟩, _, ⟨rfl, high⟩, rfl⟩
    exact ⟨rfl, wide, high⟩
  · rintro ⟨rfl, wide, high⟩
    exact ⟨_, ⟨rfl, wide⟩, _, ⟨rfl, high⟩, rfl⟩

example : parse "\u2003+007\tX 0090 " = .ok ⟨7, 90⟩ := by decide +kernel

end Glyphcast.Resolution
