import Glyphcast.Proofs.Text.Plain
import Glyphcast.Text.Quoted

/-!
# Texts of one line

A reply is one line of text, so nothing that is put into a message may hold a line break. Plain text
holds none. What is not known to be plain is quoted, and a quoted text holds none whatever it is a
quotation of: the two line breaks have forms of their own between quotes, and every other character
is written by itself or by its number.
-/

namespace Glyphcast.Text

/-- No character ends a line. -/
def IsOneLine (text : String) : Prop := ∀ c ∈ text.toList, c ≠ '\n' ∧ c ≠ '\r'

instance (text : String) : Decidable (IsOneLine text) :=
  List.decidableBAll (fun c : Char ↦ c ≠ '\n' ∧ c ≠ '\r') text.toList

variable {text first second : String}

theorem IsOneLine.append (hFirst : IsOneLine first) (hSecond : IsOneLine second) :
    IsOneLine (first ++ second) := by
  intro c mem
  rw [String.toList_append, List.mem_append] at mem
  rcases mem with mem | mem
  · exact hFirst c mem
  · exact hSecond c mem

theorem IsPlain.isOneLine (plain : IsPlain text) : IsOneLine text := by
  intro c mem
  obtain ⟨low, -⟩ := plain c mem
  constructor
  · rintro rfl
    exact absurd low (by decide)
  · rintro rfl
    exact absurd low (by decide)

theorem isOneLine_toString (n : Nat) : IsOneLine (toString n) := (isPlain_toString n).isOneLine

/-! ## Quotation -/

private theorem exists_digitChar_of_mem_toDigits {base n : Nat} (h : 1 < base) {c : Char}
    (mem : c ∈ Nat.toDigits base n) : ∃ digit, c = Nat.digitChar digit := by
  induction n using Nat.strongRecOn with
  | ind n ih =>
    rw [Nat.toDigits_eq_if h] at mem
    split at mem
    · exact ⟨n, List.mem_singleton.mp mem⟩
    · next large =>
      rcases List.mem_append.mp mem with higher | last
      · exact ih (n / base) (Nat.div_lt_self (by omega) h) higher
      · exact ⟨n % base, List.mem_singleton.mp last⟩

private theorem not_break_of_mem_hex {n : Nat} {c : Char} (mem : c ∈ hex n) :
    c ≠ '\n' ∧ c ≠ '\r' := by
  obtain ⟨digit, rfl⟩ := exists_digitChar_of_mem_toDigits (by decide) mem
  exact ⟨Nat.digitChar_ne '\n' (by decide), Nat.digitChar_ne '\r' (by decide)⟩

private theorem not_break_of_mem_quoteChar {c d : Char} (mem : d ∈ quoteChar c) :
    d ≠ '\n' ∧ d ≠ '\r' := by
  unfold quoteChar at mem
  split_ifs at mem with quote slash tab feed carriage nul visible
  -- the forms of two characters come first, then a character that shows, and then the others
  iterate 6
    · rcases List.mem_pair.mp mem with rfl | rfl <;> decide
  · cases List.mem_singleton.mp mem
    exact ⟨feed, carriage⟩
  · rcases List.mem_append.mp mem with front | last
    · rcases List.mem_append.mp front with opening | digits
      · simp only [List.mem_cons, List.not_mem_nil, or_false] at opening
        rcases opening with rfl | rfl | rfl <;> decide
      · exact not_break_of_mem_hex digits
    · cases List.mem_singleton.mp last
      decide

/-- A quotation is of one line, whatever is quoted. -/
theorem isOneLine_quote (text : String) : IsOneLine (quote text) := by
  intro c mem
  rw [quote, String.toList_ofList, List.cons_append, List.mem_cons, List.mem_append,
    List.mem_singleton] at mem
  rcases mem with rfl | mem | rfl
  · decide
  · obtain ⟨quoted, -, written⟩ := List.mem_flatMap.mp mem
    exact not_break_of_mem_quoteChar written
  · decide

end Glyphcast.Text
