import Glyphcast.Proofs.Text.Numeral
import Glyphcast.Proofs.Text.Plain
import Mathlib.Tactic.Set

/-!
# White space around something

A reader that trims does not care what white space there is at the two ends, and cares for all that
there is between them. `trim_append` says it with the two characters that the trimming stops at,
so what is left may have white space inside; `exists_trim_eq` says that whatever was cut off can be
put back.

A numeral has no white space in it. So a text is read as a number after trimming exactly if it is a
numeral in white space.
-/

namespace Glyphcast

namespace Text

variable {cs front middle back : List Char}

theorem exists_trim_eq (cs : List Char) : ∃ front back, cs = front ++ (trim cs ++ back) ∧
    (∀ c ∈ front, isBlank c = true) ∧ ∀ c ∈ back, isBlank c = true := by
  have blank (ds : List Char) : ∀ c ∈ ds.takeWhile isBlank, isBlank c = true :=
    List.all_eq_true.mp List.all_takeWhile
  set rest := cs.dropWhile isBlank with rest_eq
  have trimmed : rest = trim cs ++ (rest.reverse.takeWhile isBlank).reverse := by
    rw [trim, ← rest_eq, ← List.reverse_append, List.takeWhile_append_dropWhile,
      List.reverse_reverse]
  refine ⟨cs.takeWhile isBlank, (rest.reverse.takeWhile isBlank).reverse, ?_, blank cs, ?_⟩
  · rw [← trimmed, rest_eq, List.takeWhile_append_dropWhile]
  · exact fun c mem ↦ blank _ c (List.mem_reverse.mp mem)

private theorem dropWhile_isBlank_append (hFront : ∀ c ∈ front, isBlank c = true)
    (stops : ∀ c ∈ cs.head?, isBlank c = false) : (front ++ cs).dropWhile isBlank = cs := by
  rw [List.dropWhile_append_of_pos hFront]
  cases cs with
  | nil => rfl
  | cons c cs =>
    refine List.dropWhile_cons_of_neg ?_
    rw [stops c rfl]
    exact Bool.false_ne_true

/-- Trimming stops at the first and at the last character that is not white space. -/
theorem trim_append (hFront : ∀ c ∈ front, isBlank c = true) (hBack : ∀ c ∈ back, isBlank c = true)
    (first : ∀ c ∈ middle.head?, isBlank c = false)
    (last : ∀ c ∈ middle.getLast?, isBlank c = false) :
    trim (front ++ (middle ++ back)) = middle := by
  rcases List.eq_nil_or_concat middle with rfl | ⟨init, c, rfl⟩
  · have all : ∀ c ∈ front ++ ([] ++ back), isBlank c = true := by
      intro c mem
      rcases List.mem_append.mp mem with mem | mem
      · exact hFront c mem
      · exact hBack c mem
    rw [trim, List.dropWhile_eq_nil_iff.mpr all]
    rfl
  · have some : (init ++ [c] ++ back).head? = (init ++ [c]).head? := by
      rw [List.head?_append, List.head?_eq_some_head (List.concat_ne_nil _ _), Option.some_or]
    rw [List.concat_eq_append] at first last ⊢
    rw [trim, dropWhile_isBlank_append hFront (by rw [some]; exact first), List.reverse_append,
      dropWhile_isBlank_append (fun d mem ↦ hBack d (List.mem_reverse.mp mem))
        (by rw [List.head?_reverse]; exact last), List.reverse_reverse]

end Text

namespace Decimal

open Text (isBlank trim)

variable {cs : List Char} {bound n : Nat}

/-- There is no white space in a numeral. -/
theorem Spells.isBlank (h : Spells cs n) {c : Char} (mem : c ∈ cs) : isBlank c = false := by
  rcases h.mem mem with digit | rfl
  · exact Text.isBlank_of_isDigit digit
  · decide

/-- A text spells one number at most. -/
theorem Spells.unique {m : Nat} (h : Spells cs n) (h' : Spells cs m) : n = m :=
  (spells_iff.mp h).2.2.symm.trans (spells_iff.mp h').2.2

theorem Spells.ne_nil (h : Spells cs n) : cs ≠ [] := by
  obtain ⟨sign, ds, rfl, -, some, -, -⟩ := h
  exact List.append_ne_nil_of_right_ne_nil sign some

theorem Spells.trim_append (h : Spells cs n) {front back : List Char}
    (hFront : ∀ c ∈ front, Text.isBlank c = true) (hBack : ∀ c ∈ back, Text.isBlank c = true) :
    trim (front ++ (cs ++ back)) = cs :=
  Text.trim_append hFront hBack (fun _ mem ↦ h.isBlank (List.mem_of_mem_head? mem))
    fun _ mem ↦ h.isBlank (List.mem_of_mem_getLast? mem)

/-- What spells a number once it is trimmed is a numeral in white space. -/
theorem spells_trim_iff : Spells (trim cs) n ↔ ∃ front numeral back,
    cs = front ++ (numeral ++ back) ∧ (∀ c ∈ front, Text.isBlank c = true) ∧
      (∀ c ∈ back, Text.isBlank c = true) ∧ Spells numeral n := by
  constructor
  · intro h
    obtain ⟨front, back, parts, hFront, hBack⟩ := Text.exists_trim_eq cs
    exact ⟨front, trim cs, back, parts, hFront, hBack, h⟩
  · rintro ⟨front, numeral, back, rfl, hFront, hBack, h⟩
    rwa [h.trim_append hFront hBack]

end Decimal

end Glyphcast
