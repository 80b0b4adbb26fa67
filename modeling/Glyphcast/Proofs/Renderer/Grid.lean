import Glyphcast.Proofs.Image.Luma
import Glyphcast.Renderer.Ramp
import Mathlib.Data.Finset.Prod
import Mathlib.Order.Interval.Finset.Nat

/-!
# A grid over a picture

A grid is laid over a picture side by side: the columns over its width, the rows over its height,
and both in the same way. So the geometry is that of one side, cut into `cells` parts of about
`pixels / cells` pixels. `cellShare` is the part of a cell as a set, without the limit that
`cellSpan` puts to it, since no part comes to it.

Each part ends where the next begins, and the last one with the side, so no pixel is left out. This
is true of a grid that is finer than the picture, too, where many parts have no pixels of their own
and take the one at which they begin; a pixel may then lie in many cells. It lies in one alone where
every part is at least a pixel wide: `eq_of_mem_cellShare`.
-/

namespace Glyphcast

variable {i j cells pixels p : Nat}

/-! ## The edges of the cells -/

/-- A part has ended where a later one begins. -/
theorem cellEdge_succ_le (cells pixels : Nat) (earlier : i < j) :
    cellEdge (i + 1) cells pixels ≤ cellEdge j cells pixels :=
  Nat.div_le_div_right (Nat.mul_le_mul_right pixels earlier)

private theorem cellEdge_le (within : i ≤ cells) : cellEdge i cells pixels ≤ pixels :=
  Nat.div_le_of_le_mul (Nat.mul_le_mul_right pixels within)

/-- Every part begins on the side. -/
theorem cellEdge_lt (within : i < cells) (seen : 0 < pixels) :
    cellEdge i cells pixels < pixels := by
  rw [cellEdge, Nat.div_lt_iff_lt_mul (Nat.zero_lt_of_lt within), Nat.mul_comm pixels]
  exact Nat.mul_lt_mul_of_pos_right within seen

private theorem cellEdge_lt_succ (within : i < cells) (coarse : cells ≤ pixels) :
    cellEdge i cells pixels < cellEdge (i + 1) cells pixels := by
  have some_cell : 0 < cells := Nat.zero_lt_of_lt within
  calc cellEdge i cells pixels
      < (i * pixels + cells) / cells := by
        rw [Nat.add_div_right _ some_cell]
        exact Nat.lt_succ_self _
    _ ≤ cellEdge (i + 1) cells pixels := by
        rw [cellEdge, Nat.succ_mul]
        exact Nat.div_le_div_right (Nat.add_le_add_left coarse _)

/-- Every pixel lies between the edges of some part. -/
theorem exists_cellEdge (some_cell : 0 < cells) (onSide : p < pixels) :
    ∃ i < cells, cellEdge i cells pixels ≤ p ∧ p < cellEdge (i + 1) cells pixels := by
  have some_pixel : 0 < pixels := Nat.zero_lt_of_lt onSide
  have end_pos : 0 < (p + 1) * cells := Nat.mul_pos p.succ_pos some_cell
  -- the last part that begins before the pixel ends
  let i := ((p + 1) * cells - 1) / pixels
  have begins : i * pixels < (p + 1) * cells :=
    Nat.lt_of_le_of_lt (Nat.div_mul_le_self _ pixels) (Nat.sub_one_lt end_pos.ne')
  have ends : (p + 1) * cells ≤ (i + 1) * pixels := by
    rw [Nat.mul_comm (i + 1)]
    exact Nat.le_of_pred_lt (Nat.lt_mul_div_succ _ some_pixel)
  refine ⟨i, ?_, ?_, ?_⟩
  · refine Nat.lt_of_mul_lt_mul_right (a := pixels) (begins.trans_le ?_)
    rw [Nat.mul_comm cells]
    exact Nat.mul_le_mul_right cells onSide
  · exact Nat.le_of_lt_succ ((Nat.div_lt_iff_lt_mul some_cell).mpr begins)
  · exact (Nat.le_div_iff_mul_le some_cell).mpr ends

/-! ## The shares of the cells -/

/-- The pixels of a side that a cell covers. -/
def cellShare (i cells pixels : Nat) : Finset Nat :=
  Finset.Ico (i * pixels / cells) (max ((i + 1) * pixels / cells) (i * pixels / cells + 1))

private theorem mem_cellShare_iff : p ∈ cellShare i cells pixels ↔ cellEdge i cells pixels ≤ p ∧
    (p < cellEdge (i + 1) cells pixels ∨ p = cellEdge i cells pixels) := by
  rw [cellShare, Finset.mem_Ico, ← cellEdge, ← cellEdge, lt_max_iff, Nat.lt_succ_iff]
  constructor
  · rintro ⟨begins, before | narrow⟩
    · exact ⟨begins, .inl before⟩
    · exact ⟨begins, .inr (Nat.le_antisymm narrow begins)⟩
  · rintro ⟨begins, before | first⟩
    · exact ⟨begins, .inl before⟩
    · exact ⟨begins, .inr first.le⟩

/-- The limit that is put to a part is never met. -/
theorem cellShare_eq_Ico (within : i < cells) (seen : 0 < pixels) :
    cellShare i cells pixels =
      Finset.Ico (cellSpan i cells pixels).1 (cellSpan i cells pixels).2 := by
  have limit : max (cellEdge (i + 1) cells pixels) (cellEdge i cells pixels + 1) ≤ pixels :=
    max_le (cellEdge_le within) (cellEdge_lt within seen)
  rw [cellSpan, Nat.min_eq_left limit]
  rfl

theorem nonempty_cellShare (i cells pixels : Nat) : (cellShare i cells pixels).Nonempty :=
  ⟨cellEdge i cells pixels, mem_cellShare_iff.mpr ⟨Nat.le_refl _, .inr rfl⟩⟩

theorem lt_of_mem_cellShare (within : i < cells) (seen : 0 < pixels)
    (mem : p ∈ cellShare i cells pixels) : p < pixels := by
  obtain ⟨-, before | rfl⟩ := mem_cellShare_iff.mp mem
  · exact before.trans_le (cellEdge_le within)
  · exact cellEdge_lt within seen

theorem exists_mem_cellShare (some_cell : 0 < cells) (onSide : p < pixels) :
    ∃ i < cells, p ∈ cellShare i cells pixels := by
  obtain ⟨i, within, begins, before⟩ := exists_cellEdge some_cell onSide
  exact ⟨i, within, mem_cellShare_iff.mpr ⟨begins, .inl before⟩⟩

/-- Where there are not more cells than pixels, no pixel lies in two of them. -/
theorem eq_of_mem_cellShare (coarse : cells ≤ pixels) (within : i < cells) (within' : j < cells)
    (mem : p ∈ cellShare i cells pixels) (mem' : p ∈ cellShare j cells pixels) : i = j := by
  have between {i : Nat} (within : i < cells) (mem : p ∈ cellShare i cells pixels) :
      cellEdge i cells pixels ≤ p ∧ p < cellEdge (i + 1) cells pixels := by
    obtain ⟨begins, before | rfl⟩ := mem_cellShare_iff.mp mem
    · exact ⟨begins, before⟩
    · exact ⟨begins, cellEdge_lt_succ within coarse⟩
  obtain ⟨begins, before⟩ := between within mem
  obtain ⟨begins', before'⟩ := between within' mem'
  rcases Nat.lt_trichotomy i j with earlier | same | later
  · have meets := cellEdge_succ_le cells pixels earlier
    omega
  · exact same
  · have meets := cellEdge_succ_le cells pixels later
    omega

/-! ## The edges in words -/

/-- The edge of a cell, by a product of 64 bits and a quotient that is to fit into 32. -/
def wordEdge? (i cells pixels : Nat) : Option Nat := do
  let product ← Word.fit? 64 (i * pixels)
  return (Word.fit? 32 (product / cells)).getD pixels

/-- The pixels of a side that a cell covers, with sums of 32 bits; the number of the next cell stays
at the largest there is. -/
def wordSpan? (i cells pixels : Nat) : Option (Nat × Nat) := do
  let first ← wordEdge? i cells pixels
  let stop ← wordEdge? (min (i + 1) (2 ^ 32 - 1)) cells pixels
  let second ← Word.fit? 32 (first + 1)
  return (first, min (max stop second) pixels)

private theorem wordEdge?_eq (within : i ≤ cells) (cells_lt : cells < 2 ^ 32)
    (pixels_lt : pixels < 2 ^ 32) : wordEdge? i cells pixels = some (cellEdge i cells pixels) := by
  have product : i * pixels < 2 ^ 64 :=
    calc i * pixels < 2 ^ 32 * 2 ^ 32 := Nat.mul_lt_mul'' (within.trans_lt cells_lt) pixels_lt
      _ = 2 ^ 64 := rfl
  have edge : cellEdge i cells pixels < 2 ^ 32 := (cellEdge_le within).trans_lt pixels_lt
  rw [wordEdge?, Word.fit?_of_lt product, Option.bind_eq_bind, Option.bind_some, ← cellEdge,
    Word.fit?_of_lt edge]
  rfl

/-- Everything fits: with words the same edges are found. -/
theorem wordSpan?_eq (within : i < cells) (seen : 0 < pixels) (cells_lt : cells < 2 ^ 32)
    (pixels_lt : pixels < 2 ^ 32) : wordSpan? i cells pixels = some (cellSpan i cells pixels) := by
  have next : min (i + 1) (2 ^ 32 - 1) = i + 1 := by omega
  have second : cellEdge i cells pixels + 1 < 2 ^ 32 :=
    Nat.lt_of_le_of_lt (cellEdge_lt within seen) pixels_lt
  rw [wordSpan?, next, wordEdge?_eq within.le cells_lt pixels_lt,
    wordEdge?_eq (i := i + 1) within cells_lt pixels_lt]
  simp only [Option.bind_eq_bind, Option.bind_some, Word.fit?_of_lt second]
  rfl

end Glyphcast
