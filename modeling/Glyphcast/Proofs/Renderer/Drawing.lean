import Glyphcast.Proofs.Renderer.Grid
import Mathlib.Algebra.BigOperators.Group.Finset.Sigma
import Mathlib.Algebra.Order.BigOperators.Group.Finset

/-!
# What is drawn

A picture is drawn cell by cell, and a cell is drawn by the mean of its pixels. Here the mean is one
over a set of pixels, `Image.average`, so it does not matter in which order they are added up; and
where a character stands in the text is told by its row and its column.

Every cell has pixels, and all of them are pixels of the picture. So the mean is one over something,
and it is at most 255 as the pixels themselves are, and the ramp is long enough for it:
`RampRenderer.position_lt`.
-/

namespace Glyphcast

/-! ## Means -/

namespace Image

/-- The mean of the brightness of some pixels, rounded down. -/
def average (image : Image) (pixels : Finset (Nat × Nat)) : Nat :=
  (∑ p ∈ pixels, image.luma p.1 p.2) / pixels.card

/-- The pixels that a cell of a grid covers. -/
def cellPixels (image : Image) (width height column row : Nat) : Finset (Nat × Nat) :=
  cellShare column width image.width.toNat ×ˢ cellShare row height image.height.toNat

variable {image : Image} {width height column row x y : Nat}

private theorem mem_cellPixels_iff : (x, y) ∈ image.cellPixels width height column row ↔
    x ∈ cellShare column width image.width.toNat ∧ y ∈ cellShare row height image.height.toNat :=
  Finset.mem_product

theorem nonempty_cellPixels (image : Image) (width height column row : Nat) :
    (image.cellPixels width height column row).Nonempty :=
  (nonempty_cellShare ..).product (nonempty_cellShare ..)

private theorem pos_of_isEmpty (seen : image.isEmpty = false) :
    0 < image.width.toNat ∧ 0 < image.height.toNat := by
  simp only [isEmpty, Bool.or_eq_false_iff, beq_eq_false_iff_ne, ne_eq, ← UInt32.toNat_inj] at seen
  exact ⟨Nat.pos_of_ne_zero seen.1.1, Nat.pos_of_ne_zero seen.1.2⟩

theorem lt_of_mem_cellPixels (seen : image.isEmpty = false) (inWidth : column < width)
    (inHeight : row < height) {p : Nat × Nat}
    (mem : p ∈ image.cellPixels width height column row) :
    p.1 < image.width.toNat ∧ p.2 < image.height.toNat := by
  obtain ⟨wide, high⟩ := pos_of_isEmpty seen
  obtain ⟨inColumns, inRows⟩ := mem_cellPixels_iff.mp mem
  exact ⟨lt_of_mem_cellShare inWidth wide inColumns, lt_of_mem_cellShare inHeight high inRows⟩

private theorem foldl_range'_eq_sum (f : Nat → Nat) (start first stop : Nat) :
    (List.range' first (stop - first)).foldl (fun sum x ↦ sum + f x) start =
      start + ∑ x ∈ Finset.Ico first stop, f x := by
  have unrolled (xs : List Nat) : xs.foldl (fun sum x ↦ sum + f x) start =
      start + (xs.map f).sum := by
    induction xs generalizing start with
    | nil => rfl
    | cons x xs ih => rw [List.foldl_cons, ih, List.map_cons, List.sum_cons, Nat.add_assoc]
  exact unrolled _

private theorem meanLuma_eq_average (image : Image) (columns rows : Nat × Nat) :
    image.meanLuma columns rows =
      image.average (Finset.Ico columns.1 columns.2 ×ˢ Finset.Ico rows.1 rows.2) := by
  rw [meanLuma, average, Finset.sum_product_right, Finset.card_product, Nat.card_Ico, Nat.card_Ico]
  simp only [foldl_range'_eq_sum, List.length_range', Nat.zero_add]

/-- The brightness of a cell is the mean of its pixels. -/
theorem cellLuma_eq_average (seen : image.isEmpty = false) (inWidth : column < width)
    (inHeight : row < height) : image.cellLuma width height column row =
      image.average (image.cellPixels width height column row) := by
  obtain ⟨wide, high⟩ := pos_of_isEmpty seen
  rw [cellLuma, meanLuma_eq_average, ← cellShare_eq_Ico inWidth wide,
    ← cellShare_eq_Ico inHeight high]
  rfl

private theorem average_le (image : Image) (pixels : Finset (Nat × Nat)) :
    image.average pixels ≤ 255 :=
  Nat.div_le_of_le_mul <|
    pixels.sum_le_card_nsmul (fun p ↦ image.luma p.1 p.2) 255 fun p _ ↦ image.luma_le p.1 p.2

end Image

/-! ## Characters and their places -/

private theorem getElem?_flatMap {α β : Type} {xs : List α} {f : α → List β} {n i j : Nat}
    (uniform : ∀ x, (f x).length = n) (within : j < n) :
    (xs.flatMap f)[i * n + j]? = xs[i]?.bind fun x ↦ (f x)[j]? := by
  induction xs generalizing i with
  | nil => rfl
  | cons x xs ih =>
    rw [List.flatMap_cons]
    cases i with
    | zero =>
      rw [Nat.zero_mul, Nat.zero_add, List.getElem?_append_left (by rw [uniform]; exact within)]
      rfl
    | succ i =>
      rw [Nat.succ_mul, Nat.add_right_comm, Nat.add_comm,
        List.getElem?_append_right (by rw [uniform]; exact Nat.le_add_right ..), uniform,
        Nat.add_sub_cancel_left, ih]
      rfl

namespace RampRenderer

/-- The position on the ramp of the character that a cell is drawn with. -/
def position (renderer : RampRenderer) (image : Image) (width height column row : Nat) : Nat :=
  image.average (image.cellPixels width height column row) * (renderer.ramp.size - 1) / 255

variable {renderer : RampRenderer} {image : Image} {width height column row : Nat}

/-- No mean is beyond the end of the ramp. -/
theorem position_lt (inked : 0 < renderer.ramp.size) :
    renderer.position image width height column row < renderer.ramp.size := by
  have brightest : renderer.position image width height column row ≤ renderer.ramp.size - 1 :=
    Nat.div_le_of_le_mul (Nat.mul_le_mul_right _ (image.average_le _))
  omega

theorem getElem?_position (seen : image.isEmpty = false) (inked : 0 < renderer.ramp.size)
    (inWidth : column < width) (inHeight : row < height) :
    renderer.ramp[renderer.position image width height column row]? =
      some (renderer.cell image width height column row) := by
  have picked : rampIndex renderer.ramp.size (image.cellLuma width height column row) =
      renderer.position image width height column row := by
    rw [rampIndex, Image.cellLuma_eq_average seen inWidth inHeight, position]
  have within : renderer.position image width height column row < renderer.ramp.size :=
    position_lt inked
  rw [cell, picked, Array.getD_eq_getD_getElem?, Array.getElem?_eq_getElem within]
  rfl

@[simp]
private theorem length_row (renderer : RampRenderer) (image : Image) (width height row : Nat) :
    (renderer.row image width height row).length = width + 1 := by
  rw [RampRenderer.row, List.length_append, List.length_map, List.length_range]
  rfl

theorem getElem?_row (inWidth : column < width) :
    (renderer.row image width height row)[column]? =
      some (renderer.cell image width height column row) := by
  rw [RampRenderer.row, List.getElem?_append_left (by rwa [List.length_map, List.length_range]),
    List.getElem?_map, List.getElem?_range inWidth]
  rfl

private theorem getElem?_row_last (renderer : RampRenderer) (image : Image)
    (width height row : Nat) : (renderer.row image width height row)[width]? = some '\n' := by
  have cells :
      ((List.range width).map (renderer.cell image width height · row)).length = width := by
    rw [List.length_map, List.length_range]
  rw [RampRenderer.row, List.getElem?_append_right cells.le, cells, Nat.sub_self]
  rfl

theorem toList_draw (seen : image.isEmpty = false) (inked : 0 < renderer.ramp.size)
    (wide : 0 < width) (high : 0 < height) : (renderer.draw image width height).toList =
      (List.range height).flatMap (renderer.row image width height) := by
  have drawn : ¬(image.isEmpty ∨ width = 0 ∨ height = 0 ∨ renderer.ramp.isEmpty) := by
    rintro (blank | narrow | low | bare)
    · exact absurd (seen.symm.trans blank) (by decide)
    · exact wide.ne' narrow
    · exact high.ne' low
    · exact inked.ne' (Array.isEmpty_iff_size_eq_zero.mp bare)
  rw [draw, if_neg drawn, String.toList_ofList]

theorem getElem?_draw (seen : image.isEmpty = false) (inked : 0 < renderer.ramp.size)
    (wide : 0 < width) (inRow : column < width + 1) (inHeight : row < height) :
    (renderer.draw image width height).toList[row * (width + 1) + column]? =
      (renderer.row image width height row)[column]? := by
  rw [toList_draw seen inked wide (Nat.zero_lt_of_lt inHeight),
    getElem?_flatMap (renderer.length_row image width height) inRow, List.getElem?_range inHeight]
  rfl

/-- A text of so many lines, each of so many of these characters and ended by a line break. -/
def IsBlock (characters : List Char) (width height : Nat) (text : String) : Prop :=
  ∃ rows : List (List Char), text.toList = rows.flatMap (· ++ ['\n']) ∧ rows.length = height ∧
    ∀ row ∈ rows, row.length = width ∧ ∀ c ∈ row, c ∈ characters ∧ c ≠ '\n'

/-- A picture is as many lines as the grid has rows, if no character of the ramp breaks a line. -/
theorem isBlock_draw (seen : image.isEmpty = false) (inked : 0 < renderer.ramp.size)
    (unbroken : '\n' ∉ renderer.ramp.toList) (wide : 0 < width) (high : 0 < height) :
    IsBlock renderer.ramp.toList width height (renderer.draw image width height) := by
  refine ⟨(List.range height).map fun row ↦
    (List.range width).map (renderer.cell image width height · row), ?_, ?_, ?_⟩
  · rw [toList_draw seen inked wide high, List.flatMap_map]
    rfl
  · rw [List.length_map, List.length_range]
  · intro cells mem
    obtain ⟨row, inHeight, rfl⟩ := List.mem_map.mp mem
    refine ⟨by rw [List.length_map, List.length_range], fun c mem ↦ ?_⟩
    obtain ⟨column, inWidth, rfl⟩ := List.mem_map.mp mem
    have picked := getElem?_position seen inked (List.mem_range.mp inWidth)
      (List.mem_range.mp inHeight)
    have onRamp : renderer.cell image width height column row ∈ renderer.ramp.toList :=
      Array.mem_toList_iff.mpr (Array.mem_of_getElem? picked)
    exact ⟨onRamp, fun lineBreak ↦ unbroken (lineBreak ▸ onRamp)⟩

end RampRenderer

/-! ## What is promised -/

/-- What a text is that draws a picture on a grid. -/
structure Draws (renderer : RampRenderer) (image : Image) (width height : UInt32) (text : String) :
    Prop where
  /-- It has so many characters. -/
  length_eq : text.length = height.toNat * (width.toNat + 1)
  /-- A row ends with a line break. -/
  lineBreak : ∀ row < height.toNat,
    text.toList[row * (width.toNat + 1) + width.toNat]? = some '\n'
  /-- Before it stand the cells, each as the character of the ramp that the mean of its pixels
  picks. -/
  cell : ∀ row < height.toNat, ∀ column < width.toNat,
    text.toList[row * (width.toNat + 1) + column]? =
      renderer.ramp[image.average (image.cellPixels width.toNat height.toNat column row) *
        (renderer.ramp.size - 1) / 255]?
  /-- The ramp has that character. -/
  onRamp : ∀ row < height.toNat, ∀ column < width.toNat,
    image.average (image.cellPixels width.toNat height.toNat column row) *
      (renderer.ramp.size - 1) / 255 < renderer.ramp.size
  /-- A cell has pixels, and all of them are in the picture. -/
  inside : ∀ row < height.toNat, ∀ column < width.toNat,
    (image.cellPixels width.toNat height.toNat column row).Nonempty ∧
      ∀ p ∈ image.cellPixels width.toNat height.toNat column row,
        p.1 < image.width.toNat ∧ p.2 < image.height.toNat
  /-- No pixel is left out. -/
  covered : ∀ x < image.width.toNat, ∀ y < image.height.toNat,
    ∃ row < height.toNat, ∃ column < width.toNat,
      (x, y) ∈ image.cellPixels width.toNat height.toNat column row
  /-- None is in two cells, unless the grid is finer than the picture. -/
  apart : width ≤ image.width → height ≤ image.height →
    ∀ row < height.toNat, ∀ column < width.toNat, ∀ row' < height.toNat, ∀ column' < width.toNat,
      ∀ p, p ∈ image.cellPixels width.toNat height.toNat column row →
        p ∈ image.cellPixels width.toNat height.toNat column' row' → row = row' ∧ column = column'
  /-- Words are large enough for the edges of the cells. -/
  words : (∀ row < height.toNat, wordSpan? row height.toNat image.height.toNat =
      some (cellSpan row height.toNat image.height.toNat)) ∧
    ∀ column < width.toNat, wordSpan? column width.toNat image.width.toNat =
      some (cellSpan column width.toNat image.width.toNat)

variable {renderer : RampRenderer} {image : Image} {width height : UInt32}

/-- Whatever the picture and the grid are, as long as there is something to see and something to
draw it with. -/
theorem draws_render (seen : image.isEmpty = false) (inked : 0 < renderer.ramp.size)
    (wide : 0 < width) (high : 0 < height) : ∃ text,
    FrameRenderer.render renderer image width height = .ok text ∧
      Draws renderer image width height text := by
  refine ⟨renderer.draw image width.toNat height.toNat, rfl, ?_⟩
  obtain ⟨image_wide, image_high⟩ := Image.pos_of_isEmpty seen
  replace wide : 0 < width.toNat := UInt32.lt_iff_toNat_lt.mp wide
  replace high : 0 < height.toNat := UInt32.lt_iff_toNat_lt.mp high
  refine ⟨?_, ?_, ?_, ?_, ?_, ?_, ?_, ?_⟩
  · rw [← String.length_toList, RampRenderer.toList_draw seen inked wide high,
      List.length_flatMap]
    simp only [RampRenderer.length_row, List.map_const', List.sum_replicate_nat, List.length_range]
  · intro row inHeight
    rw [RampRenderer.getElem?_draw seen inked wide (Nat.lt_succ_self _) inHeight,
      RampRenderer.getElem?_row_last]
  · intro row inHeight column inWidth
    rw [RampRenderer.getElem?_draw seen inked wide (Nat.lt_succ_of_lt inWidth) inHeight,
      RampRenderer.getElem?_row inWidth]
    exact (RampRenderer.getElem?_position seen inked inWidth inHeight).symm
  · intro row inHeight column inWidth
    exact RampRenderer.position_lt inked
  · intro row inHeight column inWidth
    exact ⟨image.nonempty_cellPixels .., fun p ↦ Image.lt_of_mem_cellPixels seen inWidth inHeight⟩
  · intro x inColumns y inRows
    obtain ⟨column, inWidth, mem_column⟩ := exists_mem_cellShare wide inColumns
    obtain ⟨row, inHeight, mem_row⟩ := exists_mem_cellShare high inRows
    exact ⟨row, inHeight, column, inWidth, Image.mem_cellPixels_iff.mpr ⟨mem_column, mem_row⟩⟩
  · intro narrow low row inHeight column inWidth row' inHeight' column' inWidth' p mem mem'
    obtain ⟨mem_column, mem_row⟩ := Image.mem_cellPixels_iff.mp mem
    obtain ⟨mem_column', mem_row'⟩ := Image.mem_cellPixels_iff.mp mem'
    exact ⟨eq_of_mem_cellShare (UInt32.le_iff_toNat_le.mp low) inHeight inHeight' mem_row mem_row',
      eq_of_mem_cellShare (UInt32.le_iff_toNat_le.mp narrow) inWidth inWidth' mem_column
        mem_column'⟩
  · exact ⟨fun row inHeight ↦
        wordSpan?_eq inHeight image_high height.toNat_lt image.height.toNat_lt,
      fun column inWidth ↦ wordSpan?_eq inWidth image_wide width.toNat_lt image.width.toNat_lt⟩

/-- A picture of two by three pixels in colours, where the bytes end in the middle of the third. -/
def tornPicture : Image := ⟨.rgb, 2, 3, ⟨#[255, 255, 255, 0, 255, 0, 255]⟩⟩

/-- It is drawn on a grid that is finer than it in one direction, and coarser in the other. -/
theorem draws_tornPicture :
    let renderer : RampRenderer := ⟨#['.', ':', '#']⟩
    tornPicture.isEmpty = false ∧ 0 < renderer.ramp.size ∧ (0 : UInt32) < 5 ∧ (0 : UInt32) < 2 ∧
      renderer.draw tornPicture 5 2 = "###::\n.....\n" ∧
      ∃ text, FrameRenderer.render renderer tornPicture 5 2 = .ok text ∧
        Draws renderer tornPicture 5 2 text := by
  intro renderer
  have seen : tornPicture.isEmpty = false := by decide
  have inked : 0 < renderer.ramp.size := by decide
  have wide : (0 : UInt32) < 5 := by decide
  have high : (0 : UInt32) < 2 := by decide
  exact ⟨seen, inked, wide, high, by decide +kernel, draws_render seen inked wide high⟩

end Glyphcast
