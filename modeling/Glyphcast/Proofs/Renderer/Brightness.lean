import Glyphcast.Proofs.Renderer.Drawing

/-!
# Brighter pictures

Between a pixel and its character there are two divisions that round down, one in the mean of the
cell and one on the ramp. Neither can turn two pictures around: both are monotone, and the cells of
two pictures of the same size have the same pixels. Nor does either of them lose the ends of the
scale, since the mean of equal numbers is that number, and 255 goes into 255 times anything.
-/

namespace Glyphcast

namespace Image

variable {image dim bright : Image} {pixels : Finset (Nat × Nat)}

/-- What covers pixel for pixel more light has a mean that is at least as large. -/
theorem average_mono (le : ∀ p ∈ pixels, dim.luma p.1 p.2 ≤ bright.luma p.1 p.2) :
    dim.average pixels ≤ bright.average pixels :=
  Nat.div_le_div_right (Finset.sum_le_sum le)

private theorem average_of_even {v : Nat} (some_pixel : pixels.Nonempty)
    (even : ∀ p ∈ pixels, image.luma p.1 p.2 = v) : image.average pixels = v := by
  rw [average, Finset.sum_const_nat even, Nat.mul_div_cancel_left v some_pixel.card_pos]

/-- Pictures of the same size have the same cells. -/
theorem cellPixels_congr (wide : dim.width = bright.width) (high : dim.height = bright.height)
    (width height column row : Nat) :
    dim.cellPixels width height column row = bright.cellPixels width height column row := by
  rw [cellPixels, cellPixels, wide, high]

end Image

namespace RampRenderer

variable {renderer : RampRenderer} {image dim bright : Image} {width height column row : Nat}

/-- A grid of one character. -/
def plain (c : Char) (width height : Nat) : String :=
  String.ofList (List.replicate height (List.replicate width c ++ ['\n'])).flatten

private theorem draw_eq_plain (seen : image.isEmpty = false) (wide : 0 < width) (high : 0 < height)
    {k : Nat} {c : Char} (found : renderer.ramp[k]? = some c)
    (even : ∀ row < height, ∀ column < width,
      renderer.position image width height column row = k) :
    renderer.draw image width height = plain c width height := by
  have inked : 0 < renderer.ramp.size :=
    Nat.zero_lt_of_lt (Array.getElem?_eq_some_iff.mp found).1
  have cells (row : Nat) (inHeight : row < height) :
      renderer.row image width height row = List.replicate width c ++ ['\n'] := by
    have same (column : Nat) (mem : column ∈ List.range width) :
        renderer.cell image width height column row = c := by
      have inWidth := List.mem_range.mp mem
      have picked := getElem?_position seen inked inWidth inHeight
      rw [even row inHeight column inWidth, found] at picked
      exact (Option.some.inj picked).symm
    rw [RampRenderer.row, List.map_congr_left same, List.map_const', List.length_range]
  have rows : (List.range height).flatMap (renderer.row image width height) =
      (List.replicate height (List.replicate width c ++ ['\n'])).flatten := by
    rw [List.flatMap_def, List.map_congr_left fun row mem ↦ cells row (List.mem_range.mp mem),
      List.map_const', List.length_range]
  rw [← String.toList_inj, toList_draw seen inked wide high, rows, plain, String.toList_ofList]

/-- The position of a cell in a picture of one brightness. -/
theorem position_of_even (seen : image.isEmpty = false) (inWidth : column < width)
    (inHeight : row < height) {v : Nat}
    (even : ∀ x < image.width.toNat, ∀ y < image.height.toNat, image.luma x y = v) :
    renderer.position image width height column row = v * (renderer.ramp.size - 1) / 255 := by
  rw [position, Image.average_of_even (image.nonempty_cellPixels width height column row)]
  intro p mem
  obtain ⟨inColumns, inRows⟩ := Image.lt_of_mem_cellPixels seen inWidth inHeight mem
  exact even p.1 inColumns p.2 inRows

/-- A brighter picture has no cell with an earlier position. -/
theorem position_mono (seen : dim.isEmpty = false) (wide : dim.width = bright.width)
    (high : dim.height = bright.height) (inWidth : column < width) (inHeight : row < height)
    (le : ∀ x < dim.width.toNat, ∀ y < dim.height.toNat, dim.luma x y ≤ bright.luma x y) :
    renderer.position dim width height column row ≤
      renderer.position bright width height column row := by
  rw [position, position, ← Image.cellPixels_congr wide high]
  refine Nat.div_le_div_right (Nat.mul_le_mul_right _ (Image.average_mono fun p mem ↦ ?_))
  obtain ⟨inColumns, inRows⟩ := Image.lt_of_mem_cellPixels seen inWidth inHeight mem
  exact le p.1 inColumns p.2 inRows

end RampRenderer

/-- What is true of a renderer and a grid, whatever is drawn. -/
structure Brightens (renderer : RampRenderer) (width height : UInt32) : Prop where
  /-- A cell is drawn with the character at its position. -/
  drawn : ∀ image : Image, image.isEmpty = false → 0 < renderer.ramp.size →
    ∃ text, FrameRenderer.render renderer image width height = .ok text ∧
      ∀ row < height.toNat, ∀ column < width.toNat,
        text.toList[row * (width.toNat + 1) + column]? =
          renderer.ramp[renderer.position image width.toNat height.toNat column row]?
  /-- No cell of a brighter picture has a position before that of the darker one. -/
  monotone : ∀ dim bright : Image, dim.isEmpty = false → bright.isEmpty = false →
    dim.width = bright.width → dim.height = bright.height →
    (∀ x < dim.width.toNat, ∀ y < dim.height.toNat, dim.luma x y ≤ bright.luma x y) →
      ∀ row < height.toNat, ∀ column < width.toNat,
        renderer.position dim width.toNat height.toNat column row ≤
          renderer.position bright width.toNat height.toNat column row
  /-- What is black everywhere is drawn with the first character alone. -/
  black : ∀ image : Image, image.isEmpty = false → 0 < width → 0 < height →
    (∀ x < image.width.toNat, ∀ y < image.height.toNat, image.luma x y = 0) →
      ∀ first, renderer.ramp[0]? = some first →
        FrameRenderer.render renderer image width height =
          .ok (RampRenderer.plain first width.toNat height.toNat)
  /-- What is white everywhere is drawn with the last one alone. -/
  white : ∀ image : Image, image.isEmpty = false → 0 < width → 0 < height →
    (∀ x < image.width.toNat, ∀ y < image.height.toNat, image.luma x y = 255) →
      ∀ last, renderer.ramp.back? = some last →
        FrameRenderer.render renderer image width height =
          .ok (RampRenderer.plain last width.toNat height.toNat)

/-- Whatever the ramp is, and however fine or coarse the grid. -/
theorem brightens_render (renderer : RampRenderer) (width height : UInt32) :
    Brightens renderer width height where
  drawn image seen inked := by
    refine ⟨renderer.draw image width.toNat height.toNat, rfl, ?_⟩
    intro row inHeight column inWidth
    rw [RampRenderer.getElem?_draw seen inked (Nat.zero_lt_of_lt inWidth)
      (Nat.lt_succ_of_lt inWidth) inHeight, RampRenderer.getElem?_row inWidth,
      RampRenderer.getElem?_position seen inked inWidth inHeight]
  monotone dim bright seen _ wide high le row inHeight column inWidth :=
    RampRenderer.position_mono seen wide high inWidth inHeight le
  black image seen wide high even first found := by
    refine congrArg Except.ok (RampRenderer.draw_eq_plain seen (UInt32.lt_iff_toNat_lt.mp wide)
      (UInt32.lt_iff_toNat_lt.mp high) found fun row inHeight column inWidth ↦ ?_)
    rw [RampRenderer.position_of_even seen inWidth inHeight even, Nat.zero_mul, Nat.zero_div]
  white image seen wide high even last found := by
    rw [Array.back?_eq_getElem?] at found
    refine congrArg Except.ok (RampRenderer.draw_eq_plain seen (UInt32.lt_iff_toNat_lt.mp wide)
      (UInt32.lt_iff_toNat_lt.mp high) found fun row inHeight column inWidth ↦ ?_)
    rw [RampRenderer.position_of_even seen inWidth inHeight even,
      Nat.mul_div_cancel_left _ (by decide)]

end Glyphcast
