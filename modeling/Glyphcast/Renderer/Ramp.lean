import Glyphcast.Renderer

/-!
# Rendering by brightness

The picture is laid under the grid. Each cell covers a rectangle of pixels, its brightness is the
rounded-down mean of theirs, and that picks a character from the ramp, which runs from dark to
bright.

## The rectangles

Cell `i` of `cells` covers the pixels from `cellEdge i` up to, but not including, `cellEdge (i+1)`,
the cell's share of the side rounded down at both ends. Neighbouring cells therefore meet without
a gap. On a grid finer than the picture a share can be less than a pixel and its two ends the same;
such a cell takes the one pixel at its start, so no cell is ever empty.
-/

namespace Glyphcast

/-- The ramp that a renderer starts with. -/
def defaultRamp : String := "@%#*+=-:. "

/-- The pixel that cell `i` of `cells` starts at, on a side of `pixels` pixels. -/
def cellEdge (i cells pixels : Nat) : Nat := i * pixels / cells

/-- The pixels of a side that a cell covers: the first, and the one after the last. -/
def cellSpan (i cells pixels : Nat) : Nat × Nat :=
  let first := cellEdge i cells pixels
  (first, min (max (cellEdge (i + 1) cells pixels) (first + 1)) pixels)

/-- The brightness of a rectangle of pixels: the mean, rounded down. -/
def Image.meanLuma (image : Image) (columns rows : Nat × Nat) : Nat :=
  let xs := List.range' columns.1 (columns.2 - columns.1)
  let ys := List.range' rows.1 (rows.2 - rows.1)
  let sum := ys.foldl (fun sum y ↦ xs.foldl (fun sum x ↦ sum + image.luma x y) sum) 0
  sum / (xs.length * ys.length)

/-- The brightness of a cell. -/
def Image.cellLuma (image : Image) (width height column row : Nat) : Nat :=
  image.meanLuma (cellSpan column width image.width.toNat)
    (cellSpan row height image.height.toNat)

/-- The position on a ramp of `n` characters that a brightness from 0 to 255 picks. -/
def rampIndex (n luma : Nat) : Nat := luma * (n - 1) / 255

/-- A renderer that draws with a ramp of characters. -/
structure RampRenderer where
  /-- The characters, darkest first. -/
  ramp : Array Char := defaultRamp.toList.toArray
  deriving DecidableEq, Repr

namespace RampRenderer

/-- The character of a cell. -/
def cell (renderer : RampRenderer) (image : Image) (width height column row : Nat) : Char :=
  renderer.ramp.getD (rampIndex renderer.ramp.size (image.cellLuma width height column row)) ' '

/-- A row of characters and the line break that ends it. -/
def row (renderer : RampRenderer) (image : Image) (width height row : Nat) : List Char :=
  (List.range width).map (renderer.cell image width height · row) ++ ['\n']

/-- The whole picture, or no text at all if there is nothing to draw or nothing to draw with. -/
def draw (renderer : RampRenderer) (image : Image) (width height : Nat) : String :=
  if image.isEmpty ∨ width = 0 ∨ height = 0 ∨ renderer.ramp.isEmpty then ""
  else String.ofList ((List.range height).flatMap (renderer.row image width height))

instance : FrameRenderer RampRenderer where
  render renderer image width height := .ok (renderer.draw image width.toNat height.toNat)
  setRamp renderer ramp := if ramp = "" then renderer else ⟨ramp.toList.toArray⟩

end RampRenderer

end Glyphcast
