/-!
# Images

What a device delivers and a renderer reads: a width, a height, a pixel format and bytes. The
bytes are not required to fit the size. A reader asks for the luma of a pixel, and a pixel whose
bytes are not there is black.
-/

namespace Glyphcast

/-- How the pixels are laid out. -/
inductive PixelFormat where
  /-- One byte for each pixel, its brightness. -/
  | gray
  /-- Three bytes for each pixel: red, green and blue. -/
  | rgb
  deriving DecidableEq, Repr

/-- How many bytes a pixel takes. -/
def PixelFormat.bytesPerPixel : PixelFormat → Nat
  | gray => 1
  | rgb => 3

/-- A picture, row by row from the top. -/
structure Image where
  /-- The layout of the pixels. -/
  format : PixelFormat
  /-- Columns. -/
  width : UInt32
  /-- Rows. -/
  height : UInt32
  /-- The bytes of the pixels. -/
  data : ByteArray

namespace Image

/-- A picture with nothing to see. -/
def isEmpty (image : Image) : Bool :=
  image.width == 0 || image.height == 0 || image.data.size == 0

/-- The byte at a position, if the data reaches that far. -/
def byte? (image : Image) (i : Nat) : Option Nat := image.data[i]?.map (·.toNat)

/-- Where the bytes of a pixel start. Only the row is held against the width: a column beyond it
continues into the rows below. -/
def offset (image : Image) (x y : Nat) : Nat :=
  (y * image.width.toNat + x) * image.format.bytesPerPixel

/-- The brightness of a colour: the weights of the three parts add up to one thousand. -/
def brightness (red green blue : Nat) : Nat := (299 * red + 587 * green + 114 * blue) / 1000

/-- The brightness of a pixel, from 0 to 255. A pixel without its bytes is black. -/
def luma (image : Image) (x y : Nat) : Nat :=
  let i := image.offset x y
  match image.format with
  | .gray => (image.byte? i).getD 0
  | .rgb =>
    match image.byte? i, image.byte? (i + 1), image.byte? (i + 2) with
    | some red, some green, some blue => brightness red green blue
    | _, _, _ => 0

/-- A grayscale picture whose pixels are given by their column and row. -/
def ofGray (width height : UInt32) (pixel : Nat → Nat → Nat) : Image where
  format := .gray
  width := width
  height := height
  data := height.toNat.fold (fun y _ bytes ↦
    width.toNat.fold (fun x _ bytes ↦ bytes.push (UInt8.ofNat (pixel x y))) bytes)
    (ByteArray.emptyWithCapacity (width.toNat * height.toNat))

/-- A picture of a single pixel. -/
def dot (value : UInt8) : Image where
  format := .gray
  width := 1
  height := 1
  data := ⟨#[value]⟩

end Image

end Glyphcast
