import Glyphcast.Image
import Mathlib.Algebra.Group.Nat.Defs
import Mathlib.Tactic.SplitIfs

/-!
# Reading pixels

A reader asks for a pixel by its column and row, and gets the brightness of the pixel that has their
number: the pixels are numbered row by row, and nothing else about the two is looked at. `Shows`
says what a pixel of a given number shows, without saying how it is read.

Inside the picture every pixel has a number of its own. A column beyond the width has the number of
a pixel in a row below, so what is read there is that pixel and not black: `luma_beyond`. Only where
the bytes end is everything black.

## Words

The numbers here are natural ones. A machine reads with words of 64 and 32 bits, looks after the
sums and products that lead to the pixel, and takes a pixel whose place does not fit for one that is
not there. `wordLuma?` is this reading, and it comes to nothing where a sum that is not looked after
does not fit. There is one such place, the last that a pixel of three bytes can have:
`wordLuma?_eq`.
-/

namespace Glyphcast

namespace Word

/-- A number in a word of so many bits, if it fits. -/
def fit? (bits n : Nat) : Option Nat := if n < 2 ^ bits then some n else none

variable {bits n : Nat}

theorem fit?_of_lt (fits : n < 2 ^ bits) : fit? bits n = some n := if_pos fits

private theorem fit?_of_le (tooLarge : 2 ^ bits ≤ n) : fit? bits n = none :=
  if_neg (Nat.not_lt.mpr tooLarge)

end Word

namespace Image

variable {image : Image} {x y x' y' n v w i : Nat}

/-! ## Numbers of pixels -/

/-- The number of a pixel: pixels are counted row by row. -/
def number (image : Image) (x y : Nat) : Nat := y * image.width.toNat + x

private theorem offset_eq (image : Image) (x y : Nat) :
    image.offset x y = image.number x y * image.format.bytesPerPixel := rfl

/-- The numbers go on from one row to the next. -/
theorem number_beyond (image : Image) (x y : Nat) :
    image.number x y =
      image.number (x % image.width.toNat) (y + x / image.width.toNat) := by
  have parts := Nat.div_add_mod x image.width.toNat
  rw [Nat.mul_comm] at parts
  rw [number, number, Nat.add_mul, Nat.add_assoc, parts]

private theorem eq_of_number (column : x < image.width.toNat) (column' : x' < image.width.toNat)
    (same : image.number x y = image.number x' y') : x = x' ∧ y = y' := by
  have wide : 0 < image.width.toNat := Nat.zero_lt_of_lt column
  have place (x y : Nat) : image.number x y = x + image.width.toNat * y := by
    rw [number, Nat.mul_comm, Nat.add_comm]
  have rows := congrArg (· / image.width.toNat) same
  have columns := congrArg (· % image.width.toNat) same
  simp only [place, Nat.add_mul_div_left _ _ wide, Nat.add_mul_mod_self_left,
    Nat.div_eq_of_lt, Nat.mod_eq_of_lt, column, column', Nat.zero_add] at rows columns
  exact ⟨columns, rows⟩

/-- The numbers below the picture are those that it has no pixels for. -/
theorem area_le_number (below : image.height.toNat ≤ y + x / image.width.toNat) :
    image.width.toNat * image.height.toNat ≤ image.number x y := by
  rw [number_beyond, number, Nat.mul_comm]
  exact Nat.le_add_right_of_le (Nat.mul_le_mul_right _ below)

/-! ## What a pixel shows -/

private theorem byte?_eq_none_iff : image.byte? i = none ↔ image.data.size ≤ i := by
  rw [byte?, Option.map_eq_none_iff, getElem?_eq_none_iff, Nat.not_lt]

private theorem exists_byte? (within : i < image.data.size) : ∃ byte, image.byte? i = some byte :=
  Option.ne_none_iff_exists'.mp fun missing ↦ Nat.not_le.mpr within (byte?_eq_none_iff.mp missing)

private theorem lt_of_byte? {byte : Nat} (found : image.byte? i = some byte) : byte < 256 := by
  rw [byte?, Option.map_eq_some_iff] at found
  obtain ⟨value, -, rfl⟩ := found
  exact value.toNat_lt

/-- What the pixel with a number shows. -/
inductive Shows (image : Image) (n : Nat) : Nat → Prop where
  /-- Its byte is its brightness. -/
  | gray {byte : Nat} (format : image.format = .gray) (found : image.byte? n = some byte) :
    Shows image n byte
  /-- Its three bytes are a colour, and that has a brightness. -/
  | rgb {red green blue : Nat} (format : image.format = .rgb)
    (first : image.byte? (3 * n) = some red) (second : image.byte? (3 * n + 1) = some green)
    (third : image.byte? (3 * n + 2) = some blue) :
    Shows image n ((299 * red + 587 * green + 114 * blue) / 1000)
  /-- Some of its bytes are not there. -/
  | absent (short : image.data.size < (n + 1) * image.format.bytesPerPixel) : Shows image n 0

private theorem shows_luma (image : Image) (x y : Nat) :
    image.Shows (image.number x y) (image.luma x y) := by
  rw [luma, offset_eq]
  cases format : image.format with
  | gray =>
    rw [PixelFormat.bytesPerPixel, Nat.mul_one]
    cases found : image.byte? (image.number x y) with
    | some byte => exact .gray format found
    | none =>
      refine .absent ?_
      rw [format, PixelFormat.bytesPerPixel, Nat.mul_one]
      exact Nat.lt_succ_of_le (byte?_eq_none_iff.mp found)
  | rgb =>
    rw [PixelFormat.bytesPerPixel, Nat.mul_comm]
    have absent {i : Nat} (within : i ≤ 3 * image.number x y + 2) (missing : image.byte? i = none) :
        image.Shows (image.number x y) 0 := by
      have short := byte?_eq_none_iff.mp missing
      refine .absent ?_
      rw [format, PixelFormat.bytesPerPixel]
      omega
    cases first : image.byte? (3 * image.number x y) with
    | none => exact absent (by omega) first
    | some red =>
      cases second : image.byte? (3 * image.number x y + 1) with
      | none => exact absent (by omega) second
      | some green =>
        cases third : image.byte? (3 * image.number x y + 2) with
        | none => exact absent (by omega) third
        | some blue => exact .rgb format first second third

private theorem luma_of_shows (h : image.Shows (image.number x y) v) : image.luma x y = v := by
  rw [luma, offset_eq]
  cases h with
  | gray format found =>
    rw [format, PixelFormat.bytesPerPixel, Nat.mul_one, found]
    rfl
  | rgb format first second third =>
    rw [format, PixelFormat.bytesPerPixel, Nat.mul_comm, first, second, third]
    rfl
  | absent short =>
    cases format : image.format with
    | gray =>
      rw [format, PixelFormat.bytesPerPixel, Nat.mul_one] at short
      rw [PixelFormat.bytesPerPixel, Nat.mul_one,
        byte?_eq_none_iff.mpr (Nat.le_of_lt_succ short)]
      rfl
    | rgb =>
      rw [format, PixelFormat.bytesPerPixel] at short
      rw [PixelFormat.bytesPerPixel, byte?_eq_none_iff (i := _ + 2) |>.mpr (by omega)]
      dsimp only
      split
      · next third => cases third
      · rfl

private theorem luma_eq_iff_shows : image.luma x y = v ↔ image.Shows (image.number x y) v :=
  ⟨fun h ↦ h ▸ image.shows_luma x y, luma_of_shows⟩

/-- Nothing about a column and a row matters but the number that they have. -/
theorem luma_congr (same : image.number x y = image.number x' y') :
    image.luma x y = image.luma x' y' :=
  luma_eq_iff_shows.mpr (same ▸ image.shows_luma x' y')

private theorem luma_beyond (image : Image) (x y : Nat) :
    image.luma x y = image.luma (x % image.width.toNat) (y + x / image.width.toNat) :=
  luma_congr (image.number_beyond x y)

theorem Shows.le (h : image.Shows n v) : v ≤ 255 := by
  cases h with
  | gray format found => exact Nat.le_of_lt_succ (lt_of_byte? found)
  | rgb format first second third =>
    -- the weights of the three parts add up to one thousand
    have red := lt_of_byte? first
    have green := lt_of_byte? second
    have blue := lt_of_byte? third
    omega
  | absent short => exact Nat.zero_le _

theorem luma_le (image : Image) (x y : Nat) : image.luma x y ≤ 255 := (image.shows_luma x y).le

private theorem luma_of_short
    (short : image.data.size < (image.number x y + 1) * image.format.bytesPerPixel) :
    image.luma x y = 0 :=
  luma_eq_iff_shows.mpr (.absent short)

/-! ## Reading with words -/

/-- Where the bytes of a pixel start, if this and what leads to it fit into words of 64 bits. -/
def offset? (image : Image) (x y : Nat) : Option Nat := do
  let row ← Word.fit? 64 (y * image.width.toNat)
  let number ← Word.fit? 64 (row + x)
  Word.fit? 64 (number * image.format.bytesPerPixel)

/-- The brightness of a colour, with sums and products of 32 bits. -/
def wordBrightness? (red green blue : Nat) : Option Nat := do
  let red ← Word.fit? 32 (299 * red)
  let green ← Word.fit? 32 (587 * green)
  let both ← Word.fit? 32 (red + green)
  let blue ← Word.fit? 32 (114 * blue)
  let sum ← Word.fit? 32 (both + blue)
  return sum / 1000

/-- The brightness of a pixel, read with words. A pixel whose place does not fit is black, and the
reading fails where something else does not fit. -/
def wordLuma? (image : Image) (x y : Nat) : Option Nat :=
  match image.offset? x y with
  | none => some 0
  | some i =>
    match image.format with
    | .gray => some ((image.byte? i).getD 0)
    | .rgb => do
      let stop ← Word.fit? 64 (i + 3)
      if stop ≤ image.data.size then
        wordBrightness? ((image.byte? i).getD 0) ((image.byte? (i + 1)).getD 0)
          ((image.byte? (i + 2)).getD 0)
      else return 0

private theorem offset?_of_lt (fits : image.offset x y < 2 ^ 64) :
    image.offset? x y = some (image.offset x y) := by
  have byte : 1 ≤ image.format.bytesPerPixel := by cases image.format <;> decide
  have number : y * image.width.toNat + x < 2 ^ 64 :=
    Nat.lt_of_le_of_lt (Nat.le_mul_of_pos_right _ byte) fits
  have row : y * image.width.toNat < 2 ^ 64 := Nat.lt_of_le_of_lt (Nat.le_add_right ..) number
  simp only [offset?, Option.bind_eq_bind]
  rw [Word.fit?_of_lt row, Option.bind_some, Word.fit?_of_lt number, Option.bind_some]
  exact Word.fit?_of_lt fits

private theorem offset?_of_le (tooLarge : 2 ^ 64 ≤ image.offset x y) :
    image.offset? x y = none := by
  simp only [offset?, Word.fit?, Option.bind_eq_bind]
  split_ifs
  · simp only [Option.bind_some]
    split_ifs
    · exact if_neg (Nat.not_lt.mpr tooLarge)
    · rfl
  · rfl

/-- The parts of a colour are small, so their weighted sum fits. -/
theorem wordBrightness?_eq {red green blue : Nat} (red_lt : red < 256) (green_lt : green < 256)
    (blue_lt : blue < 256) :
    wordBrightness? red green blue = some (brightness red green blue) := by
  simp only [wordBrightness?, Option.bind_eq_bind, Option.pure_def]
  rw [Word.fit?_of_lt (by omega), Option.bind_some, Word.fit?_of_lt (by omega), Option.bind_some,
    Word.fit?_of_lt (by omega), Option.bind_some, Word.fit?_of_lt (by omega), Option.bind_some,
    Word.fit?_of_lt (by omega), Option.bind_some, brightness]

/-- Reading with words comes to the brightness of the pixel, but for the last place that a pixel of
three bytes can have: there the sum does not fit that is to tell where its bytes end. -/
theorem wordLuma?_eq (memory : image.data.size ≤ 2 ^ 64) (x y : Nat) :
    image.wordLuma? x y =
      if image.format = .rgb ∧ image.offset x y + 1 = 2 ^ 64 then none
      else some (image.luma x y) := by
  have bytes : (image.number x y + 1) * image.format.bytesPerPixel =
      image.offset x y + image.format.bytesPerPixel := by
    rw [offset_eq, Nat.add_mul, Nat.one_mul]
  by_cases fits : image.offset x y < 2 ^ 64
  · cases format : image.format with
    | gray =>
      rw [wordLuma?, offset?_of_lt fits, luma, format]
      simp only [reduceCtorEq, false_and, if_false]
    | rgb =>
      rw [format, PixelFormat.bytesPerPixel] at bytes
      rw [wordLuma?, offset?_of_lt fits, format]
      dsimp only
      by_cases last : image.offset x y + 1 = 2 ^ 64
      · rw [if_pos ⟨rfl, last⟩, Word.fit?_of_le (by omega)]
        rfl
      -- these places are multiples of three, and so is the last number of 64 bits
      rw [if_neg fun h ↦ last h.2, Word.fit?_of_lt (by omega), Option.bind_eq_bind,
        Option.bind_some]
      split_ifs with within
      · obtain ⟨red, first⟩ := image.exists_byte? (i := image.offset x y) (by omega)
        obtain ⟨green, second⟩ := image.exists_byte? (i := image.offset x y + 1) (by omega)
        obtain ⟨blue, third⟩ := image.exists_byte? (i := image.offset x y + 2) (by omega)
        have shown : image.luma x y = brightness red green blue := by
          rw [luma, format, first, second, third]
        rw [shown, first, second, third]
        exact wordBrightness?_eq (lt_of_byte? first) (lt_of_byte? second) (lt_of_byte? third)
      · rw [luma_of_short (by rw [format, PixelFormat.bytesPerPixel]; omega)]
        rfl
  · have byte : 1 ≤ image.format.bytesPerPixel := by cases image.format <;> decide
    rw [if_neg fun last ↦ fits (by omega), wordLuma?, offset?_of_le (Nat.not_lt.mp fits),
      luma_of_short (by omega)]

/-! ## What is promised -/

/-- What can be said of reading a pixel. -/
structure ReadsPixel (image : Image) (x y : UInt32) : Prop where
  /-- What is read is what the pixel with that number shows: its byte, the brightness of its colour,
  or nothing where its bytes are not there. -/
  eq_iff : ∀ v, image.luma x.toNat y.toNat = v ↔
    image.Shows (y.toNat * image.width.toNat + x.toNat) v
  /-- That is a number of 8 bits. -/
  le : image.luma x.toNat y.toNat ≤ 255
  /-- Inside the picture no other pixel has that number. -/
  apart : x < image.width → ∀ x' y' : UInt32, x' < image.width →
    y'.toNat * image.width.toNat + x'.toNat = y.toNat * image.width.toNat + x.toNat →
      x' = x ∧ y' = y
  /-- A column outside of it has the number of a pixel in a row below. -/
  beyond : image.luma x.toNat y.toNat =
    image.luma (x.toNat % image.width.toNat) (y.toNat + x.toNat / image.width.toNat)
  /-- If that row is no row of the picture either, and there are not more bytes than belong to it,
  what is read is black. -/
  below : image.height.toNat ≤ y.toNat + x.toNat / image.width.toNat →
    image.data.size ≤ image.width.toNat * image.height.toNat * image.format.bytesPerPixel →
      image.luma x.toNat y.toNat = 0
  /-- With words the same is read, but for one place in pictures of three bytes a pixel. -/
  words : image.data.size ≤ 2 ^ 64 → image.wordLuma? x.toNat y.toNat =
    if image.format = .rgb ∧ 3 * (y.toNat * image.width.toNat + x.toNat) + 1 = 2 ^ 64 then none
    else some (image.luma x.toNat y.toNat)

/-- Whatever the picture is, and whatever its bytes are. -/
theorem readsPixel_luma (image : Image) (x y : UInt32) : image.ReadsPixel x y where
  eq_iff _ := luma_eq_iff_shows
  le := image.luma_le x.toNat y.toNat
  apart inside x' y' inside' same := by
    obtain ⟨columns, rows⟩ := eq_of_number inside' inside same
    exact ⟨UInt32.toNat_inj.mp columns, UInt32.toNat_inj.mp rows⟩
  beyond := image.luma_beyond x.toNat y.toNat
  below below fitting := by
    refine luma_of_short (Nat.lt_of_le_of_lt fitting ?_)
    have byte : 0 < image.format.bytesPerPixel := by cases image.format <;> decide
    exact Nat.mul_lt_mul_of_pos_right (Nat.lt_succ_of_le (area_le_number below)) byte
  words memory := by
    rw [wordLuma?_eq memory]
    cases format : image.format with
    | gray => simp only [reduceCtorEq, false_and, if_false]
    | rgb => rw [offset_eq, format, PixelFormat.bytesPerPixel, Nat.mul_comm, number]

/-- A picture of two by two pixels, each a little brighter than the one before. -/
def fourShades : Image := ⟨.gray, 2, 2, ⟨#[10, 20, 30, 40]⟩⟩

/-- The column behind the first row is not black: it is the beginning of the second row. In a
picture as large as there can be, and with colours, there is a pixel whose place fits into a word,
and where its bytes end does not. -/
theorem luma_behind_row :
    fourShades.width = 2 ∧ fourShades.luma 2 0 = 30 ∧
      wordLuma? ⟨.rgb, 0xffffffff, 0xffffffff, ⟨#[1, 2, 3]⟩⟩ 0xaaaaaaaa 0x55555555 = none :=
  ⟨rfl, by decide, by decide⟩

end Image

end Glyphcast
