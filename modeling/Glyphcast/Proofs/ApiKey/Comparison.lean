import Glyphcast.ApiKey
import Mathlib.Data.Bool.Basic

/-!
# What a comparison with the key collects

A comparison goes through all the bytes and keeps one byte of what it has seen. In that byte the
differences of many places come together, so it has to be said that none of them undoes another.
`testBit_difference` tells each bit of it: it is set exactly if it differs at some place. So a bit
once collected stays, whatever comes after it, and nothing is collected just if no place differs.

Only places where both have a byte are looked at. A text that goes on where the key ends, or ends
where the key goes on, leaves nothing behind in the collected byte, and it is the test of the
lengths that keeps it out. With it, what matches has the bytes of the key, all of them and no more.
-/

namespace Glyphcast.ApiKey

/-- Both rows have a byte at a place, and the two bytes differ in a bit. -/
def DifferAt (expected presented : Bytes) (place bit : Nat) : Prop :=
  ∃ a b, expected[place]? = some a ∧ presented[place]? = some b ∧
    a.toNat.testBit bit ≠ b.toNat.testBit bit

variable {expected presented : Bytes} {place bit count : Nat}

private theorem testBit_foldl_difference (pairs : List (UInt8 × UInt8)) (seen : UInt8) (bit : Nat) :
    (pairs.foldl (fun seen (a, b) ↦ seen ||| (a ^^^ b)) seen).toNat.testBit bit = true ↔
      seen.toNat.testBit bit = true ∨
        ∃ pair ∈ pairs, pair.1.toNat.testBit bit ≠ pair.2.toNat.testBit bit := by
  induction pairs generalizing seen with
  | nil => simp
  | cons pair pairs ih =>
    -- one pair adds the bits that it differs in, and takes none away
    have step : (seen ||| (pair.1 ^^^ pair.2)).toNat.testBit bit = true ↔
        seen.toNat.testBit bit = true ∨
          pair.1.toNat.testBit bit ≠ pair.2.toNat.testBit bit := by
      rw [UInt8.toNat_or, UInt8.toNat_xor, Nat.testBit_or, Nat.testBit_xor, Bool.or_eq_true,
        Bool.xor_iff_ne]
    simp only [List.foldl_cons, ih, step, List.mem_cons, exists_eq_or_imp, or_assoc]

/-- A bit is collected just if it differs at some place. -/
theorem testBit_difference :
    (difference expected presented).toNat.testBit bit = true ↔
      ∃ place, DifferAt expected presented place bit := by
  rw [difference, testBit_foldl_difference]
  constructor
  · rintro (start | ⟨pair, mem, differs⟩)
    · rw [UInt8.toNat_zero, Nat.zero_testBit] at start
      cases start
    · obtain ⟨place, first, second⟩ := mem_zip_iff.mp mem
      exact ⟨place, pair.1, pair.2, first, second, differs⟩
  · rintro ⟨place, a, b, first, second, differs⟩
    exact .inr ⟨(a, b), mem_zip_iff.mpr ⟨place, first, second⟩, differs⟩

private theorem DifferAt.of_take
    (h : DifferAt (expected.take count) (presented.take count) place bit) :
    DifferAt expected presented place bit := by
  obtain ⟨a, b, first, second, differs⟩ := h
  have within {bytes : Bytes} {byte : UInt8} (found : (bytes.take count)[place]? = some byte) :
      bytes[place]? = some byte := by
    rw [List.getElem?_take] at found
    split at found
    · exact found
    · cases found
  exact ⟨a, b, within first, within second, differs⟩

/-- What is promised of the comparison of a text with a key. -/
structure Discerns (key : ApiKey) (presented : String) : Prop where
  /-- A text matches exactly if it has the bytes of the key. -/
  isMatch_iff : key.isMatch presented = true ↔ Text.encode presented = Text.encode key.text
  /-- A bit is collected exactly if it differs at one place or more. -/
  collected_iff : ∀ bit,
    (difference (Text.encode key.text) (Text.encode presented)).toNat.testBit bit = true ↔
      ∃ place, DifferAt (Text.encode key.text) (Text.encode presented) place bit
  /-- A bit that has been collected from the first bytes is there in the end. -/
  kept : ∀ count bit,
    (difference ((Text.encode key.text).take count)
      ((Text.encode presented).take count)).toNat.testBit bit = true →
    (difference (Text.encode key.text) (Text.encode presented)).toNat.testBit bit = true
  /-- Nothing is collected only where nothing differs, so differences never cancel out. -/
  clear_iff : difference (Text.encode key.text) (Text.encode presented) = 0 ↔
    ∀ (place : Nat) (a b : UInt8), (Text.encode key.text)[place]? = some a →
      (Text.encode presented)[place]? = some b → a = b

/-- A key is told from every other text, by all of its bytes. -/
theorem discerns_isMatch (key : ApiKey) (presented : String) : key.Discerns presented where
  isMatch_iff := by
    rw [ApiKey.isMatch_iff, Text.encode_inj]
  collected_iff _ := testBit_difference
  kept _ _ collected := by
    obtain ⟨place, differs⟩ := testBit_difference.mp collected
    exact testBit_difference.mpr ⟨place, differs.of_take⟩
  clear_iff := difference_eq_zero_iff

example : difference (Text.encode "ab") (Text.encode "ba") = 3 := by decide

example : difference (Text.encode "abc") (Text.encode "ab") = 0 ∧
    (ApiKey.mk "abc").isMatch "ab" = false := by decide

end Glyphcast.ApiKey
