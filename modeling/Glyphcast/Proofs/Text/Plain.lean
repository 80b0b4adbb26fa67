import Glyphcast.Text.Blank
import Glyphcast.Text.Decimal
import Glyphcast.Text.Utf8
import Mathlib.Data.List.Basic

/-!
# Plain text

Whatever a recording says of itself is plain: printable ASCII and nothing else. A plain text has
one byte for each character, so it has no line break among its bytes, and however its bytes are
read, exactly or lossily, it comes back.
-/

namespace Glyphcast.Text

/-- All characters are printable ASCII, the space included. -/
def IsPlain (text : String) : Prop := ∀ c ∈ text.toList, 0x20 ≤ c.toNat ∧ c.toNat < 0x7f

instance (text : String) : Decidable (IsPlain text) :=
  List.decidableBAll (fun c : Char ↦ 0x20 ≤ c.toNat ∧ c.toNat < 0x7f) text.toList

variable {text first second : String}

theorem IsPlain.append (hFirst : IsPlain first) (hSecond : IsPlain second) :
    IsPlain (first ++ second) := by
  intro c mem
  rw [String.toList_append, List.mem_append] at mem
  rcases mem with mem | mem
  · exact hFirst c mem
  · exact hSecond c mem

/-! ## Numerals -/

theorem toNat_of_isDigit {c : Char} (h : c.isDigit = true) : 48 ≤ c.toNat ∧ c.toNat ≤ 57 := by
  simp only [Char.isDigit, Bool.and_eq_true, decide_eq_true_eq, ge_iff_le,
    UInt32.le_iff_toNat_le] at h
  exact h

private theorem isPlain_of_isDigit (h : ∀ c ∈ text.toList, c.isDigit = true) : IsPlain text := by
  intro c mem
  obtain ⟨low, high⟩ := toNat_of_isDigit (h c mem)
  omega

theorem isBlank_of_isDigit {c : Char} (h : c.isDigit = true) : isBlank c = false := by
  obtain ⟨low, high⟩ := toNat_of_isDigit h
  simp only [isBlank, Bool.or_eq_false_iff, Bool.and_eq_false_iff, decide_eq_false_iff_not,
    beq_eq_false_iff_ne]
  omega

theorem toList_toString (n : Nat) : (toString n).toList = Decimal.digits n := Nat.toList_repr

theorem isPlain_toString (n : Nat) : IsPlain (toString n) := by
  refine isPlain_of_isDigit fun c mem ↦ ?_
  rw [toList_toString] at mem
  exact Decimal.isDigit_of_mem_digits mem

theorem isDigit_of_mem_padded {width n : Nat} {c : Char}
    (mem : c ∈ (Decimal.padded width n).toList) : c.isDigit = true := by
  have zeros (count : Nat) (mem : c ∈ ("".pushn '0' count).toList) : c.isDigit = true := by
    rw [String.pushn_eq_repeat_push] at mem
    induction count with
    | zero => cases mem
    | succ count ih =>
      rw [Nat.repeat, String.toList_push, List.mem_append, List.mem_singleton] at mem
      rcases mem with mem | rfl
      · exact ih mem
      · decide
  rw [Decimal.padded, String.toList_append, List.mem_append] at mem
  rcases mem with mem | mem
  · exact zeros _ mem
  · rw [toList_toString] at mem
    exact Decimal.isDigit_of_mem_digits mem

theorem isPlain_padded (width n : Nat) : IsPlain (Decimal.padded width n) :=
  isPlain_of_isDigit fun _ ↦ isDigit_of_mem_padded

/-! ## Bytes -/

private theorem utf8EncodeChar_of_lt {c : Char} (h : c.toNat < 0x7f) :
    String.utf8EncodeChar c = [UInt8.ofNat c.toNat] := by
  have small : c.val ≤ 0x7f := UInt32.le_iff_toNat_le.2 (Nat.le_of_lt h)
  exact String.utf8EncodeChar_eq_singleton (if_pos small)

private theorem encode_of_isPlain (plain : IsPlain text) :
    encode text = text.toList.map fun c ↦ UInt8.ofNat c.toNat := by
  have single : ∀ c ∈ text.toList, String.utf8EncodeChar c = [UInt8.ofNat c.toNat] :=
    fun c mem ↦ utf8EncodeChar_of_lt (plain c mem).2
  rw [encode, String.toUTF8_eq_toByteArray, ← String.utf8Encode_toList, List.utf8Encode,
    List.data_toByteArray, List.toList_toArray, List.map_eq_flatMap]
  exact List.flatMap_congr single

theorem mem_encode_of_isPlain (plain : IsPlain text) {b : UInt8} (mem : b ∈ encode text) :
    0x20 ≤ b ∧ b < 0x7f := by
  rw [encode_of_isPlain plain, List.mem_map] at mem
  obtain ⟨c, inText, rfl⟩ := mem
  obtain ⟨low, high⟩ := plain c inText
  rw [UInt8.le_iff_toNat_le, UInt8.lt_iff_toNat_lt, UInt8.toNat_ofNat']
  rw [Nat.mod_eq_of_lt (by omega)]
  exact ⟨low, high⟩

theorem encode_take (plain : IsPlain text) (n : Nat) :
    (encode text).take n = encode (String.ofList (text.toList.take n)) := by
  have front : IsPlain (String.ofList (text.toList.take n)) := by
    intro c mem
    rw [String.toList_ofList] at mem
    exact plain c (List.mem_of_mem_take mem)
  rw [encode_of_isPlain plain, encode_of_isPlain front, String.toList_ofList, List.map_take]

/-- The byte of a plain character is read as that character. -/
theorem readLossy_of_lt {c : Char} (h : c.toNat < 0x7f) (rest : Bytes) :
    readLossy (UInt8.ofNat c.toNat) rest = (c, rest) := by
  have byte : (UInt8.ofNat c.toNat).toNat = c.toNat := by
    rw [UInt8.toNat_ofNat', Nat.mod_eq_of_lt (by omega)]
  have ascii : UInt8.ofNat c.toNat < 0x80 := by
    rw [UInt8.lt_iff_toNat_lt, byte]
    exact Nat.lt_succ_of_lt h
  rw [readLossy, Lead.of?, if_pos ascii]
  dsimp only [readOwed]
  rw [byte, Char.ofNat_toNat]

/-- A lossy reading loses nothing of a plain text. -/
theorem decodeLossy_encode (plain : IsPlain text) : decodeLossy (encode text) = text := by
  have reads (cs read : List Char) (h : ∀ c ∈ cs, c.toNat < 0x7f) :
      decodeLossyFrom read (cs.map fun c ↦ UInt8.ofNat c.toNat) = read.reverse ++ cs := by
    induction cs generalizing read with
    | nil => rw [List.map_nil, decodeLossyFrom, List.append_nil]
    | cons c cs ih =>
      rw [List.map_cons, decodeLossyFrom, readLossy_of_lt (h c List.mem_cons_self)]
      rw [ih _ fun d mem ↦ h d (List.mem_cons_of_mem c mem), List.reverse_cons, List.append_assoc,
        List.singleton_append]
  rw [decodeLossy, encode_of_isPlain plain, reads _ _ fun c mem ↦ (plain c mem).2,
    List.reverse_nil, List.nil_append, String.ofList_toList]

end Glyphcast.Text
