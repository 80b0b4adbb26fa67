/-!
# Text as UTF-8 bytes

A recording is bytes, a frame is text, and this file holds the three maps between them. `encode`
writes a text as its UTF-8 bytes, `decode?` reads bytes back and refuses any that are no text, and
`decodeLossy` reads any bytes at all.

## What a lossy reading replaces

A byte sequence that goes wrong is not replaced byte by byte. The bytes that could still have
become a character, up to the first byte that rules it out, are replaced together by one U+FFFD,
and reading goes on with the byte that ruled it out. `Lead` says what a leading byte asks of the
bytes after it; only the first of them can be restricted further than to `80..BF`, which is what
keeps out overlong forms, surrogates and values above U+10FFFF.
-/

namespace Glyphcast

/-- Raw bytes, as they stand in a file. -/
abbrev Bytes := List UInt8

namespace Text

/-- The UTF-8 bytes of a text. -/
def encode (text : String) : Bytes := text.toUTF8.data.toList

/-- The text that the bytes are the UTF-8 form of, if they are one. -/
def decode? (bytes : Bytes) : Option String := String.fromUTF8? ⟨bytes.toArray⟩

@[simp] theorem length_encode (text : String) : (encode text).length = text.utf8ByteSize := rfl

/-- Writing and reading back gives the text. -/
@[simp] theorem decode?_encode (text : String) : decode? (encode text) = some text := by
  have bytes : (⟨(encode text).toArray⟩ : ByteArray) = text.toUTF8 := by simp [encode]
  rw [decode?, bytes, String.fromUTF8?, String.toUTF8_eq_toByteArray, dif_pos text.isValidUTF8]
  rfl

/-- Bytes are read as the text that they are the bytes of. -/
theorem decode?_eq_some_iff {bytes : Bytes} {text : String} :
    decode? bytes = some text ↔ encode text = bytes := by
  constructor
  · intro h
    rw [decode?, String.fromUTF8?] at h
    split at h
    · obtain rfl := Option.some.inj h
      rfl
    · nomatch h
  · rintro rfl
    exact decode?_encode text

@[simp] theorem encode_inj {a b : String} : encode a = encode b ↔ a = b := by
  constructor
  · intro h
    have := congrArg decode? h
    rwa [decode?_encode, decode?_encode, Option.some.injEq] at this
  · exact congrArg encode

theorem encode_append (first second : String) :
    encode (first ++ second) = encode first ++ encode second := by
  simp only [encode, String.toUTF8_eq_toByteArray, String.toByteArray_append,
    ByteArray.data_append, Array.toList_append]

theorem encode_join (texts : List String) :
    encode (String.join texts) = (texts.map encode).flatten := by
  induction texts with
  | nil => rfl
  | cons text texts ih => rw [String.join_cons, encode_append, ih, List.map_cons, List.flatten_cons]

/-! ## Lossy reading -/

/-- What a leading byte announces: its share of the code point, how many bytes follow, and the
range that the first of them must lie in. -/
structure Lead where
  /-- The bits that the leading byte contributes. -/
  bits : Nat
  /-- How many bytes follow. -/
  owed : Nat
  /-- The least byte that may come next. -/
  low : UInt8 := 0x80
  /-- The greatest byte that may come next. -/
  high : UInt8 := 0xbf

/-- What a byte announces when a character starts with it, or `none` if no character does. -/
def Lead.of? (b : UInt8) : Option Lead :=
  if b < 0x80 then some { bits := b.toNat, owed := 0 }
  else if b < 0xc2 then none
  else if b < 0xe0 then some { bits := b.toNat - 0xc0, owed := 1 }
  else if b = 0xe0 then some { bits := 0, owed := 2, low := 0xa0 }
  else if b = 0xed then some { bits := 0xd, owed := 2, high := 0x9f }
  else if b < 0xf0 then some { bits := b.toNat - 0xe0, owed := 2 }
  else if b = 0xf0 then some { bits := 0, owed := 3, low := 0x90 }
  else if b < 0xf4 then some { bits := b.toNat - 0xf0, owed := 3 }
  else if b = 0xf4 then some { bits := 4, owed := 3, high := 0x8f }
  else none

/-- Read the `owed` bytes that are still missing from a character. The second component is what
was not used: on failure it starts at the byte that ruled the character out. -/
def readOwed (value : Nat) : (owed : Nat) → (low high : UInt8) → Bytes → Option Nat × Bytes
  | 0, _, _, bytes => (some value, bytes)
  | _ + 1, _, _, [] => (none, [])
  | owed + 1, low, high, b :: bytes =>
    if low ≤ b ∧ b ≤ high then readOwed (value * 64 + (b.toNat - 0x80)) owed 0x80 0xbf bytes
    else (none, b :: bytes)

private theorem length_readOwed_le (value owed : Nat) (low high : UInt8) (bytes : Bytes) :
    (readOwed value owed low high bytes).2.length ≤ bytes.length := by
  induction owed generalizing value low high bytes with
  | zero => simp [readOwed]
  | succ owed ih =>
    cases bytes with
    | nil => simp [readOwed]
    | cons b bytes =>
      simp only [readOwed]
      split
      · exact Nat.le_succ_of_le (ih _ _ _ _)
      · simp

/-- The character that the bytes start with, or U+FFFD in place of the bytes that start one and
go wrong, and the bytes after it. -/
def readLossy (b : UInt8) (bytes : Bytes) : Char × Bytes :=
  match Lead.of? b with
  | none => ('\ufffd', bytes)
  | some lead =>
    match readOwed lead.bits lead.owed lead.low lead.high bytes with
    -- the ranges of `Lead` have ruled out everything that is no scalar value
    | (some value, rest) => (Char.ofNat value, rest)
    | (none, rest) => ('\ufffd', rest)

private theorem length_readLossy_le (b : UInt8) (bytes : Bytes) :
    (readLossy b bytes).2.length ≤ bytes.length := by
  unfold readLossy
  split
  · simp
  · rename_i lead _
    have := length_readOwed_le lead.bits lead.owed lead.low lead.high bytes
    split <;> simp_all

/-- The characters of `decodeLossy`, in front of those already read, which are in reverse. -/
def decodeLossyFrom (read : List Char) : Bytes → List Char
  | [] => read.reverse
  | b :: bytes => decodeLossyFrom ((readLossy b bytes).1 :: read) (readLossy b bytes).2
termination_by bytes => bytes.length
decreasing_by
  have := length_readLossy_le b bytes
  simp only [List.length_cons]
  omega

/-- The text of any bytes. What is no UTF-8 is replaced by U+FFFD, one for each longest run of
bytes that could still have become a character. -/
def decodeLossy (bytes : Bytes) : String := String.ofList (decodeLossyFrom [] bytes)

end Text

end Glyphcast
