import Glyphcast.Proofs.Recording.Record
import Glyphcast.Proofs.Recording.Written

/-!
# The header line of a frame

A header is written in one way and read in many: each of its two numbers may be read with a `+` and
with zeros in front, which are never written. So writing undoes reading only up to the numbers, and
`LineCodec` says it as it is: what was written is read back, and a line that was read is a line for
the same header as the one that would be written in its place.

Which lines are read is told by `Spelled`, without the reader. Nothing else is left to a line: no
second colon, no blank, no number without a digit, and none that does not fit in 64 bits. A line
that is refused is quoted as it stands.
-/

namespace Glyphcast.Recording.FrameHeader

variable {header : FrameHeader} {line : String} {fault : FormatError}

/-- A line is read just if it spells a header. -/
theorem parse_eq_ok_iff : parse line = .ok header ↔ Spelled line header := by
  rw [parse, ← ofText?_eq_some_iff]
  cases ofText? line with
  | none => exact ⟨by rintro ⟨⟩, by rintro ⟨⟩⟩
  | some found => rw [Except.ok.injEq, Option.some.injEq]

theorem parse_eq_error_iff : parse line = .error fault ↔
    (∀ header, ¬Spelled line header) ∧ fault = .badFrameHeader line := by
  simp only [parse, ← ofText?_eq_some_iff]
  cases ofText? line with
  | none =>
    exact ⟨fun h ↦ ⟨by rintro _ ⟨⟩, (Except.error.inj h).symm⟩, fun h ↦ congrArg _ h.2.symm⟩
  | some found => exact ⟨by rintro ⟨⟩, fun h ↦ absurd rfl (h.1 found)⟩

theorem Spelled.lt (h : Spelled line header) :
    header.elapsed < UInt64.size ∧ header.length < UInt64.size := by
  obtain ⟨elapsed, length, -, ⟨-, time⟩, -, size⟩ := h
  exact ⟨time, size⟩

/-- A header spells itself. -/
theorem spelled_text (elapsed : header.elapsed < UInt64.size)
    (length : header.length < UInt64.size) : Spelled header.text header :=
  ofText?_eq_some_iff.mp (ofText?_text elapsed length)

/-- What is promised of header lines. -/
structure LineCodec : Prop where
  /-- A header whose numbers fit in 64 bits is read back from its line. -/
  parse_text : ∀ header : FrameHeader, header.elapsed < UInt64.size →
    header.length < UInt64.size → parse header.text = .ok header
  /-- A line is read just if it is the word, a numeral, a colon and a numeral, both of numbers that
  fit in 64 bits; and then these are the numbers of the header. -/
  parse_iff : ∀ line header, parse line = .ok header ↔ ∃ elapsed length : List Char,
    line.toList = "frame:".toList ++ elapsed ++ ':' :: length ∧
      (Decimal.Spells elapsed header.elapsed ∧ header.elapsed < UInt64.size) ∧
      Decimal.Spells length header.length ∧ header.length < UInt64.size
  /-- Any other line is refused, and is told in the refusal. -/
  refused : ∀ line, (∀ header, parse line ≠ .ok header) →
    parse line = .error (.badFrameHeader line)
  /-- A header that was read is written as a line that is read as the same header. -/
  parse_again : ∀ line header, parse line = .ok header → parse header.text = .ok header

theorem lineCodec_parse : LineCodec where
  parse_text header elapsed length := parse_eq_ok_iff.mpr (spelled_text elapsed length)
  parse_iff line header := by
    rw [parse_eq_ok_iff, Spelled]
    refine exists_congr fun elapsed ↦ exists_congr fun length ↦ and_congr_left fun _ ↦ ?_
    rw [← String.toList_inj]
    simp only [String.toList_append, String.toList_ofList, List.append_assoc]
    rfl
  refused line unread :=
    parse_eq_error_iff.mpr ⟨fun header spelled ↦ unread header (parse_eq_ok_iff.mpr spelled), rfl⟩
  parse_again line header read := by
    obtain ⟨elapsed, length⟩ := (parse_eq_ok_iff.mp read).lt
    exact parse_eq_ok_iff.mpr (spelled_text elapsed length)

example : parse "frame:+0018446744073709551615:007" = .ok ⟨18446744073709551615, 7⟩ := by
  decide +kernel

example : parse "frame:18446744073709551616:7" =
    .error (.badFrameHeader "frame:18446744073709551616:7") := by
  decide +kernel

end Glyphcast.Recording.FrameHeader
