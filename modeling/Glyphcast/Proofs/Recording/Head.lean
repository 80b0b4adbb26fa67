import Glyphcast.Recording.Header
import Mathlib.Data.List.TakeWhile

/-!
# What makes a recording

Whether bytes can be played is decided by two of their lines: the first must be the tag, and one
of the others must be the marker. Whatever else stands between the two, the head is read, and the
frames begin after the first marker.
-/

namespace Glyphcast.Recording

/-- The first line. Where there is none it counts as empty. -/
def firstLine (data : Bytes) : Bytes := ((lines data).head?.map (·.1)).getD []

/-- The bytes begin with the tag. -/
def Tagged (data : Bytes) : Prop := firstLine data = Text.encode tag

/-- Some later line is the marker. -/
def Marked (data : Bytes) : Prop := ∃ line ∈ (lines data).tail, line.1 = Text.encode framesMarker

namespace Header

variable {data : Bytes}

theorem isMarker_iff {line : Bytes} : isMarker line = true ↔ line = Text.encode framesMarker :=
  beq_iff_eq

theorem read_of_not_tagged (h : ¬Tagged data) :
    read data = .error (.badTag (Text.decodeLossy (firstLine data))) := by
  unfold Tagged firstLine at h
  unfold read firstLine
  cases all : lines data with
  | nil =>
    have empty : Text.decodeLossy [] = "" := by
      rw [Text.decodeLossy, Text.decodeLossyFrom]
      rfl
    exact congrArg (Except.error <| FormatError.badTag ·) empty.symm
  | cons first following =>
    rw [all] at h
    exact if_pos h

theorem read_of_tagged (h : Tagged data) :
    read data = match (lines data).tail.dropWhile (!isMarker ·.1) with
      | [] => .error .missingFramesMarker
      | (_, rest) :: _ =>
        .ok (((lines data).tail.takeWhile (!isMarker ·.1)).foldl
          (fun header line ↦ header.amendLine line.1) {}, rest) := by
  unfold Tagged firstLine at h
  unfold read
  cases all : lines data with
  | nil =>
    rw [all] at h
    exact absurd h (by decide)
  | cons first following =>
    rw [all] at h
    exact if_neg (not_not_intro h)

theorem read_of_not_marked (tagged : Tagged data) (h : ¬Marked data) :
    read data = .error .missingFramesMarker := by
  have none : (lines data).tail.dropWhile (!isMarker ·.1) = [] := by
    rw [List.dropWhile_eq_nil_iff]
    intro line mem
    rw [Bool.not_eq_true', Bool.eq_false_iff]
    exact fun marker ↦ h ⟨line, mem, isMarker_iff.mp marker⟩
  rw [read_of_tagged tagged, none]

private theorem read_of_marked (tagged : Tagged data) (h : Marked data) :
    ∃ before body after, (lines data).tail =
        before ++ (Text.encode framesMarker, body) :: after ∧
      (∀ line ∈ before, line.1 ≠ Text.encode framesMarker) ∧
      read data = .ok (before.foldl (fun header line ↦ header.amendLine line.1) {}, body) := by
  obtain ⟨marker, mem, same⟩ := h
  cases rest : (lines data).tail.dropWhile (!isMarker ·.1) with
  | nil =>
    have passed : (!isMarker marker.1) = true := List.dropWhile_eq_nil_iff.mp rest marker mem
    rw [isMarker_iff.mpr same] at passed
    nomatch passed
  | cons line after =>
    obtain ⟨first, body⟩ := line
    have found : isMarker first = true := by
      have stops := List.head?_dropWhile_not (!isMarker ·.1) (lines data).tail
      rw [rest] at stops
      simpa using stops
    refine ⟨(lines data).tail.takeWhile (!isMarker ·.1), body, after, ?_, ?_, ?_⟩
    · rw [← isMarker_iff.mp found, ← rest]
      exact List.takeWhile_append_dropWhile.symm
    · intro line mem same
      have passed := List.all_eq_true.mp List.all_takeWhile line mem
      rw [isMarker_iff.mpr same] at passed
      nomatch passed
    · rw [read_of_tagged tagged, rest]

/-- A head is read exactly if it has both. -/
theorem exists_read_iff : (∃ found, read data = .ok found) ↔ Tagged data ∧ Marked data := by
  constructor
  · rintro ⟨found, readOk⟩
    by_contra lacks
    rw [not_and] at lacks
    by_cases tagged : Tagged data
    · nomatch readOk.symm.trans (read_of_not_marked tagged (lacks tagged))
    · nomatch readOk.symm.trans (read_of_not_tagged tagged)
  · rintro ⟨tagged, marked⟩
    obtain ⟨before, body, after, -, -, readOk⟩ := read_of_marked tagged marked
    exact ⟨_, readOk⟩

end Header

end Glyphcast.Recording
