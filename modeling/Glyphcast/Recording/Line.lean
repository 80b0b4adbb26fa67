import Glyphcast.Text.Cut
import Glyphcast.Text.Utf8

/-!
# The lines of a recording

A recording is read line by line, except for the frames' own text, which may contain line breaks
and is counted instead. A line ends with a line feed. A carriage return in front of that line feed
belongs to the line's end; the last line may do without an end, and then keeps its carriage return.

A reader never holds a position but what is still to be read, so "the rest is shorter" is all
that termination needs. `lineAt?` is the same reading for callers that count bytes.
-/

namespace Glyphcast.Recording

/-- A line feed. -/
def lineFeed : UInt8 := 0x0a

/-- A line without the carriage return at its end. -/
def dropReturn (line : Bytes) : Bytes :=
  if line.getLast? = some 0x0d then line.dropLast else line

/-- The first line, without its end, and the bytes after it. -/
def splitLine? (bytes : Bytes) : Option (Bytes × Bytes) :=
  match Text.cut? (· == lineFeed) bytes with
  | some (line, rest) => some (dropReturn line, rest)
  | none => if bytes.isEmpty then none else some (bytes, [])

theorem length_of_splitLine? {bytes line rest : Bytes}
    (h : splitLine? bytes = some (line, rest)) : rest.length < bytes.length := by
  unfold splitLine? at h
  split at h
  · next before after cut =>
    simp only [Option.some.injEq, Prod.mk.injEq] at h
    obtain ⟨_, rfl⟩ := h
    have := Text.length_of_cut? cut
    omega
  · cases bytes with
    | nil => simp at h
    | cons b bytes =>
      simp only [List.isEmpty_cons, Bool.false_eq_true, if_false, Option.some.injEq,
        Prod.mk.injEq] at h
      simp [← h.2]

/-- All lines, each with the bytes after it. -/
def lines (bytes : Bytes) : List (Bytes × Bytes) :=
  match _h : splitLine? bytes with
  | none => []
  | some (line, rest) => (line, rest) :: lines rest
termination_by bytes.length
decreasing_by exact length_of_splitLine? ‹_›

theorem lines_of_splitLine? {bytes line rest : Bytes}
    (h : splitLine? bytes = some (line, rest)) : lines bytes = (line, rest) :: lines rest := by
  rw [lines]
  split
  · next none => cases none.symm.trans h
  · next found =>
    cases found.symm.trans h
    rfl

/-- The line that starts at a position, and the position after its end. -/
def lineAt? (data : Bytes) (position : Nat) : Option (Bytes × Nat) :=
  (splitLine? (data.drop position)).map fun (line, rest) ↦ (line, data.length - rest.length)

end Glyphcast.Recording
