import Glyphcast.Text.Utf8

/-!
# Writing in large pieces

What is recorded goes through a buffer, so a file that is still open holds less than was written
to it. The buffer never splits a piece: a piece that does not fit sends the buffer to the file
first, and one as large as the buffer itself goes straight to the file. Nothing is reordered: what
went out and what is held, put together, are the pieces in their order.
-/

namespace Glyphcast.Recording

/-- What has been written but not sent to the file. -/
structure WriteBuffer where
  /-- The bytes that are held. -/
  held : Bytes := []
  deriving DecidableEq, Repr

namespace WriteBuffer

/-- How much the buffer holds. -/
def capacity : Nat := 8192

/-- How much more the buffer could hold. -/
def spare (buffer : WriteBuffer) : Nat := capacity - buffer.held.length

/-- Write a piece. The first component goes to the file. -/
def push (buffer : WriteBuffer) (piece : Bytes) : Bytes × WriteBuffer :=
  if piece.length < buffer.spare then ([], ⟨buffer.held ++ piece⟩)
  else
    let (out, held) := if buffer.spare < piece.length then (buffer.held, []) else ([], buffer.held)
    if capacity ≤ piece.length then (out ++ piece, ⟨held⟩) else (out, ⟨held ++ piece⟩)

/-- Nothing is lost or reordered: what goes out and what is held are what was held, and the
piece. -/
theorem push_append (buffer : WriteBuffer) (piece : Bytes) :
    (buffer.push piece).1 ++ (buffer.push piece).2.held = buffer.held ++ piece := by
  unfold push
  split
  · rfl
  next full =>
  by_cases spills : buffer.spare < piece.length
  · rw [if_pos spills]
    dsimp only
    split
    · exact List.append_nil _
    · rfl
  · rw [if_neg spills]
    dsimp only
    split
    · next large =>
      -- a piece as large as the buffer has come to it while it was empty
      have empty : buffer.held = [] := by
        rw [← List.length_eq_zero_iff]
        unfold spare at spills
        have : 0 < capacity := by decide
        omega
      rw [empty]
      exact List.append_nil _
    · rfl

/-- Write several pieces. -/
def pushAll (buffer : WriteBuffer) : List Bytes → Bytes × WriteBuffer
  | [] => ([], buffer)
  | piece :: pieces =>
    let (out, buffer) := buffer.push piece
    let (more, buffer) := buffer.pushAll pieces
    (out ++ more, buffer)

theorem pushAll_append (buffer : WriteBuffer) (pieces : List Bytes) :
    (buffer.pushAll pieces).1 ++ (buffer.pushAll pieces).2.held =
      buffer.held ++ pieces.flatten := by
  induction pieces generalizing buffer with
  | nil => exact (List.append_nil _).symm
  | cons piece pieces ih =>
    rw [pushAll, List.append_assoc, ih, ← List.append_assoc, push_append, List.append_assoc,
      List.flatten_cons]

end WriteBuffer

end Glyphcast.Recording
