/-!
# The outbox

What a session still has to write. Replies and frames wait in two lanes: replies are never dropped
and always go first, frames are bounded, and a frame that finds its lane full pushes the oldest
one out, so a slow viewer sees the most recent picture.

At most one writer empties an outbox. `begin` claims the part of the writer and says whether the
claim was won; `next` gives the writer its next item, and gives the part up when there is none.
-/

namespace Glyphcast

/-- Something to write. -/
inductive Item where
  /-- An answer to the client. -/
  | reply (text : String)
  /-- A picture. -/
  | frame (text : String)
  deriving DecidableEq, Repr

namespace Item

/-- What is written. -/
def text : Item → String
  | reply text => text
  | frame text => text

/-- Whether the item is a frame. -/
def isFrame : Item → Bool
  | reply _ => false
  | frame _ => true

end Item

/-- The items that a session has to write. -/
structure Outbox where
  /-- The replies, oldest first. -/
  replies : List String := []
  /-- The frames, oldest first. -/
  frames : List String := []
  /-- The most frames that may wait. -/
  capacity : Nat := 10
  /-- Whether there is a writer. -/
  writing : Bool := false
  deriving DecidableEq, Repr

namespace Outbox

/-- An outbox for this many frames, and for one at the least. -/
def ofCapacity (capacity : Nat) : Outbox := { capacity := max capacity 1 }

/-- How many items wait. -/
def size (outbox : Outbox) : Nat := outbox.replies.length + outbox.frames.length

/-- Whether nothing waits. -/
def isEmpty (outbox : Outbox) : Bool := outbox.replies.isEmpty && outbox.frames.isEmpty

/-- Add a frame. The first component is the frame that it pushed out. -/
def pushFrame (outbox : Outbox) (text : String) : Option String × Outbox :=
  if outbox.capacity ≤ outbox.frames.length then
    (outbox.frames.head?, { outbox with frames := outbox.frames.tail ++ [text] })
  else (none, { outbox with frames := outbox.frames ++ [text] })

/-- Add a reply. -/
def pushReply (outbox : Outbox) (text : String) : Outbox :=
  { outbox with replies := outbox.replies ++ [text] }

/-- Take the item that goes first. -/
def pop (outbox : Outbox) : Option Item × Outbox :=
  match outbox.replies, outbox.frames with
  | text :: replies, _ => (some (.reply text), { outbox with replies })
  | [], text :: frames => (some (.frame text), { outbox with frames })
  | [], [] => (none, outbox)

/-- Discard everything. -/
def clear (outbox : Outbox) : Outbox := { outbox with replies := [], frames := [] }

/-- Claim the part of the writer. The claim is won if there is something to write and no writer. -/
def begin (outbox : Outbox) : Bool × Outbox :=
  if outbox.writing ∨ outbox.isEmpty then (false, outbox)
  else (true, { outbox with writing := true })

/-- The writer's next item. Without one there is no writer any more. -/
def next (outbox : Outbox) : Option Item × Outbox :=
  match outbox.pop with
  | (some item, rest) => (some item, rest)
  | (none, rest) => (none, { rest with writing := false })

/-- Give up writing, and with it everything that waits. -/
def abort (outbox : Outbox) : Outbox := { outbox.clear with writing := false }

theorem size_of_next_some {outbox rest : Outbox} {item : Item}
    (h : outbox.next = (some item, rest)) : rest.size + 1 = outbox.size := by
  unfold next pop at h
  cases hr : outbox.replies with
  | cons text replies => simp [hr] at h; simp [size, hr, ← h.2]; omega
  | nil => cases hf : outbox.frames <;> simp [hr, hf] at h; simp [size, hr, hf, ← h.2]

theorem size_of_next_none {outbox rest : Outbox} (h : outbox.next = (none, rest)) :
    rest.size = outbox.size := by
  unfold next pop at h
  cases hr : outbox.replies with
  | cons text replies => simp [hr] at h
  | nil => cases hf : outbox.frames <;> simp [hr, hf] at h; simp [size, hr, hf, ← h]

end Outbox

end Glyphcast
