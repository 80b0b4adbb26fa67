import Glyphcast.Proofs.Recording.Head
import Glyphcast.Proofs.Recording.Record
import Glyphcast.Recording.Info

/-!
# Walking through a recording

Whoever reads a recording holds a position, finds something there, and goes on to the position that
comes with it, up to one where nothing is found. The lines of the head and of the foot are read in
this way, and so are the frames. A `Walk` is such a reading, with all that it found.

A walk ends because every position that comes with a find is further on and not past the end of the
bytes: `Advances`. The same says how long it can be. It makes no step without a byte, so it finds no
more things than there are bytes to walk through, and walks that follow one another share the bytes
between them.
-/

namespace Glyphcast.Recording

open Text

/-! ## Walks -/

section Walk

variable {α : Type} {find : Nat → Option (α × Nat)} {size position next last : Nat} {item : α}
  {items : List α}

/-- To find something at each position and to go on to the next, up to one where nothing is. -/
inductive Walk (find : Nat → Option (α × Nat)) : Nat → List α → Nat → Prop where
  /-- Nothing is found here. -/
  | ends {position : Nat} (nothing : find position = none) : Walk find position [] position
  /-- Something is found, and the walk goes on behind it. -/
  | goesOn {position next last : Nat} {item : α} {items : List α}
      (found : find position = some (item, next)) (later : Walk find next items last) :
      Walk find position (item :: items) last

/-- What is found leads on, and not past the end. -/
def Advances (find : Nat → Option (α × Nat)) (size : Nat) : Prop :=
  ∀ position item next, find position = some (item, next) → position < next ∧ next ≤ size

/-- Every walk comes to an end. -/
theorem Advances.exists_walk (h : Advances find size) (position : Nat) :
    ∃ items last, Walk find position items last := by
  -- what shrinks is the number of bytes that are left
  induction left : size - position using Nat.strong_induction_on generalizing position with
  | _ left ih =>
    rcases found : find position with _ | ⟨item, next⟩
    · exact ⟨[], position, .ends found⟩
    obtain ⟨further, within⟩ := h position item next found
    obtain ⟨items, last, later⟩ := ih (size - next) (by omega) next rfl
    exact ⟨item :: items, last, .goesOn found later⟩

namespace Walk

theorem nothing (walk : Walk find position items last) : find last = none := by
  induction walk with
  | ends nothing => exact nothing
  | goesOn _ _ ih => exact ih

private theorem length_add_le (walk : Walk find position items last) (h : Advances find size) :
    items.length + position ≤ last := by
  induction walk with
  | ends _ =>
    rw [List.length_nil]
    omega
  | goesOn found _ ih =>
    have further := (h _ _ _ found).1
    rw [List.length_cons]
    omega

private theorem last_le (walk : Walk find position items last) (h : Advances find size)
    (inside : position ≤ size) : last ≤ size := by
  induction walk with
  | ends _ => exact inside
  | goesOn found _ ih => exact ih (h _ _ _ found).2

theorem length_le (walk : Walk find position items last) (h : Advances find size) :
    items.length ≤ size - position := by
  induction walk with
  | ends _ => exact Nat.zero_le _
  | goesOn found _ ih =>
    have bounds := h _ _ _ found
    rw [List.length_cons]
    omega

end Walk

end Walk

variable {data line : Bytes} {position next last : Nat} {header : Header}

/-! ## Lines -/

theorem advances_lineAt? (data : Bytes) : Advances (lineAt? data) data.length :=
  fun _ _ _ ↦ bounds_of_lineAt?

private theorem lines_drop_of_no_line (h : lineAt? data position = none) :
    lines (data.drop position) = [] := by
  rw [List.drop_eq_nil_iff.mpr (lineAt?_eq_none_iff.mp h), lines]
  rfl

private theorem Walk.lines_eq {found : List Bytes}
    (walk : Walk (lineAt? data) position found last) :
    (lines (data.drop position)).map (·.1) = found := by
  induction walk with
  | ends nothing =>
    rw [lines_drop_of_no_line nothing]
    rfl
  | goesOn found _ ih => rw [lines_drop_of_lineAt? found, List.map_cons, ih]

theorem Walk.amendAll_eq {found : List Bytes} (walk : Walk (lineAt? data) position found last)
    (header : Header) : header.amendAll (data.drop position) = found.foldl .amendLine header := by
  rw [Header.amendAll, ← walk.lines_eq, List.foldl_map]

/-! ## The head -/

/-- The line of metadata at a position, if there is a line and it is not the marker. -/
def metadataAt? (data : Bytes) (position : Nat) : Option (Bytes × Nat) :=
  (lineAt? data position).filter (!Header.isMarker ·.1)

private theorem metadataAt?_eq_some_iff : metadataAt? data position = some (line, next) ↔
    lineAt? data position = some (line, next) ∧ Header.isMarker line = false := by
  rw [metadataAt?, Option.filter_eq_some_iff, Bool.not_eq_true']

/-- Where there is a line that is no metadata it is the marker. -/
theorem isMarker_of_no_metadata (nothing : metadataAt? data position = none)
    (found : lineAt? data position = some (line, next)) : Header.isMarker line = true := by
  rw [metadataAt?, found, Option.filter_eq_none_iff] at nothing
  have marker : ¬(!Header.isMarker line) = true := nothing (line, next) rfl
  rwa [Bool.not_eq_true, Bool.not_eq_false'] at marker

private theorem advances_metadataAt? (data : Bytes) : Advances (metadataAt? data) data.length :=
  fun _ _ _ found ↦ bounds_of_lineAt? (metadataAt?_eq_some_iff.mp found).1

namespace Walk

variable {metadata : List Bytes}

private theorem takeWhile_lines (walk : Walk (metadataAt? data) position metadata last) :
    ((lines (data.drop position)).takeWhile (!Header.isMarker ·.1)).map (·.1) = metadata := by
  induction walk with
  | @ends position nothing =>
    rcases found : lineAt? data position with _ | ⟨line, next⟩
    · rw [lines_drop_of_no_line found]
      rfl
    · rw [lines_drop_of_lineAt? found, List.takeWhile_cons,
        isMarker_of_no_metadata nothing found]
      rfl
  | goesOn found _ ih =>
    obtain ⟨found, other⟩ := metadataAt?_eq_some_iff.mp found
    rw [lines_drop_of_lineAt? found, List.takeWhile_cons, other, ← ih]
    rfl

private theorem dropWhile_lines (walk : Walk (metadataAt? data) position metadata last) :
    (lines (data.drop position)).dropWhile (!Header.isMarker ·.1) = lines (data.drop last) := by
  induction walk with
  | @ends position nothing =>
    rcases found : lineAt? data position with _ | ⟨line, next⟩
    · rw [lines_drop_of_no_line found]
      rfl
    · rw [lines_drop_of_lineAt? found, List.dropWhile_cons,
        isMarker_of_no_metadata nothing found]
      rfl
  | goesOn found _ ih =>
    obtain ⟨found, other⟩ := metadataAt?_eq_some_iff.mp found
    rw [lines_drop_of_lineAt? found, List.dropWhile_cons, other, ← ih]
    rfl

end Walk

/-- How a head is read: the number of lines that are taken, and what comes of it. The first line
has to be the tag, and the last one is the marker. -/
inductive HeadRead (data : Bytes) : (steps : Nat) → Except FormatError (Header × Nat) → Prop where
  /-- There is no line. -/
  | empty (nothing : lineAt? data 0 = none) : HeadRead data 0 (.error (.badTag ""))
  /-- The first line is another one. -/
  | untagged {line : Bytes} {next : Nat} (first : lineAt? data 0 = some (line, next))
      (other : line ≠ encode tag) : HeadRead data 1 (.error (.badTag (decodeLossy line)))
  /-- The lines come to their end without a marker. -/
  | unmarked {next last : Nat} {metadata : List Bytes}
      (first : lineAt? data 0 = some (encode tag, next))
      (walk : Walk (metadataAt? data) next metadata last) (nothing : lineAt? data last = none) :
      HeadRead data (1 + metadata.length) (.error .missingFramesMarker)
  /-- The metadata end with the marker, and what follows it is left. -/
  | whole {next last body : Nat} {metadata : List Bytes}
      (first : lineAt? data 0 = some (encode tag, next))
      (walk : Walk (metadataAt? data) next metadata last)
      (marker : lineAt? data last = some (encode framesMarker, body)) :
      HeadRead data (1 + metadata.length + 1) (.ok (metadata.foldl .amendLine {}, body))

namespace HeadRead

variable {steps : Nat} {result : Except FormatError (Header × Nat)}

theorem steps_le (h : HeadRead data steps result) : steps ≤ data.length := by
  rcases h with _ | ⟨first, _⟩ | ⟨first, walk, _⟩ | ⟨first, walk, marker⟩
  · exact Nat.zero_le _
  · have := bounds_of_lineAt? first
    omega
  · have bounds := bounds_of_lineAt? first
    have := walk.length_le (advances_metadataAt? data)
    omega
  · have bounds := bounds_of_lineAt? first
    have := walk.length_add_le (advances_metadataAt? data)
    have := bounds_of_lineAt? marker
    omega

theorem steps_le_body {body : Nat} (h : HeadRead data steps (.ok (header, body))) :
    steps ≤ body ∧ body ≤ data.length := by
  rcases h with _ | _ | _ | ⟨first, walk, marker⟩
  have bounds := bounds_of_lineAt? first
  have := walk.length_add_le (advances_metadataAt? data)
  have := bounds_of_lineAt? marker
  omega

theorem read_eq (h : HeadRead data steps result) :
    Header.read data = result.map fun found ↦ (found.1, data.drop found.2) := by
  have all {line : Bytes} {next : Nat} (first : lineAt? data 0 = some (line, next)) :
      lines data = (line, data.drop next) :: lines (data.drop next) := by
    have := lines_drop_of_lineAt? first
    rwa [List.drop_zero] at this
  rcases h with nothing | ⟨first, other⟩ | ⟨first, walk, nothing⟩ | ⟨first, walk, marker⟩
  · have none : lines data = [] := by
      have := lines_drop_of_no_line nothing
      rwa [List.drop_zero] at this
    rw [Header.read, none]
    rfl
  · rw [Header.read, all first]
    exact if_pos other
  · rw [Header.read, all first]
    dsimp only
    rw [if_neg (not_not_intro rfl), walk.dropWhile_lines, lines_drop_of_no_line nothing]
    rfl
  · rw [Header.read, all first]
    dsimp only
    rw [if_neg (not_not_intro rfl), walk.dropWhile_lines, lines_drop_of_lineAt? marker]
    dsimp only
    rw [← walk.takeWhile_lines, List.foldl_map]
    rfl

end HeadRead

theorem exists_headRead (data : Bytes) : ∃ steps result, HeadRead data steps result := by
  rcases first : lineAt? data 0 with _ | ⟨line, next⟩
  · exact ⟨_, _, .empty first⟩
  by_cases tagged : line = encode tag
  swap
  · exact ⟨_, _, .untagged first tagged⟩
  subst tagged
  obtain ⟨metadata, last, walk⟩ := (advances_metadataAt? data).exists_walk next
  rcases stop : lineAt? data last with _ | ⟨line, body⟩
  · exact ⟨_, _, .unmarked first walk stop⟩
  obtain rfl : line = encode framesMarker :=
    Header.isMarker_iff.mp (isMarker_of_no_metadata walk.nothing stop)
  exact ⟨_, _, .whole first walk stop⟩

/-! ## Frames -/

/-- The frame at a position, with the position after it. -/
def located? (data : Bytes) (position : Nat) : Option (Located × Nat) :=
  match frameAt data position with
  | .ok (some found) => some (found, found.next)
  | _ => none

theorem located?_eq_some_iff {found : Located} : located? data position = some (found, next) ↔
    frameAt data position = .ok (some found) ∧ found.next = next := by
  rw [located?]
  constructor
  · intro h
    split at h
    · next result =>
      obtain ⟨rfl, rfl⟩ := Prod.mk.inj (Option.some.inj h)
      exact ⟨result, rfl⟩
    · nomatch h
  · rintro ⟨result, rfl⟩
    rw [result]

theorem located?_eq_none_iff :
    located? data position = none ↔ ∀ found, frameAt data position ≠ .ok (some found) := by
  rw [located?]
  constructor
  · intro h found result
    rw [result] at h
    nomatch h
  · intro nothing
    split
    · next found result => exact absurd result (nothing found)
    · rfl

theorem advances_located? (data : Bytes) : Advances (located? data) data.length := by
  intro position found next h
  obtain ⟨result, rfl⟩ := located?_eq_some_iff.mp h
  have bounds := bounds_of_frameAt result
  omega

/-- A frame that has been found, with its bytes. -/
def Located.frame (data : Bytes) (found : Located) : Frame := ⟨found.elapsed, found.payload data⟩

/-- The fault at a position. -/
def faultAt? (data : Bytes) (position : Nat) : Option FormatError :=
  match frameAt data position with
  | .error fault => some fault
  | .ok _ => none

theorem read?_of_fault {fault : FormatError} (h : frameAt data position = .error fault) :
    Frame.read? (data.drop position) = .error fault := by
  rcases result : Frame.read? (data.drop position) with other | found
  · rw [frameAt, result] at h
    exact congrArg Except.error (Except.error.inj h)
  · -- without a fault of the bytes nothing that is answered is a fault
    have sound : ∃ located, frameAt data position = .ok located := by
      rw [frameAt, result]
      rcases found with _ | found
      · exact ⟨none, rfl⟩
      · rcases lineAt? data position with _ | split
        · exact ⟨none, rfl⟩
        · exact ⟨_, rfl⟩
    obtain ⟨located, ok⟩ := sound
    injection h.symm.trans ok

namespace Walk

variable {found : List Located}

/-- A walk finds the frames that a scan gives, and ends where it does. -/
theorem scan_eq (walk : Walk (located? data) position found last) :
    scan (data.drop position) =
      ⟨found.map (·.frame data), data.drop last, faultAt? data last⟩ := by
  induction walk with
  | @ends position nothing =>
    rw [located?_eq_none_iff] at nothing
    rcases result : frameAt data position with fault | _ | found
    · rw [scan_of_fault (read?_of_fault result), faultAt?, result]
      rfl
    · have ends := Frame.read?_eq_none_iff.mpr (frameAt_eq_none_iff.mp result)
      rw [scan_of_end ends, faultAt?, result]
      rfl
    · exact absurd result (nothing found)
  | goesOn found _ ih =>
    obtain ⟨result, rfl⟩ := located?_eq_some_iff.mp found
    rw [scan_of_frame (read?_of_frameAt result), ih]
    rfl

theorem bounds (walk : Walk (located? data) position found last) : ∀ one ∈ found,
    position < one.start ∧ one.start ≤ one.stop ∧ one.stop ≤ data.length := by
  induction walk with
  | ends _ => exact nofun
  | goesOn found _ ih =>
    obtain ⟨result, rfl⟩ := located?_eq_some_iff.mp found
    have here := bounds_of_frameAt result
    intro one mem
    rcases List.mem_cons.mp mem with rfl | mem
    · omega
    · have := ih one mem
      omega

/-- The text of a frame ends before that of a later one begins. -/
theorem pairwise (walk : Walk (located? data) position found last) :
    found.Pairwise fun earlier later ↦ earlier.stop < later.start := by
  induction walk with
  | ends _ => exact .nil
  | goesOn found later ih =>
    obtain ⟨result, rfl⟩ := located?_eq_some_iff.mp found
    have here := bounds_of_frameAt result
    refine .cons ?_ ih
    intro one mem
    have := later.bounds one mem
    omega

theorem length_scan (walk : Walk (located? data) position found last) :
    (scan (data.drop position)).frames.length = found.length := by
  rw [walk.scan_eq, List.length_map]

theorem lastElapsed_scan (walk : Walk (located? data) position found last) :
    lastElapsed (scan (data.drop position)).frames = (found.getLast?.map (·.elapsed)).getD 0 := by
  rw [walk.scan_eq, lastElapsed, List.getLast?_map, Option.map_map]
  rfl

theorem lengths_scan (walk : Walk (located? data) position found last) :
    (scan (data.drop position)).frames.map (·.payload.length) =
      found.map fun one ↦ one.stop - one.start := by
  rw [walk.scan_eq, List.map_map]
  refine List.map_congr_left fun one mem ↦ ?_
  have := walk.bounds one mem
  change (one.payload data).length = _
  rw [Located.payload, List.length_take, List.length_drop]
  omega

end Walk

/-! ## The whole -/

/-- How a recording is summed up: the number of lines and frames that are taken, and what comes of
it. There are at most three walks, and each goes on where the one before it ended. -/
inductive InfoRead (data : Bytes) (filename : String) :
    (steps : Nat) → Except FormatError Info → Prop where
  /-- The head cannot be read. -/
  | headless {steps : Nat} {fault : FormatError} (head : HeadRead data steps (.error fault)) :
      InfoRead data filename steps (.error fault)
  /-- A frame cannot be read. -/
  | broken {steps body last : Nat} {header : Header} {found : List Located} {fault : FormatError}
      (head : HeadRead data steps (.ok (header, body)))
      (frames : Walk (located? data) body found last) (stop : frameAt data last = .error fault) :
      InfoRead data filename (steps + found.length) (.error fault)
  /-- Head, frames and foot are read. -/
  | whole {steps body foot last : Nat} {header : Header} {found : List Located} {lines : List Bytes}
      (head : HeadRead data steps (.ok (header, body)))
      (frames : Walk (located? data) body found foot) (stop : frameAt data foot = .ok none)
      (footLines : Walk (lineAt? data) foot lines last) :
      InfoRead data filename (steps + found.length + lines.length) (.ok {
        filename
        timestamp := (lines.foldl .amendLine header).timestamp
        durationSecs := (lines.foldl .amendLine header).endTime.getD
          ((found.getLast?.map (·.elapsed)).getD 0 / 1000)
        frameCount := (lines.foldl .amendLine header).frameCount.getD found.length
        fileSize := data.length })

namespace InfoRead

variable {filename : String} {steps : Nat} {result : Except FormatError Info}

/-- All lines and frames together take no more steps than there are bytes. -/
theorem steps_le (h : InfoRead data filename steps result) : steps ≤ data.length := by
  rcases h with head | ⟨head, frames, _⟩ | ⟨head, frames, _, footLines⟩
  · exact head.steps_le
  · have := head.steps_le_body
    have := frames.length_le (advances_located? data)
    omega
  · have within := head.steps_le_body
    have := frames.length_add_le (advances_located? data)
    have := frames.last_le (advances_located? data) within.2
    have := footLines.length_le (advances_lineAt? data)
    omega

theorem ofBytes_eq (h : InfoRead data filename steps result) :
    Info.ofBytes filename data = result := by
  rcases h with head | ⟨head, frames, stop⟩ | ⟨head, frames, stop, footLines⟩
  · rw [Info.ofBytes, head.read_eq]
    rfl
  · rw [Info.ofBytes, head.read_eq]
    simp only [bind, Except.bind, Except.map, frames.scan_eq, faultAt?, stop]
    rfl
  · have count := frames.length_scan
    have time := frames.lastElapsed_scan
    rw [frames.scan_eq] at count time
    rw [Info.ofBytes, head.read_eq]
    simp only [bind, Except.bind, Except.map, frames.scan_eq, faultAt?, stop,
      footLines.amendAll_eq, count, time]
    rfl

end InfoRead

theorem exists_infoRead (data : Bytes) (filename : String) :
    ∃ steps result, InfoRead data filename steps result := by
  obtain ⟨steps, result, head⟩ := exists_headRead data
  rcases result with fault | ⟨header, body⟩
  · exact ⟨_, _, .headless head⟩
  obtain ⟨found, foot, frames⟩ := (advances_located? data).exists_walk body
  rcases stop : frameAt data foot with fault | _ | one
  · exact ⟨_, _, .broken head frames stop⟩
  · obtain ⟨lines, last, footLines⟩ := (advances_lineAt? data).exists_walk foot
    exact ⟨_, _, .whole head frames stop footLines⟩
  · exact absurd stop (located?_eq_none_iff.mp frames.nothing one)

end Glyphcast.Recording
