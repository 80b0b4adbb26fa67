import Glyphcast.Cli.Inspect
import Glyphcast.Proofs.Playback.Delivery
import Glyphcast.Proofs.Recording.Walk

/-!
# Reading within bounds

Whatever the bytes of a recording are, every way of reading them comes to an end after no more
steps than there are bytes: the summary in a list, the walk of the inspector, a playback. None of
them looks at a byte that is not there, and none takes two texts that overlap. The lengths that
header lines announce have no part in this; a length that is too large is a fault and not a step.

Positions are numbers of 64 bits. As every sum of positions that is computed is again a position in
the bytes, none of them is too large.
-/

namespace Glyphcast.Playback

open Recording Text

variable {data : Bytes} {position next last : Nat}

/-! ## Sums of positions -/

/-- Two numbers of 64 bits are added, and nothing is carried out. -/
def Adds (a b sum : Nat) : Prop :=
  a + b = sum ∧ (UInt64.ofNat a + UInt64.ofNat b).toNat = sum

private theorem adds_of_lt {a b sum : Nat} (h : a + b = sum) (small : sum < UInt64.size) :
    Adds a b sum := by
  have exactly {n : Nat} (le : n ≤ sum) : (UInt64.ofNat n).toNat = n := by
    rw [UInt64.toNat_ofNat']
    exact Nat.mod_eq_of_lt (Nat.lt_of_le_of_lt le small)
  refine ⟨h, ?_⟩
  rw [UInt64.toNat_add, exactly (by omega), exactly (by omega), h]
  exact Nat.mod_eq_of_lt small

private theorem adds_of_lineAt? {line : Bytes} (small : data.length < UInt64.size)
    (h : lineAt? data position = some (line, next)) :
    next = data.length ∨ ∃ length, data[position + length]? = some lineFeed ∧
      Adds position length (position + length) ∧ Adds (position + length) 1 next := by
  obtain ⟨ending, parts, ends, sum, within⟩ := exists_endsLine_at h
  have feedAt (front rest : Bytes) (split : data.drop position = front ++ lineFeed :: rest) :
      data[position + front.length]? = some lineFeed := by
    rw [← List.getElem?_drop, split, List.getElem?_append_right (Nat.le_refl _), Nat.sub_self]
    rfl
  generalize after : data.drop next = rest at ends parts
  rcases ends with _ | _ | _
  · rw [List.length_singleton] at sum
    exact .inr ⟨line.length, feedAt line rest parts,
      adds_of_lt rfl (by omega), adds_of_lt sum.symm (by omega)⟩
  · have longer : (line ++ [(0x0d : UInt8)]).length = line.length + 1 := List.length_append
    have found := feedAt (line ++ [0x0d]) rest (by rw [parts, List.append_assoc]; rfl)
    rw [longer] at found
    change next = position + line.length + 2 at sum
    exact .inr ⟨line.length + 1, found, adds_of_lt rfl (by omega), adds_of_lt (by omega) (by omega)⟩
  · rw [List.drop_eq_nil_iff] at after
    exact .inl (by omega)

private theorem adds_of_frameAt {found : Located} (small : data.length < UInt64.size)
    (h : frameAt data position = .ok (some found)) :
    ∃ line header, lineAt? data position = some (line, found.start) ∧
      FrameHeader.Announced line header ∧ Adds found.start header.length found.stop ∧
      (found.next = found.stop ∨ Adds found.stop 1 found.next) := by
  have bounds := bounds_of_frameAt h
  obtain ⟨line, header, split, announced, -, stop, within, next⟩ := frameAt_eq_some_iff.mp h
  refine ⟨line, header, split, announced, adds_of_lt stop.symm (by omega), ?_⟩
  rw [afterLineFeed] at next
  split at next
  · exact .inr (adds_of_lt next.symm (by omega))
  · exact .inl next

/-! ## Playing -/

/-- The text to be played at a position, with the position after its frame. -/
def textAt? (data : Bytes) (position : Nat) : Option (String × Nat) :=
  (located? data position).bind fun (found, next) ↦
    (decode? (found.payload data)).map fun text ↦ (text, next)

private theorem textAt?_eq_some_iff {text : String} : textAt? data position = some (text, next) ↔
    ∃ found, located? data position = some (found, next) ∧
      decode? (found.payload data) = some text := by
  rw [textAt?, Option.bind_eq_some_iff]
  constructor
  · rintro ⟨⟨found, after⟩, here, mapped⟩
    obtain ⟨_, decoded, same⟩ := Option.map_eq_some_iff.mp mapped
    obtain ⟨rfl, rfl⟩ := Prod.mk.inj same
    exact ⟨found, here, decoded⟩
  · rintro ⟨found, here, decoded⟩
    exact ⟨(found, next), here, Option.map_eq_some_iff.mpr ⟨text, decoded, rfl⟩⟩

private theorem advances_textAt? (data : Bytes) :
    Recording.Advances (textAt? data) data.length := by
  intro position text next h
  obtain ⟨found, here, -⟩ := textAt?_eq_some_iff.mp h
  exact advances_located? data position found next here

/-- A reader that stands at a position finds the text there. -/
theorem next?_eq_some_iff_textAt? {τ : Type} {reader : Reader τ}
    (stands : reader.unread = data.drop position) {text : String} {rest : Bytes} :
    (∃ elapsed, reader.next? = some ⟨elapsed, text, rest⟩) ↔
      ∃ next, textAt? data position = some (text, next) ∧ data.drop next = rest := by
  constructor
  · rintro ⟨elapsed, found⟩
    obtain ⟨payload, decoded, read⟩ := Reader.next?_eq_some_iff.mp found
    rw [stands] at read
    rcases result : frameAt data position with fault | _ | here
    · nomatch read.symm.trans (read?_of_fault result)
    · nomatch read.symm.trans (Frame.read?_eq_none_iff.mpr (frameAt_eq_none_iff.mp result))
    · obtain ⟨same, rfl⟩ := Prod.mk.inj
        (Option.some.inj (Except.ok.inj (read.symm.trans (read?_of_frameAt result))))
      rw [(Frame.mk.inj same).2] at decoded
      exact ⟨here.next, textAt?_eq_some_iff.mpr
        ⟨here, located?_eq_some_iff.mpr ⟨result, rfl⟩, decoded⟩, rfl⟩
  · rintro ⟨next, found, rfl⟩
    obtain ⟨here, located, decoded⟩ := textAt?_eq_some_iff.mp found
    obtain ⟨result, rfl⟩ := located?_eq_some_iff.mp located
    exact ⟨here.elapsed, Reader.next?_eq_some_iff.mpr
      ⟨_, decoded, by rw [stands]; exact read?_of_frameAt result⟩⟩

/-- A walk finds the texts that there are to play. -/
theorem texts_of_walk {found : List String} (walk : Walk (textAt? data) position found last) :
    texts (data.drop position) = found := by
  induction walk with
  | @ends position nothing =>
    let reader : Reader Unit := { unread := data.drop position }
    have stands : reader.unread = data.drop position := rfl
    have none : reader.next? = none := by
      by_contra some
      obtain ⟨⟨elapsed, text, rest⟩, found⟩ := Option.ne_none_iff_exists'.mp some
      obtain ⟨next, here, -⟩ := (next?_eq_some_iff_textAt? stands).mp ⟨elapsed, found⟩
      nomatch nothing.symm.trans here
    exact texts_of_no_next none
  | @goesOn position next last text found here _ ih =>
    let reader : Reader Unit := { unread := data.drop position }
    have stands : reader.unread = data.drop position := rfl
    obtain ⟨elapsed, chosen⟩ := (next?_eq_some_iff_textAt? stands).mpr ⟨next, here, rfl⟩
    rw [← ih]
    exact texts_of_next chosen

/-- There are no more texts to play than bytes. -/
theorem length_texts_drop_le (data : Bytes) (position : Nat) :
    (texts (data.drop position)).length ≤ data.length - position := by
  obtain ⟨found, last, walk⟩ := (advances_textAt? data).exists_walk position
  rw [texts_of_walk walk]
  exact walk.length_le (advances_textAt? data)

private theorem length_texts_body_le {header : Header} {body : Bytes}
    (h : Header.read data = .ok (header, body)) : (texts body).length ≤ data.length := by
  obtain ⟨steps, result, head⟩ := exists_headRead data
  rw [head.read_eq] at h
  rcases result with fault | ⟨header, position⟩
  · nomatch h
  · obtain ⟨-, rfl⟩ := Prod.mk.inj (Except.ok.inj h)
    exact Nat.le_trans (length_texts_drop_le data position) (Nat.sub_le _ _)

private theorem length_run_le {τ : Type} (timer : Timer τ) (now : Nat) (immediate : Bool)
    (reader : Reader τ) :
    (timer.run now immediate reader).texts.length +
      (timer.run now immediate reader).reader.unread.length ≤ reader.unread.length := by
  induction left : reader.unread.length using Nat.strong_induction_on
    generalizing immediate reader with
  | _ left ih =>
    rcases plan : reader.plan immediate with ⟨frame, delay⟩ | _ | _
    · by_cases waits : delay = 0
      swap
      · rw [Timer.run_of_deliver plan, if_pos waits]
        exact Nat.le_of_eq ((Nat.zero_add _).trans left)
      rw [Timer.run_of_deliver plan, if_neg (not_not_intro waits)]
      split
      · exact Nat.le_of_eq ((Nat.zero_add _).trans left)
      · have shorter := Reader.length_of_plan plan
        have later := ih (reader.take frame).unread.length (left ▸ shorter) false _ rfl
        change _ + _ ≤ frame.rest.length at later
        dsimp only
        rw [List.length_cons]
        omega
    · rw [Timer.run_of_finish plan]
      split
      · exact Nat.le_of_eq ((Nat.zero_add _).trans left)
      · exact Nat.zero_le _
    · rw [Timer.run_of_halt plan]
      exact Nat.le_of_eq ((Nat.zero_add _).trans left)

/-- What a player has played of some bytes, and what it will play if it is left alone. -/
structure Played {τ : Type} (data : Bytes) (reader : Reader τ) : Prop where
  /-- No more frames were delivered than there are bytes. -/
  delivered_le : reader.delivered ≤ data.length
  /-- A playback comes to its end, and then it has still delivered no more. -/
  ends : reader.status = .playing → ∀ now, ∃ told ended horizon,
    ended.status = .idle ∧ ended.timers = [] ∧ reader.delivered + told.length ≤ data.length ∧
    ∀ target, horizon ≤ target → reader.leave now target = (told, ended)

theorem Plays.played {τ : Type} {state : Reader τ × Ledger τ} (h : Plays state) {header : Header}
    (loaded : Header.read data = .ok (header, state.2.body)) : Played data state.1 where
  delivered_le := by
    rw [h.delivered_eq]
    exact Nat.le_trans h.heard_prefix.length_le (length_texts_body_le loaded)
  ends := by
    intro playing now
    obtain ⟨listener, told, ended, horizon, whole, idle, -, done, later⟩ := h.ending playing now
    refine ⟨told, ended, horizon, idle, done, ?_, later⟩
    have lengths := congrArg List.length whole
    have within := length_texts_body_le loaded
    have heard : state.2.history.length = state.1.delivered := by
      rw [h.delivered_eq, Ledger.history, Ledger.texts, List.length_map, List.length_map]
    rw [List.length_append, List.length_map, List.length_map, heard] at lengths
    omega

/-! ## Inspecting -/

/-- How a recording is inspected: the number of lines and frames that are taken, and what is
written. -/
inductive Inspected (data : Bytes) (path : String) : (steps : Nat) → Cli.Output → Prop where
  /-- The head cannot be read. -/
  | headless {steps : Nat} {fault : FormatError} (head : HeadRead data steps (.error fault)) :
      Inspected data path steps (.failure fault.describe "")
  /-- A frame cannot be read. -/
  | broken {steps body last : Nat} {header : Header} {found : List Located} {fault : FormatError}
      (head : HeadRead data steps (.ok (header, body)))
      (frames : Walk (located? data) body found last) (stop : frameAt data last = .error fault) :
      Inspected data path (steps + found.length)
        (.failure fault.describe (Cli.Inspect.opening path header))
  /-- All frames are read. -/
  | whole {steps body last : Nat} {header : Header} {found : List Located}
      (head : HeadRead data steps (.ok (header, body)))
      (frames : Walk (located? data) body found last) (stop : frameAt data last = .ok none) :
      Inspected data path (steps + found.length) {
        out := Cli.Inspect.opening path header ++ Cli.unlines [
          "Frames:    " ++ toString found.length,
          "Length:    " ++ Decimal.threePlaces
            ((UInt64.ofNat ((found.getLast?.map (·.elapsed)).getD 0)).toFloat / 1000.0) ++ "s",
          "Largest:   " ++ toString ((found.map fun one ↦ one.stop - one.start).max?.getD 0) ++
            " bytes"] }

theorem Inspected.steps_le {path : String} {steps : Nat} {output : Cli.Output}
    (h : Inspected data path steps output) : steps ≤ data.length := by
  rcases h with head | ⟨head, frames, _⟩ | ⟨head, frames, _⟩
  · exact head.steps_le
  · have := head.steps_le_body
    have := frames.length_le (advances_located? data)
    omega
  · have := head.steps_le_body
    have := frames.length_le (advances_located? data)
    omega

private theorem exists_inspected {folder : Folder} {name path : String}
    (safe : resolve? folder.path name = some path) (file : folder.disk.read path = .ok data) :
    ∃ steps, Inspected data path steps (Cli.Inspect.recording folder name) := by
  obtain ⟨steps, result, head⟩ := exists_headRead data
  rw [Cli.Inspect.recording, safe]
  dsimp only
  rw [file]
  dsimp only
  rw [head.read_eq]
  rcases result with fault | ⟨header, body⟩
  · exact ⟨steps, .headless head⟩
  dsimp only [Except.map]
  obtain ⟨found, last, frames⟩ := (advances_located? data).exists_walk body
  have count := frames.length_scan
  have time := frames.lastElapsed_scan
  have sizes := frames.lengths_scan
  rw [frames.scan_eq] at count time sizes ⊢
  dsimp only at count time sizes ⊢
  rcases stop : frameAt data last with fault | _ | one
  · rw [faultAt?, stop]
    exact ⟨_, .broken head frames stop⟩
  · rw [faultAt?, stop, Cli.Inspect.closing, count, time, sizes]
    exact ⟨_, .whole head frames stop⟩
  · exact absurd stop (located?_eq_none_iff.mp frames.nothing one)

/-! ## The bounds -/

/-- What holds of every reading of some bytes. -/
structure Bounded (data : Bytes) : Prop where
  /-- A line leads on, and not past the end. -/
  line : ∀ position line next, lineAt? data position = some (line, next) →
    position < next ∧ next ≤ data.length
  /-- A frame leads on, its text lies between, and it does not lead past the end. -/
  frame : ∀ position found, frameAt data position = .ok (some found) →
    position < found.start ∧ found.start ≤ found.stop ∧ found.stop ≤ found.next ∧
      found.next ≤ data.length
  /-- No sum of positions is carried out of 64 bits, provided that the length is not. -/
  line_adds : data.length < UInt64.size → ∀ position line next,
    lineAt? data position = some (line, next) →
      next = data.length ∨ ∃ length, data[position + length]? = some lineFeed ∧
        Adds position length (position + length) ∧ Adds (position + length) 1 next
  frame_adds : data.length < UInt64.size → ∀ position found,
    frameAt data position = .ok (some found) →
      ∃ line header, lineAt? data position = some (line, found.start) ∧
        FrameHeader.Announced line header ∧ Adds found.start header.length found.stop ∧
        (found.next = found.stop ∨ Adds found.stop 1 found.next)
  /-- The head is read to its end. -/
  head : ∃ steps result, HeadRead data steps result ∧ steps ≤ data.length ∧
    Header.read data = result.map fun found ↦ (found.1, data.drop found.2)
  /-- So is the foot, from wherever it begins. -/
  foot : ∀ position, ∃ found last, Walk (lineAt? data) position found last ∧
    found.length ≤ data.length - position ∧
    ∀ header : Header, header.amendAll (data.drop position) = found.foldl .amendLine header
  /-- Frame after frame is read up to the first place without one. Their texts lie one behind the
  other, inside the bytes. -/
  frames : ∀ position, ∃ found last, Walk (located? data) position found last ∧
    found.length ≤ data.length - position ∧
    scan (data.drop position) = ⟨found.map (·.frame data), data.drop last, faultAt? data last⟩ ∧
    (∀ one ∈ found, position < one.start ∧ one.start ≤ one.stop ∧ one.stop ≤ data.length) ∧
    found.Pairwise fun earlier later ↦ earlier.stop < later.start
  /-- The bytes are summed up in no more steps, all counted. -/
  info : ∀ filename, ∃ steps, InfoRead data filename steps (Info.ofBytes filename data) ∧
    steps ≤ data.length
  /-- And so they are inspected. -/
  inspected : ∀ folder name path, resolve? folder.path name = some path →
    folder.disk.read path = .ok data →
    ∃ steps, Inspected data path steps (Cli.Inspect.recording folder name) ∧ steps ≤ data.length
  /-- Text after text is played, up to the first place without one. -/
  texts : ∀ position, ∃ found last, Walk (textAt? data) position found last ∧
    found.length ≤ data.length - position ∧ texts (data.drop position) = found
  /-- A timer makes no more turns at a stretch than there are bytes ahead of its reader. -/
  stretch : ∀ (τ : Type) (timer : Timer τ) now immediate (reader : Reader τ) position,
    reader.unread = data.drop position →
    (timer.run now immediate reader).texts.length ≤ data.length - position
  /-- Whatever commands come, a playback of these bytes delivers no more frames than there are
  bytes, and if it is left alone it comes to its end. -/
  played : ∀ (τ : Type) (events : List (Event τ)) header,
    Header.read data = .ok (header, (Reader.run events).2.body) →
    Played data (Reader.run events).1

/-- Whatever the bytes are. -/
theorem bounded_reads (data : Bytes) : Bounded data where
  line := fun _ _ _ ↦ bounds_of_lineAt?
  frame := fun _ _ ↦ bounds_of_frameAt
  line_adds := fun small _ _ _ ↦ adds_of_lineAt? small
  frame_adds := fun small _ _ ↦ adds_of_frameAt small
  head := by
    obtain ⟨steps, result, head⟩ := exists_headRead data
    exact ⟨steps, result, head, head.steps_le, head.read_eq⟩
  foot := by
    intro position
    obtain ⟨found, last, walk⟩ := (advances_lineAt? data).exists_walk position
    exact ⟨found, last, walk, walk.length_le (advances_lineAt? data), walk.amendAll_eq⟩
  frames := by
    intro position
    obtain ⟨found, last, walk⟩ := (advances_located? data).exists_walk position
    exact ⟨found, last, walk, walk.length_le (advances_located? data), walk.scan_eq, walk.bounds,
      walk.pairwise⟩
  info := by
    intro filename
    obtain ⟨steps, result, info⟩ := exists_infoRead data filename
    rw [info.ofBytes_eq]
    exact ⟨steps, info, info.steps_le⟩
  inspected := by
    intro folder name path safe file
    obtain ⟨steps, inspected⟩ := exists_inspected safe file
    exact ⟨steps, inspected, inspected.steps_le⟩
  texts := by
    intro position
    obtain ⟨found, last, walk⟩ := (advances_textAt? data).exists_walk position
    exact ⟨found, last, walk, walk.length_le (advances_textAt? data), texts_of_walk walk⟩
  stretch := by
    intro τ timer now immediate reader position stands
    have within := length_run_le timer now immediate reader
    rw [stands, List.length_drop] at within
    omega
  played := fun _ events _ loaded ↦ (Kept.start.watchAll events).plays.played loaded

end Glyphcast.Playback
