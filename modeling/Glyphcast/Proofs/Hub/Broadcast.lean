import Glyphcast.Proofs.Hub.Shutdown
import Glyphcast.Proofs.Recording.RoundTrip

/-!
# The recording is the broadcast

A capture loop offers what it has read to the recorder and then, in another step, sends it to the
viewers. Nothing compares the two. Here it is shown that they are the same texts, over any number of
streams, as long as no command comes between the steps of one reading: `Round` is a command, or a
reading from its beginning to its end, and a run is a list of rounds.

What carries this through a run is that no reading is under way between rounds (`Rested`), and that
a recording which is open holds what has been broadcast since its start, each text with the time at
which the recorder was offered it. A stop seals the file, and nothing that comes later touches it.
-/

namespace Glyphcast

/-- The text that a reading gave. There is none for an empty frame, an error or a crash. -/
def Reading.text? (reading : Reading) : Option String :=
  match reading.result with
  | .ok text => text
  | .error _ => none

namespace Hub

open Recording (Disk Frame Header Reel Recorder Stamp framesSince headOf
  scan)
open Recording.Recorder (Deed)

variable {δ ρ : Type}

/-! ## What is broadcast -/

/-- The text that the loop sends to the viewers when it draws the consequences of its reading, once
the recorder has been offered it. -/
def published? (hub : Hub δ ρ) : Option String :=
  (hub.capture.loop?.bind (·.reading)).bind fun reading ↦
    if reading.kept then reading.text? else none

/-- That text is what the viewers are sent, and it is counted; where there is none they are sent
nothing. -/
theorem conclude_eq_broadcast [CaptureDevice δ] (hub : Hub δ ρ) (floor : Floor) (now : Nat) :
    (hub.conclude floor now).2 = (match hub.published? with
        | some text => (hub.roster.broadcast floor text).2.2
        | none => floor) ∧
      (hub.published?.isSome = true →
        (hub.conclude floor now).1.counters.captured = hub.counters.captured + 1) := by
  unfold conclude published?
  cases hub.capture with
  | idle pipeline => exact ⟨rfl, nofun⟩
  | finished pipeline => exact ⟨rfl, nofun⟩
  | running pipeline loop =>
    obtain ⟨settings, maxFailures, nextTick, failures, reading⟩ := loop
    match reading with
    | none => exact ⟨rfl, nofun⟩
    | some ⟨_, false⟩ => exact ⟨rfl, nofun⟩
    | some ⟨.error _, true⟩ => exact ⟨rfl, nofun⟩
    | some ⟨.ok none, true⟩ => exact ⟨rfl, nofun⟩
    | some ⟨.ok (some text), true⟩ => exact ⟨rfl, fun _ ↦ rfl⟩

/-! ## Rounds -/

/-- Something that happens to a hub without an interruption: a command, or a whole reading. -/
inductive Round where
  /-- A command comes while nothing is being read. -/
  | command (whole : Command) (apart : whole.isReading = false)
  /-- The loop reads a frame, offers it to the recorder, and draws the consequences. -/
  | reading (floor : Floor) (keptAt concludedAt : Nat)

/-- The commands that a round consists of. -/
def Round.commands : Round → List Command
  | .command whole _ => [whole]
  | .reading floor keptAt concludedAt => [.read, .keep keptAt, .conclude floor concludedAt]

/-- What a round tells the recorder to do. -/
def Round.order? : Round → Option Deed
  | .command whole _ => whole.order?
  | .reading .. => none

section

variable [CaptureDevice δ] [FrameRenderer ρ]

/-- The hub after some rounds. -/
def runRounds (hub : Hub δ ρ) (rounds : List Round) : Hub δ ρ :=
  hub.run (rounds.flatMap Round.commands)

private theorem runRounds_cons (hub : Hub δ ρ) (round : Round) (rounds : List Round) :
    hub.runRounds (round :: rounds) = (hub.run round.commands).runRounds rounds := by
  rw [runRounds, List.flatMap_cons, run_append]
  rfl

private theorem runRounds_append (hub : Hub δ ρ) (first rest : List Round) :
    hub.runRounds (first ++ rest) = (hub.runRounds first).runRounds rest := by
  rw [runRounds, List.flatMap_append, run_append]
  rfl

/-- The text that a round broadcasts, with the time at which the recorder was offered it. -/
def broadcast? (hub : Hub δ ρ) : Round → Option (Nat × String)
  | .command .. => none
  | .reading _ keptAt _ => (hub.read.keep keptAt).published?.map (keptAt, ·)

/-- The texts that some rounds broadcast, in the order in which they do. -/
def broadcasts (hub : Hub δ ρ) : List Round → List (Nat × String)
  | [] => []
  | round :: rounds => (hub.broadcast? round).toList ++ (hub.run round.commands).broadcasts rounds

end

/-! ## Starting a recording -/

variable {hub after : Hub δ ρ}

/-- A start that opens a recording opens one without frames. -/
theorem records_startRecording (idle : hub.recorder.isRecording = false) {now : Nat}
    {stamp : Stamp} {path : String} (started : (hub.startRecording now stamp).1 = .ok path) :
    (hub.startRecording now stamp).2.recorder.Records ⟨path, stamp, now, []⟩ := by
  have closed : hub.recorder.active = none :=
    Option.isNone_iff_eq_none.mp (Option.isSome_eq_false_iff.mp idle)
  have untold : hub.recorder.currentPath? = none := by
    rw [Recorder.currentPath?, closed]
    rfl
  rw [recorder_startRecording]
  refine Recorder.records_start ?_
  unfold startRecording at started
  rw [untold] at started
  dsimp only at started
  cases answer : (hub.recorder.start now stamp).1 with
  | error cause =>
    rw [answer] at started
    cases started
  | ok opened =>
    rw [answer] at started
    cases started
    rfl

private theorem startRecording_of_records {reel : Reel} (records : hub.recorder.Records reel)
    (now : Nat) (stamp : Stamp) : hub.startRecording now stamp = (.ok reel.path, hub) := by
  unfold startRecording
  rw [records.currentPath?]

/-! ## Between rounds nothing is being read -/

/-- No reading is under way. -/
def Rested (hub : Hub δ ρ) : Prop := ∀ loop, hub.capture.loop? = some loop → loop.reading = none

private theorem rested_of_noLoop (noLoop : hub.capture.loop? = none) : hub.Rested :=
  fun _ found ↦ nomatch noLoop.symm.trans found

theorem Rested.of_sameStream (h : hub.Rested) (same : hub.SameStream after) : after.Rested := by
  rw [Rested, same.capture]
  exact h

variable [CaptureDevice δ]

private theorem rested_stopStreaming (hub : Hub δ ρ) (now : Nat) :
    (hub.stopStreaming now).Rested := by
  refine rested_of_noLoop ?_
  rw [capture_eq_idle (hub.hasLoop_stopStreaming now)]
  rfl

theorem Rested.startStreaming [FrameRenderer ρ] (h : hub.Rested) (now : Nat) (cameraIndex : UInt32)
    (resolution : String) (fps : UInt32) :
    (hub.startStreaming now cameraIndex resolution fps).2.Rested := by
  unfold Hub.startStreaming
  split
  · exact h
  · split
    · exact h
    · dsimp only
      split
      · exact rested_of_noLoop rfl
      · intro loop found
        cases found
        rfl

private theorem rested_conclude
    (kept : ∀ loop reading, hub.capture.loop? = some loop → loop.reading = some reading →
      reading.kept = true) (floor : Floor) (now : Nat) : (hub.conclude floor now).1.Rested := by
  unfold conclude failCapture
  split
  · next capture => exact rested_of_noLoop (by rw [capture]; rfl)
  · next capture => exact rested_of_noLoop (by rw [capture]; rfl)
  · next pipeline loop capture =>
    split
    · dsimp only
      split
      · intro later found
        cases found
        rfl
      · intro later found
        cases found
        rfl
      · split
        · exact rested_of_noLoop rfl
        · intro later found
          cases found
          rfl
    · next under_way =>
      nomatch kept loop _ (by rw [capture]; rfl) under_way
    · next none =>
      intro later found
      rw [capture] at found
      cases found
      exact none

/-! ## A reading from its beginning to its end -/

variable [FrameRenderer ρ]

/-- Where no loop is running a reading does nothing. -/
theorem keep_read_of_noLoop (noLoop : hub.capture.loop? = none) (now : Nat) :
    hub.read.keep now = hub := by
  unfold Hub.read
  cases capture : hub.capture with
  | running pipeline loop =>
    rw [capture] at noLoop
    cases noLoop
  | idle pipeline => simp only [keep, capture]
  | finished pipeline => simp only [keep, capture]

/-- What stands between the two halves of a reading. -/
def readingOf (pipeline : Pipeline δ ρ) (loop : CaptureLoop) : Reading :=
  ⟨(pipeline.capture loop.settings.resolution).1, true⟩

theorem keep_read_of_running {pipeline : Pipeline δ ρ} {loop : CaptureLoop}
    (running : hub.capture = .running pipeline loop) (rested : loop.reading = none) (now : Nat) :
    hub.read.keep now = { hub with
      capture := .running (pipeline.capture loop.settings.resolution).2
        { loop with reading := some (readingOf pipeline loop) }
      recorder := (readingOf pipeline loop).text?.elim hub.recorder (hub.recorder.write now) } := by
  have read : hub.read = { hub with
      capture := .running (pipeline.capture loop.settings.resolution).2 { loop with
        reading := some { result := (pipeline.capture loop.settings.resolution).1 } } } := by
    unfold Hub.read
    rw [running]
    dsimp only
    rw [if_neg (by rw [rested]; decide)]
  rw [read, keep, readingOf, Reading.text?]
  dsimp only
  match (pipeline.capture loop.settings.resolution).1 with
  | .error _ => rfl
  | .ok none => rfl
  | .ok (some text) => rfl

/-- What the recorder is offered is what is going to be broadcast. -/
theorem recorder_keep_read (rested : hub.Rested) (now : Nat) :
    (hub.read.keep now).recorder =
      hub.recorder.writeAll ((hub.read.keep now).published?.map (now, ·)).toList := by
  cases capture : hub.capture with
  | idle pipeline =>
    rw [keep_read_of_noLoop (by rw [capture]; rfl), published?, capture]
    rfl
  | finished pipeline =>
    rw [keep_read_of_noLoop (by rw [capture]; rfl), published?, capture]
    rfl
  | running pipeline loop =>
    have read := keep_read_of_running capture (rested loop (by rw [capture]; rfl)) now
    have sent : (hub.read.keep now).published? = (readingOf pipeline loop).text? := by
      rw [read]
      rfl
    rw [sent, read]
    cases (readingOf pipeline loop).text? with
    | none => rfl
    | some text =>
      simp only [Option.elim_some, Option.map_some, Option.toList_some, Recorder.writeAll,
        List.foldl_cons, List.foldl_nil]

private theorem kept_keep_read (rested : hub.Rested) (now : Nat) {loop : CaptureLoop}
    {reading : Reading} (found : (hub.read.keep now).capture.loop? = some loop)
    (under_way : loop.reading = some reading) : reading.kept = true := by
  cases capture : hub.capture with
  | idle pipeline =>
    rw [keep_read_of_noLoop (by rw [capture]; rfl), capture] at found
    nomatch found
  | finished pipeline =>
    rw [keep_read_of_noLoop (by rw [capture]; rfl), capture] at found
    nomatch found
  | running pipeline earlier =>
    rw [keep_read_of_running capture (rested earlier (by rw [capture]; rfl))] at found
    cases found
    cases under_way
    rfl

/-! ## Round after round -/

theorem Rested.apply (rested : hub.Rested) {command : Command}
    (apart : command.isReading = false) : (hub.apply command).Rested := by
  have step := hub.streamStep_apply command
  generalize hub.apply command = after at step ⊢
  cases step with
  | same same => exact rested.of_sameStream same
  | start now cameraIndex resolution fps =>
    exact rested.startStreaming now cameraIndex resolution fps
  | stop roster now same => exact (rested_stopStreaming _ now).of_sameStream same
  | read => nomatch apart
  | keep now => nomatch apart
  | conclude floor now => nomatch apart

theorem Rested.round (rested : hub.Rested) (round : Round) : (hub.run round.commands).Rested := by
  cases round with
  | command whole apart => exact rested.apply apart
  | reading floor keptAt concludedAt =>
    exact rested_conclude (fun _ _ ↦ kept_keep_read rested keptAt) floor concludedAt

private theorem Rested.runRounds (rested : hub.Rested) (rounds : List Round) :
    (hub.runRounds rounds).Rested := by
  induction rounds generalizing hub with
  | nil => exact rested
  | cons round rounds ih =>
    rw [runRounds_cons]
    exact ih (rested.round round)

/-- While a recording is open, a round that does not finish it adds to it what it broadcasts. -/
theorem recorder_round (rested : hub.Rested) (recording : hub.recorder.isRecording = true)
    {round : Round} (goesOn : ∀ time, round.order? ≠ some (.stop time)) :
    (hub.run round.commands).recorder = hub.recorder.writeAll (hub.broadcast? round).toList := by
  cases round with
  | reading floor keptAt concludedAt =>
    exact (sameBooks_conclude _ floor concludedAt).recorder.trans (recorder_keep_read rested keptAt)
  | command whole apart =>
    refine (hub.recorder_apply_of_apart apart).trans ?_
    cases order : whole.order? with
    | none => rfl
    | some deed =>
      cases deed with
      | start now stamp => exact Recorder.start_of_recording recording now stamp
      | stop now => exact (goesOn now order).elim
      | write now text => cases whole <;> nomatch order

/-- As long as no round finishes it, a recording grows by what is broadcast. -/
theorem recorder_runRounds {reel : Reel} (records : hub.recorder.Records reel)
    (rested : hub.Rested) {rounds : List Round}
    (goesOn : ∀ round ∈ rounds, ∀ time, round.order? ≠ some (.stop time)) :
    (hub.runRounds rounds).recorder = hub.recorder.writeAll (hub.broadcasts rounds) := by
  induction rounds generalizing hub reel with
  | nil => rfl
  | cons round rounds ih =>
    have grown := recorder_round rested records.isRecording (goesOn round List.mem_cons_self)
    have later := ih (grown ▸ records.writeAll _) (rested.round round)
      fun other mem ↦ goesOn other (List.mem_cons_of_mem round mem)
    rw [runRounds_cons, later, grown, broadcasts, Recorder.writeAll, Recorder.writeAll,
      Recorder.writeAll, List.foldl_append]

private theorem records_runRounds {reel : Reel} (records : hub.recorder.Records reel)
    (rested : hub.Rested) {rounds : List Round}
    (goesOn : ∀ round ∈ rounds, ∀ time, round.order? ≠ some (.stop time)) :
    (hub.runRounds rounds).recorder.Records { reel with
      frames := reel.frames ++ framesSince reel.startedAt (hub.broadcasts rounds) } :=
  recorder_runRounds records rested goesOn ▸ records.writeAll _

/-! ## From a start to a stop -/

/-- A file is read back to these texts, and its foot tells how many they are. -/
structure ReadsBack (disk : Disk) (path : String) (texts : List String) : Prop where
  found : ∃ data header body frames foot, disk.read path = .ok data ∧
    Header.read data = .ok (header, body) ∧ scan body = ⟨frames, foot, none⟩ ∧
    frames.map (Text.decode? ·.payload) = texts.map some ∧
    (header.amendAll foot).frameCount = some texts.length

/-- A finished recording is read back, if its numbers are of 64 bits. -/
theorem readsBack_of_read {disk : Disk} {path : String} {stamp : Stamp} {now later : Nat}
    {writes : List (Nat × String)}
    (read : disk.read path =
      .ok (Reel.fileBytes ⟨path, stamp, now, framesSince now writes⟩ later))
    (within : ∀ write ∈ writes, write.1 - now < UInt64.size) (lasting : later - now < UInt64.size)
    (room : ∀ data, disk.read path = .ok data → data.length < UInt64.size) :
    ReadsBack disk path (writes.map (·.2)) := by
  let reel : Reel := ⟨path, stamp, now, framesSince now writes⟩
  have size : (reel.fileBytes later).length < UInt64.size := room _ read
  have fit : ∀ frame ∈ reel.frames, frame.Fits := by
    intro frame mem
    have payload := Nat.lt_of_le_of_lt (reel.length_payload_le mem later) size
    obtain ⟨write, written, rfl⟩ := List.mem_map.mp mem
    exact ⟨within write written, payload⟩
  have texts : (framesSince now writes).map (Text.decode? ·.payload) =
      (writes.map (·.2)).map some := by
    rw [framesSince, List.map_map, List.map_map]
    exact List.map_congr_left fun write _ ↦ Text.decode?_encode write.2
  have shortly : (reel.summary later).durationSecs < UInt64.size :=
    Nat.lt_of_le_of_lt (Nat.div_le_self _ _) lasting
  have count : (reel.summary later).frameCount < UInt64.size :=
    Nat.lt_of_le_of_lt (reel.length_frames_le later) size
  refine ⟨_, _, _, _, _, read, reel.read_fileBytes, reel.scan_body fit, texts, ?_⟩
  rw [Header.amendAll_footBytes shortly count]
  exact congrArg some ((List.length_map _).trans (List.length_map _).symm)

/-- What is true of a recording that was opened at one time and finished at another, and of the
texts that were broadcast in between. -/
structure Recorded (opened : Hub δ ρ) (path : String) (now : Nat) (rounds : List Round)
    (later : Nat) (final : Hub δ ρ) : Prop where
  /-- What is said to be broadcast is what the viewers are sent when a reading is concluded. -/
  sent : ∀ first floor keptAt concludedAt rest,
    rounds = first ++ .reading floor keptAt concludedAt :: rest →
      let kept := (opened.runRounds first).read.keep keptAt
      (kept.conclude floor concludedAt).2 = match
          (opened.runRounds first).broadcast? (.reading floor keptAt concludedAt) with
        | some write => (kept.roster.broadcast floor write.2).2.2
        | none => floor
  /-- A start while it is open answers with its path, and disturbs nothing. -/
  again : ∀ first rest, rounds = first ++ rest → ∀ time stamp,
    (opened.runRounds first).startRecording time stamp = (.ok path, opened.runRounds first)
  /-- A stop tells its path, its length and how many texts were broadcast. -/
  summary : ((opened.runRounds rounds).stopRecording later).1 =
    .ok (some ⟨path, (later - now) / 1000, (opened.broadcasts rounds).length⟩)
  /-- In the end its file is read back to these texts. -/
  readsBack : ReadsBack final.recorder.folder.disk path ((opened.broadcasts rounds).map (·.2))

/-- Whatever a hub and its device went through before, and whatever they go through afterwards: a
recording that is opened holds what is broadcast until it is finished. Only its numbers have to be
of 64 bits. -/
theorem recorded_runRounds (device : δ) (renderer : ρ) (config : HubConfig) (disk : Disk)
    (before rounds after : List Round) {finish : Round} {now later : Nat} {stamp : Stamp}
    {path : String} {opened : Hub δ ρ}
    (reached : (new device renderer config disk).runRounds before = hub)
    (idle : hub.recorder.isRecording = false)
    (started : hub.startRecording now stamp = (.ok path, opened))
    (goesOn : ∀ round ∈ rounds, ∀ time, round.order? ≠ some (.stop time))
    (finishes : finish.order? = some (.stop later))
    (within : ∀ write ∈ opened.broadcasts rounds, write.1 - now < UInt64.size)
    (lasting : later - now < UInt64.size)
    (room : ∀ data, (opened.runRounds (rounds ++ finish :: after)).recorder.folder.disk.read path =
      .ok data → data.length < UInt64.size) :
    Recorded opened path now rounds later (opened.runRounds (rounds ++ finish :: after)) := by
  have rested : opened.Rested := by
    have := ((rested_of_noLoop rfl).runRounds before).of_sameStream
      (sameStream_startRecording ((new device renderer config disk).runRounds before) now stamp)
    rwa [reached, started] at this
  have records : opened.recorder.Records ⟨path, stamp, now, []⟩ := by
    have := records_startRecording idle (congrArg Prod.fst started)
    rwa [started] at this
  -- what is open when the last round comes
  let reel : Reel := ⟨path, stamp, now, framesSince now (opened.broadcasts rounds)⟩
  have whole : (opened.runRounds rounds).recorder.Records reel :=
    records_runRounds records rested goesOn
  -- and what is left of it by that round, and by all that come after
  have done : (opened.runRounds (rounds ++ finish :: after)).recorder.Sealed path
      (reel.fileBytes later) := by
    obtain ⟨deeds, ran⟩ := recorder_run ((opened.runRounds rounds).run finish.commands)
      (after.flatMap Round.commands)
    rw [runRounds_append, runRounds_cons]
    refine ran ▸ Recorder.Sealed.performAll ?_ deeds
    cases finish with
    | reading floor keptAt concludedAt => nomatch finishes
    | command last apart =>
      rw [Round.commands, run, List.foldl_cons, List.foldl_nil, recorder_apply_of_apart _ apart,
        show last.order? = _ from finishes]
      exact whole.sealed_stop later
  exact {
    sent := fun first floor keptAt concludedAt rest _ ↦ by
      intro kept
      rw [(kept.conclude_eq_broadcast floor concludedAt).1, broadcast?]
      cases kept.published? <;> rfl
    again := fun first rest split time stamp ↦
      startRecording_of_records (records_runRounds records rested fun round mem ↦
        goesOn round (split ▸ List.mem_append_left rest mem)) time stamp
    summary := by
      rw [stopRecording_eq, (whole.stop later).1, Reel.summary,
        show reel.frames.length = _ from List.length_map _]
    readsBack := readsBack_of_read done.read within lasting room }

/-- Two streams: the device crashes in the first one, and then it is started again. -/
def twoStreams : List Round :=
  [.reading {} 100 100, .reading {} 200 200, .reading {} 300 300,
    .command (.startStreaming 400 0 "2x1" 10) rfl, .reading {} 500 500,
    .command (.stopStreaming 600) rfl]

/-- The end of the recording. -/
def stopTwoStreams : Round := .command (.stopRecording 2000) rfl

/-- A hub that streams from a device which will crash, and gives up at the first failure. -/
def crashing : Hub ScriptedDevice LabelRenderer :=
  (new { script := [.frame 1, .empty, .crash "unplugged", .frame 2] } {}
    { maxConsecutiveFailures := 1 } .empty).runRounds [.command (.startStreaming 0 0 "2x1" 10) rfl]

/-- The same hub when a recording has been started. -/
def crashingRecorded : Hub ScriptedDevice LabelRenderer :=
  (crashing.startRecording 50 ⟨2024, 5, 1, 12, 0, 0⟩).2

/-- Neither the crash nor the empty frame is recorded, and the recording spans both streams. -/
theorem recorded_twoStreams :
    crashingRecorded.broadcasts twoStreams = [(100, "frame 1 2x1"), (500, "frame 2 2x1")] ∧
      Recorded crashingRecorded "recordings/ascii_stream_20240501_120000.asr" 50 twoStreams 2000
        (crashingRecorded.runRounds (twoStreams ++ [stopTwoStreams])) := by
  have idle : crashing.recorder.isRecording = false := by decide +kernel
  have started : crashing.startRecording 50 ⟨2024, 5, 1, 12, 0, 0⟩ =
      (.ok "recordings/ascii_stream_20240501_120000.asr", crashingRecorded) :=
    Prod.ext (by decide +kernel) rfl
  have texts : crashingRecorded.broadcasts twoStreams =
      [(100, "frame 1 2x1"), (500, "frame 2 2x1")] := by decide +kernel
  have goesOn : ∀ round ∈ twoStreams, ∀ time, round.order? ≠ some (.stop time) := by
    have untold : twoStreams.all (·.order?.isNone) = true := by decide
    intro round mem time told
    have := List.all_eq_true.mp untold round mem
    rw [told] at this
    nomatch this
  have finishes : stopTwoStreams.order? = some (.stop 2000) := rfl
  have within : ∀ write ∈ crashingRecorded.broadcasts twoStreams, write.1 - 50 < UInt64.size := by
    rw [texts]
    decide
  have room : ∀ data, (crashingRecorded.runRounds (twoStreams ++ [stopTwoStreams])
      ).recorder.folder.disk.read "recordings/ascii_stream_20240501_120000.asr" = .ok data →
        data.length < UInt64.size := by
    have small : ((crashingRecorded.runRounds (twoStreams ++ [stopTwoStreams])
      ).recorder.folder.disk.read "recordings/ascii_stream_20240501_120000.asr").toOption.all
        (·.length < UInt64.size) = true := by decide +kernel
    intro data file
    rw [file] at small
    exact of_decide_eq_true small
  exact ⟨texts, recorded_runRounds _ _ _ _ _ twoStreams [] rfl idle started goesOn finishes within
    (by decide) room⟩

end Hub

end Glyphcast
