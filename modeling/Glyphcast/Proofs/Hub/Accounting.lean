import Glyphcast.Proofs.Device.Logged
import Glyphcast.Proofs.Hub.Broadcast
import Glyphcast.Proofs.Hub.Start
import Mathlib.Data.List.DropRight
import Mathlib.Logic.Function.Iterate

/-!
# The account of a stream

What a stream comes to is decided by its device and its renderer: if nobody ends it, the loop reads
until they have failed too often, and it is told here how often that is. A reading comes to a frame,
to nothing, or to a failure. `Pipeline.outcome` says which, of the first reading, of the second, and
so on, and it looks at nothing but the device and the renderer. A failure counts until a frame
comes; that there was nothing to see neither counts nor undoes what counts.

So all that is to be said of a stream is said of a list: how much of it has been settled, what the
counters are, which texts the viewers were sent, and whether the loop is still there. The log of the
device tells how much of the list has been read. One reading at most is read and not settled.
-/

namespace Glyphcast

/-- What a reading comes to. -/
inductive Verdict where
  /-- A rendered frame. -/
  | frame (text : String)
  /-- There was nothing to see. -/
  | nothing
  /-- The device or the renderer failed, or crashed. -/
  | failure
  deriving DecidableEq, Repr

namespace Verdict

/-- Whether it is a frame. -/
def isFrame : Verdict → Bool
  | frame _ => true
  | nothing | failure => false

/-- The text of a frame. -/
def text? : Verdict → Option String
  | frame text => some text
  | nothing | failure => none

/-- What the pipeline's answer comes to. -/
def ofResult : Except DeviceError (Option String) → Verdict
  | .ok (some text) => frame text
  | .ok none => nothing
  | .error _ => failure

end Verdict

/-- How many failures there have been since the last frame, or since the beginning. -/
def streak (verdicts : List Verdict) : Nat :=
  (verdicts.rtakeWhile (!·.isFrame)).count .failure

section

variable (verdicts : List Verdict)

@[simp] theorem streak_append_frame (text : String) :
    streak (verdicts ++ [.frame text]) = 0 := by
  simp [streak, Verdict.isFrame]

@[simp] theorem streak_append_nothing : streak (verdicts ++ [.nothing]) = streak verdicts := by
  simp [streak, Verdict.isFrame]

@[simp] theorem streak_append_failure :
    streak (verdicts ++ [.failure]) = streak verdicts + 1 := by
  simp [streak, Verdict.isFrame]

end

/-! ## What the readings of a pipeline come to -/

namespace Pipeline

variable {δ ρ : Type} [CaptureDevice δ] (pipeline : Pipeline δ ρ)

/-- The pipeline when its device has been read so many times. -/
def later (n : Nat) : Pipeline δ ρ :=
  { pipeline with device := (fun device ↦ (CaptureDevice.capture device).2)^[n] pipeline.device }

@[simp] theorem later_zero : pipeline.later 0 = pipeline := rfl

@[simp] theorem later_succ (n : Nat) : pipeline.later (n + 1) =
    { pipeline.later n with device := (CaptureDevice.capture (pipeline.later n).device).2 } := by
  rw [later, Function.iterate_succ_apply']
  rfl

@[simp]
private theorem readings_later {δ : Type} [CaptureDevice δ] (pipeline : Pipeline (Logged δ) ρ)
    (n : Nat) : (pipeline.later n).device.readings = pipeline.device.readings + n := by
  induction n with
  | zero => rw [later_zero, Nat.add_zero]
  | succ n ih =>
    rw [later_succ, ← Nat.add_assoc, ← ih]
    exact Logged.readings_append _ _ [.capture]

variable [FrameRenderer ρ] (grid : Resolution)

/-- What the next reading comes to, by the answers of the device and the renderer. -/
def verdict : Verdict :=
  match (CaptureDevice.capture pipeline.device).1 with
  | .failed _ | .crashed _ => .failure
  | .done none => .nothing
  | .done (some image) =>
    if image.isEmpty then .nothing
    else
      match FrameRenderer.render pipeline.renderer image grid.width grid.height with
      | .ok text => .frame text
      | .error _ => .failure

/-- Of all readings to come, what the one with this number comes to. -/
def outcome (n : Nat) : Verdict := (pipeline.later n).verdict grid

/-- What so many readings come to, in their order. -/
def outcomes (n : Nat) : List Verdict := (List.range n).map (pipeline.outcome grid)

@[simp] theorem outcomes_zero : pipeline.outcomes grid 0 = [] := rfl

@[simp] theorem outcomes_succ (n : Nat) :
    pipeline.outcomes grid (n + 1) = pipeline.outcomes grid n ++ [pipeline.outcome grid n] := by
  rw [outcomes, List.range_succ, List.map_append]
  rfl

@[simp] private theorem length_outcomes (n : Nat) : (pipeline.outcomes grid n).length = n := by
  rw [outcomes, List.length_map, List.length_range]

/-- The texts among them. -/
def texts (n : Nat) : List String := (pipeline.outcomes grid n).filterMap (·.text?)

@[simp] theorem texts_succ (n : Nat) : pipeline.texts grid (n + 1) =
    pipeline.texts grid n ++ (pipeline.outcome grid n).text?.toList := by
  rw [texts, outcomes_succ, List.filterMap_append]
  cases pipeline.outcome grid n <;> rfl

/-- Reading and rendering come to what the answers of the device and the renderer say, and leave
the pipeline with a device that has been read once more. -/
theorem capture_eq : Verdict.ofResult (pipeline.capture grid).1 = pipeline.verdict grid ∧
    (pipeline.capture grid).2 =
      { pipeline with device := (CaptureDevice.capture pipeline.device).2 } := by
  unfold capture verdict
  obtain ⟨answer, device⟩ := CaptureDevice.capture pipeline.device
  refine ⟨?_, rfl⟩
  match answer with
  | .failed _ => rfl
  | .crashed _ => rfl
  | .done none => rfl
  | .done (some image) =>
    dsimp only
    split_ifs
    · rfl
    · cases FrameRenderer.render pipeline.renderer image grid.width grid.height <;> rfl

private theorem capture_later (n : Nat) :
    Verdict.ofResult ((pipeline.later n).capture grid).1 = pipeline.outcome grid n ∧
      ((pipeline.later n).capture grid).2 = pipeline.later (n + 1) := by
  rw [later_succ]
  exact (pipeline.later n).capture_eq grid

end Pipeline

namespace Counters

/-- The counters tell how many of the readings so far were frames, nothing, and failures. -/
structure Tells (counters : Counters) (verdicts : List Verdict) : Prop where
  captured : counters.captured = verdicts.countP (·.isFrame)
  skipped : counters.skipped = verdicts.count .nothing
  errors : counters.errors = verdicts.count .failure

private theorem tells_begin (now : Nat) : (Counters.begin now).Tells [] := ⟨rfl, rfl, rfl⟩

variable {counters : Counters} {verdicts : List Verdict}

theorem Tells.total (h : counters.Tells verdicts) :
    counters.captured + counters.skipped + counters.errors = verdicts.length := by
  rw [h.captured, h.skipped, h.errors]
  clear h
  induction verdicts with
  | nil => rfl
  | cons verdict verdicts ih =>
    rw [List.length_cons, ← ih]
    cases verdict <;> simp [Verdict.isFrame] <;> omega

/-- The counters when one more reading has come to this. -/
def note (counters : Counters) : Verdict → Counters
  | .frame _ => { counters with captured := counters.captured + 1 }
  | .nothing => { counters with skipped := counters.skipped + 1 }
  | .failure => { counters with errors := counters.errors + 1 }

theorem Tells.note (h : counters.Tells verdicts) (verdict : Verdict) :
    (counters.note verdict).Tells (verdicts ++ [verdict]) := by
  obtain ⟨captured, skipped, errors⟩ := h
  cases verdict with
  | frame text => constructor <;> simp [Counters.note, Verdict.isFrame, *]
  | nothing => constructor <;> simp [Counters.note, Verdict.isFrame, *]
  | failure => constructor <;> simp [Counters.note, Verdict.isFrame, *]

end Counters

namespace Hub

variable {δ ρ : Type}

/-! ## Streams that are left alone -/

/-- Whether a command leaves the stream to itself: it does not end it, and does not start another. A
start while a stream is running is none. -/
def leavesAlone (hub : Hub δ ρ) : Command → Bool
  | .startStreaming .. => hub.isStreaming
  | .stopStreaming _ | .shutdown _ => false
  | .releaseSession _ _ id phase =>
    !(phase == .controller && hub.roster.controller.any (·.1 == id))
  | _ => true

/-- The text that the loop sends to the viewers on this occasion. -/
def publication? (hub : Hub δ ρ) : Command → Option String
  | .conclude .. => hub.published?
  | _ => none

section

variable [CaptureDevice δ] [FrameRenderer ρ]

/-- Whether all of these commands, one after the other, do. -/
def leftAlone (hub : Hub δ ρ) : List Command → Bool
  | [] => true
  | command :: commands => hub.leavesAlone command && (hub.apply command).leftAlone commands

/-- The texts that the loop sends to the viewers in the course of some commands. -/
def publications (hub : Hub δ ρ) : List Command → List String
  | [] => []
  | command :: commands =>
    (hub.publication? command).toList ++ (hub.apply command).publications commands

private theorem apply_of_leavesAlone {hub : Hub δ ρ} {command : Command}
    (apart : command.isReading = false) (alone : hub.leavesAlone command = true) :
    hub.apply command = { hub with
      roster := (hub.apply command).roster
      recorder := (hub.apply command).recorder
      player := (hub.apply command).player
      playbackOwner := (hub.apply command).playbackOwner } := by
  cases command with
  | startStreaming now cameraIndex resolution fps =>
    have raised : hub.isStreaming = true := alone
    simp only [apply, startStreaming, raised, if_true]
  | stopStreaming now => cases alone
  | shutdown now => cases alone
  | claimController floor id number =>
    simp only [apply, claimController]
    split <;> rfl
  | releaseSession floor now id phase =>
    simp only [apply, releaseSession]
    cases phase with
    | controller =>
      have held : hub.roster.controller.any (·.1 == id) = false := Bool.not_eq_true' _ ▸ alone
      simp only [Roster.release, Roster.remove, held, Bool.false_eq_true, if_false]
      split_ifs <;> rfl
    | viewer => dsimp only; split_ifs <;> rfl
    | unauthenticated => dsimp only; split_ifs <;> rfl
    | closed => dsimp only; split_ifs <;> rfl
  | startRecording now stamp =>
    simp only [apply, startRecording]
    split <;> rfl
  | startPlayback filename id number =>
    simp only [apply, startPlayback]
    split
    · rfl
    · split <;> rfl
  | read => cases apart
  | keep now => cases apart
  | conclude floor now => cases apart
  | _ => rfl

end

/-! ## The loop and its list -/

section

variable [CaptureDevice δ] [FrameRenderer ρ]

/-- What is true of a loop that goes on, when so many readings have been settled. -/
structure GoesOn (first : Pipeline δ ρ) (grid : Resolution) (limit settled : Nat)
    (loop : CaptureLoop) : Prop where
  grid_eq : loop.settings.resolution = grid
  limit_eq : loop.maxFailures.toNat = limit
  /-- It knows how many failures there have been since the last frame. -/
  failures_eq : loop.failures = streak (first.outcomes grid settled)
  /-- There have never been too many. -/
  below : ∀ n ≤ settled, streak (first.outcomes grid n) < max 1 limit

/-- What is true when a loop has given up. -/
structure GaveUp (first : Pipeline δ ρ) (grid : Resolution) (limit settled : Nat) : Prop where
  /-- The last reading failed. -/
  last : (first.outcomes grid settled).getLast? = some .failure
  /-- There had been enough failures by then. -/
  reached : streak (first.outcomes grid settled) = max 1 limit
  /-- There had not been before. -/
  below : ∀ n < settled, streak (first.outcomes grid n) < max 1 limit

/-- Who has the pipeline of a stream, and how often its device has been read, when so many readings
have been settled. -/
inductive Stage (first : Pipeline δ ρ) (grid : Resolution) (limit settled : Nat) :
    Capture δ ρ → Prop where
  /-- The loop waits for the next reading. -/
  | waiting {loop : CaptureLoop} (reading : loop.reading = none)
    (goesOn : GoesOn first grid limit settled loop) :
    Stage first grid limit settled (.running (first.later settled) loop)
  /-- A reading is under way. -/
  | reading {loop : CaptureLoop} {reading : Reading} (under_way : loop.reading = some reading)
    (verdict : Verdict.ofResult reading.result = first.outcome grid settled)
    (goesOn : GoesOn first grid limit settled loop) :
    Stage first grid limit settled (.running (first.later (settled + 1)) loop)
  /-- The loop has given up, and its device is closed. -/
  | ended (gaveUp : GaveUp first grid limit settled) :
    Stage first grid limit settled (.finished (first.later settled).close)

/-- What is true of a hub whose stream is left alone. -/
structure Tally (first : Pipeline δ ρ) (grid : Resolution) (limit settled : Nat) (hub : Hub δ ρ) :
    Prop where
  stage : Stage first grid limit settled hub.capture
  streaming_eq : hub.streaming = hub.capture.loop?.isSome
  tells : hub.counters.Tells (first.outcomes grid settled)

variable {first : Pipeline δ ρ} {grid : Resolution} {limit settled : Nat} {hub : Hub δ ρ}

private theorem startStreaming_ok {cameraIndex fps : UInt32} {resolution : String} {now : Nat}
    {opened : Hub δ ρ} (lowered : hub.isStreaming = false)
    (started : hub.startStreaming now cameraIndex resolution fps = (.ok (), opened)) :
    ∃ grid pipeline loop, Resolution.ofText? resolution = some grid ∧
      opened.capture = .running pipeline loop ∧ loop.settings.resolution = grid ∧
      loop.maxFailures = opened.config.maxConsecutiveFailures ∧ loop.failures = 0 ∧
      loop.reading = none ∧ opened.streaming = true ∧ opened.counters = .begin now := by
  cases accepted : accept hub.config cameraIndex resolution fps with
  | error refusal =>
    rw [startStreaming_of_refusal now lowered accepted] at started
    cases started
  | ok settings =>
    obtain ⟨grid, read, -, -, rfl⟩ := accept_eq_ok_iff.mp accepted
    unfold startStreaming at started
    rw [if_neg (by rw [lowered]; decide), accepted] at started
    dsimp only at started
    split at started
    · cases started
    · cases started
      exact ⟨grid, _, _, read, rfl, rfl, rfl, rfl, rfl, rfl, rfl⟩

theorem tally_startStreaming {cameraIndex fps : UInt32} {resolution : String} {now : Nat}
    {opened : Hub δ ρ} (lowered : hub.isStreaming = false)
    (started : hub.startStreaming now cameraIndex resolution fps = (.ok (), opened)) :
    ∃ grid, Resolution.ofText? resolution = some grid ∧
      Tally opened.capture.pipeline grid opened.config.maxConsecutiveFailures.toNat 0 opened := by
  obtain ⟨grid, pipeline, loop, read, capture, grid_eq, limit_eq, failures_eq, waiting, raised,
    counters⟩ := startStreaming_ok lowered started
  refine ⟨grid, read, ?_, ?_, ?_⟩
  · rw [capture]
    refine .waiting waiting ⟨grid_eq, by rw [limit_eq], failures_eq, ?_⟩
    intro n none
    rw [Nat.le_zero.mp none]
    exact Nat.lt_of_lt_of_le Nat.zero_lt_one (Nat.le_max_left ..)
  · rw [raised, capture]
    rfl
  · rw [counters, Pipeline.outcomes_zero]
    exact Counters.tells_begin now

theorem Tally.read (h : Tally first grid limit settled hub) :
    Tally first grid limit settled hub.read := by
  obtain ⟨stage, streaming_eq, tells⟩ := h
  unfold Hub.read
  split
  · exact ⟨stage, streaming_eq, tells⟩
  · exact ⟨stage, streaming_eq, tells⟩
  · next pipeline loop capture =>
    split_ifs with busy
    · exact ⟨stage, streaming_eq, tells⟩
    · rw [capture] at stage streaming_eq
      cases stage with
      | waiting reading goesOn =>
        obtain ⟨verdict, later⟩ := first.capture_later grid settled
        rw [← goesOn.grid_eq] at verdict later
        refine ⟨?_, streaming_eq, tells⟩
        dsimp only
        rw [later]
        exact .reading rfl (goesOn.grid_eq ▸ verdict) { goesOn with }
      | reading under_way verdict goesOn =>
        rw [under_way] at busy
        exact (busy rfl).elim

theorem Tally.keep (h : Tally first grid limit settled hub) (now : Nat) :
    Tally first grid limit settled (hub.keep now) := by
  obtain ⟨stage, streaming_eq, tells⟩ := h
  unfold Hub.keep
  split
  · exact ⟨stage, streaming_eq, tells⟩
  · exact ⟨stage, streaming_eq, tells⟩
  · next pipeline loop capture =>
    split
    · next result offered =>
      have offering : Stage first grid limit settled
          (.running pipeline { loop with reading := some ⟨result, true⟩ }) := by
        rw [capture] at stage
        cases stage with
        | waiting reading goesOn => nomatch reading.symm.trans offered
        | reading under_way verdict goesOn =>
          cases under_way.symm.trans offered
          exact .reading rfl verdict { goesOn with }
      rw [capture] at streaming_eq
      dsimp only
      split <;> exact ⟨offering, streaming_eq, tells⟩
    · exact ⟨stage, streaming_eq, tells⟩
    · exact ⟨stage, streaming_eq, tells⟩

theorem GoesOn.next {loop later : CaptureLoop} (h : GoesOn first grid limit settled loop)
    (settings : later.settings = loop.settings) (maxFailures : later.maxFailures = loop.maxFailures)
    (failures : later.failures = streak (first.outcomes grid (settled + 1)))
    (few : later.failures < max 1 limit) : GoesOn first grid limit (settled + 1) later where
  grid_eq := settings ▸ h.grid_eq
  limit_eq := maxFailures ▸ h.limit_eq
  failures_eq := failures
  below n within := by
    rcases Nat.le_succ_iff.mp within with earlier | rfl
    · exact h.below n earlier
    · exact failures ▸ few

theorem GoesOn.gaveUp {loop : CaptureLoop} (h : GoesOn first grid limit settled loop)
    (failed : first.outcome grid settled = .failure) (enough : limit ≤ loop.failures + 1) :
    GaveUp first grid limit (settled + 1) where
  last := by rw [first.outcomes_succ, failed, List.getLast?_concat]
  reached := by
    have before := h.below settled (Nat.le_refl settled)
    rw [first.outcomes_succ, failed, streak_append_failure]
    rw [h.failures_eq] at enough
    omega
  below n within := h.below n (Nat.le_of_lt_succ within)

/-- When the consequences of a reading are drawn, it is settled, and its text is published. -/
theorem Tally.settle (h : Tally first grid limit settled hub) {pipeline : Pipeline δ ρ}
    {loop : CaptureLoop} {result : Except DeviceError (Option String)}
    (capture : hub.capture = .running pipeline loop)
    (offered : loop.reading = some ⟨result, true⟩) (floor : Floor) (now : Nat) :
    Tally first grid limit (settled + 1) (hub.conclude floor now).1 ∧
      hub.published? = (first.outcome grid settled).text? := by
  obtain ⟨stage, streaming_eq, tells⟩ := h
  rw [capture] at stage streaming_eq
  unfold Hub.conclude published?
  rw [capture]
  simp only [offered, Capture.loop?, Option.bind_some]
  cases stage with
  | waiting reading goesOn => nomatch reading.symm.trans offered
  | reading under_way verdict goesOn =>
    cases under_way.symm.trans offered
    replace tells := tells.note (first.outcome grid settled)
    rw [← first.outcomes_succ] at tells
    have outcomes := first.outcomes_succ grid settled
    rw [← verdict] at tells outcomes ⊢
    match result with
    | .ok (some text) =>
      have failures : 0 = streak (first.outcomes grid (settled + 1)) := by
        rw [outcomes]
        exact (streak_append_frame _ text).symm
      have few : 0 < max 1 limit := Nat.lt_of_lt_of_le Nat.zero_lt_one (Nat.le_max_left ..)
      exact ⟨⟨.waiting rfl (goesOn.next rfl rfl failures few), streaming_eq, tells⟩, rfl⟩
    | .ok none =>
      have failures : loop.failures = streak (first.outcomes grid (settled + 1)) := by
        rw [outcomes, goesOn.failures_eq]
        exact (streak_append_nothing _).symm
      have few : loop.failures < max 1 limit :=
        goesOn.failures_eq ▸ goesOn.below settled (Nat.le_refl settled)
      exact ⟨⟨.waiting rfl (goesOn.next rfl rfl failures few), streaming_eq, tells⟩, rfl⟩
    | .error error =>
      have failures : loop.failures + 1 = streak (first.outcomes grid (settled + 1)) := by
        rw [outcomes, goesOn.failures_eq]
        exact (streak_append_failure _).symm
      refine ⟨?_, rfl⟩
      unfold failCapture
      dsimp only
      split_ifs with enough
      · rw [goesOn.limit_eq] at enough
        exact ⟨.ended (goesOn.gaveUp verdict.symm enough), rfl, { tells with }⟩
      · rw [goesOn.limit_eq] at enough
        have few : loop.failures + 1 < max 1 limit := by omega
        exact ⟨.waiting rfl (goesOn.next rfl rfl failures few), streaming_eq, tells⟩

omit [FrameRenderer ρ] in
private theorem conclude_of_unpublished (unoffered : ∀ pipeline loop result,
    hub.capture = .running pipeline loop → loop.reading ≠ some ⟨result, true⟩) (floor : Floor)
    (now : Nat) : (hub.conclude floor now).1 = hub ∧ hub.published? = none := by
  unfold Hub.conclude published?
  cases capture : hub.capture with
  | idle pipeline => exact ⟨rfl, rfl⟩
  | finished pipeline => exact ⟨rfl, rfl⟩
  | running pipeline loop =>
    simp only [Capture.loop?, Option.bind_some]
    match offered : loop.reading with
    | none => exact ⟨rfl, rfl⟩
    | some ⟨result, false⟩ => exact ⟨rfl, rfl⟩
    | some ⟨result, true⟩ => exact (unoffered pipeline loop result capture offered).elim

/-- What has been settled only grows, and what is published is what is settled. -/
theorem Tally.conclude (h : Tally first grid limit settled hub) (floor : Floor) (now : Nat) :
    ∃ later, Tally first grid limit later (hub.conclude floor now).1 ∧
      first.texts grid later = first.texts grid settled ++ hub.published?.toList := by
  by_cases unoffered : ∀ pipeline loop result, hub.capture = .running pipeline loop →
      loop.reading ≠ some ⟨result, true⟩
  · obtain ⟨same, unpublished⟩ := conclude_of_unpublished unoffered floor now
    rw [same, unpublished]
    exact ⟨settled, h, (List.append_nil _).symm⟩
  · push Not at unoffered
    obtain ⟨pipeline, loop, result, capture, offered⟩ := unoffered
    obtain ⟨later, published⟩ := h.settle capture offered floor now
    refine ⟨settled + 1, later, ?_⟩
    rw [published, first.texts_succ]

theorem Tally.apply (h : Tally first grid limit settled hub) {command : Command}
    (alone : hub.leavesAlone command = true) :
    ∃ later, Tally first grid limit later (hub.apply command) ∧
      first.texts grid later = first.texts grid settled ++ (hub.publication? command).toList := by
  have silent {command : Command} (same : Tally first grid limit settled (hub.apply command))
      (unpublished : hub.publication? command = none) :
      ∃ later, Tally first grid limit later (hub.apply command) ∧
        first.texts grid later =
          first.texts grid settled ++ (hub.publication? command).toList := by
    rw [unpublished]
    exact ⟨settled, same, (List.append_nil _).symm⟩
  cases part : command.isReading with
  | false =>
    refine silent ?_ ?_
    · rw [apply_of_leavesAlone part alone]
      exact { h with }
    · cases command <;> first | rfl | nomatch part
  | true =>
    cases command with
    | read => exact silent h.read rfl
    | keep now => exact silent (h.keep now) rfl
    | conclude floor now => exact h.conclude floor now
    | _ => nomatch part

theorem Tally.run (h : Tally first grid limit settled hub) {commands : List Command}
    (alone : hub.leftAlone commands = true) :
    ∃ later, Tally first grid limit later (hub.run commands) ∧
      first.texts grid later = first.texts grid settled ++ hub.publications commands := by
  induction commands generalizing hub settled with
  | nil => exact ⟨settled, h, (List.append_nil _).symm⟩
  | cons command commands ih =>
    rw [leftAlone, Bool.and_eq_true] at alone
    obtain ⟨middle, step, text⟩ := h.apply alone.1
    obtain ⟨later, run, texts⟩ := ih step alone.2
    refine ⟨later, run, ?_⟩
    rw [texts, text, publications, List.append_assoc]

theorem Tally.streaming_iff (h : Tally first grid limit settled hub) : hub.isStreaming = true ↔
    ∀ n ≤ settled, streak (first.outcomes grid n) < max 1 limit := by
  have stage := h.stage
  rw [isStreaming, h.streaming_eq]
  generalize hub.capture = capture at stage ⊢
  cases stage with
  | waiting reading goesOn => exact iff_of_true rfl goesOn.below
  | reading under_way verdict goesOn => exact iff_of_true rfl goesOn.below
  | ended gaveUp =>
    refine iff_of_false nofun fun below ↦ ?_
    exact (below settled (Nat.le_refl settled)).ne gaveUp.reached

/-- A loop that waits for its next reading settles it, if it is not interrupted, and publishes what
has come of it. -/
theorem Tally.round (h : Tally first grid limit settled hub) (raised : hub.isStreaming = true)
    (rested : hub.Rested) (floor : Floor) (keptAt concludedAt : Nat) :
    Tally first grid limit (settled + 1)
        (hub.run [.read, .keep keptAt, .conclude floor concludedAt]) ∧
      hub.publications [.read, .keep keptAt, .conclude floor concludedAt] =
        (first.outcome grid settled).text?.toList := by
  obtain ⟨pipeline, loop, capture⟩ : ∃ pipeline loop, hub.capture = .running pipeline loop := by
    have running : hub.capture.loop?.isSome = true := h.streaming_eq.symm.trans raised
    cases capture : hub.capture with
    | idle pipeline => rw [capture] at running; nomatch running
    | running pipeline loop => exact ⟨pipeline, loop, rfl⟩
    | finished pipeline => rw [capture] at running; nomatch running
  have offered := keep_read_of_running capture (rested loop (by rw [capture]; rfl)) keptAt
  obtain ⟨done, published⟩ :=
    (h.read.keep keptAt).settle (by rw [offered]) rfl floor concludedAt
  refine ⟨done, ?_⟩
  rw [← published]
  exact List.append_nil _

end

/-! ## What is promised -/

section

variable [CaptureDevice δ] [FrameRenderer ρ]

/-- The reading that is under way. -/
def reading? (hub : Hub δ ρ) : Option Reading := hub.capture.loop?.bind (·.reading)

/-- What is true of a stream that was opened and then left alone, when so many readings have been
settled. -/
structure Reckoned (grid : Resolution) (opened : Hub (Logged δ) ρ) (commands : List Command)
    (settled : Nat) : Prop where
  /-- The account begins anew. -/
  fresh : opened.counters.captured = 0 ∧ opened.counters.skipped = 0 ∧ opened.counters.errors = 0
  /-- The device has been read so often since, and once more if a reading is under way. -/
  captures : (opened.run commands).capture.pipeline.device.readings =
    opened.capture.pipeline.device.readings + settled +
      if (opened.run commands).reading?.isSome then 1 else 0
  /-- The counters are the numbers of the frames, of the times there was nothing, and of the
  failures. -/
  tells : (opened.run commands).counters.Tells (opened.capture.pipeline.outcomes grid settled)
  /-- They add up to all that have been settled. -/
  total : (opened.run commands).counters.captured + (opened.run commands).counters.skipped +
    (opened.run commands).counters.errors = settled
  /-- The loop has published the frames, each once and in their order. -/
  published : opened.publications commands = opened.capture.pipeline.texts grid settled
  /-- To publish a text is to send it to the viewers, and nothing else sends them anything when a
  reading is settled. -/
  sent : ∀ first floor now rest, commands = first ++ .conclude floor now :: rest →
    let hub := opened.run first
    (hub.conclude floor now).2 = match hub.published? with
      | some text => (hub.roster.broadcast floor text).2.2
      | none => floor
  /-- The stream is running as long as there have not been too many failures without a frame. -/
  streaming_iff : (opened.run commands).isStreaming = true ↔
    ∀ n ≤ settled, streak (opened.capture.pipeline.outcomes grid n) <
      max 1 opened.config.maxConsecutiveFailures.toNat
  /-- If it has ended, then with the failure that was the first to be too many; and the device is
  closed. -/
  gaveUp : (opened.run commands).isStreaming = false →
    GaveUp opened.capture.pipeline grid opened.config.maxConsecutiveFailures.toNat settled ∧
      CaptureDevice.isOpen (opened.run commands).capture.pipeline.device = false
  /-- As long as it has not, the device can be read again, and the reading will be settled. -/
  goesOn : (opened.run commands).isStreaming = true → (opened.run commands).reading? = none →
    ∀ floor keptAt concludedAt,
      let later := (opened.run commands).run [.read, .keep keptAt, .conclude floor concludedAt]
      later.capture.pipeline.device.readings =
        (opened.run commands).capture.pipeline.device.readings + 1 ∧ later.reading? = none

variable {opened hub : Hub (Logged δ) ρ} {grid : Resolution} {limit settled : Nat}
  {commands : List Command}

theorem Tally.captures {first : Pipeline (Logged δ) ρ}
    (h : Tally first grid limit settled hub) : hub.capture.pipeline.device.readings =
      first.device.readings + settled + if hub.reading?.isSome then 1 else 0 := by
  have stage := h.stage
  unfold reading?
  generalize hub.capture = capture at stage ⊢
  cases stage with
  | waiting reading goesOn =>
    rw [Capture.loop?, Option.bind_some, reading]
    exact first.readings_later settled
  | reading under_way verdict goesOn =>
    rw [Capture.loop?, Option.bind_some, under_way]
    exact first.readings_later (settled + 1)
  | ended gaveUp =>
    exact (Logged.readings_append _ _ [.close]).trans (first.readings_later settled)

omit [CaptureDevice δ] [FrameRenderer ρ] in
private theorem reading?_eq_none : hub.reading? = none ↔ hub.Rested := by
  rw [reading?, Option.bind_eq_none_iff]
  rfl

theorem Tally.goesOn {first : Pipeline (Logged δ) ρ} (h : Tally first grid limit settled hub)
    (raised : hub.isStreaming = true) (waiting : hub.reading? = none) (floor : Floor)
    (keptAt concludedAt : Nat) :
    let later := hub.run [.read, .keep keptAt, .conclude floor concludedAt]
    later.capture.pipeline.device.readings = hub.capture.pipeline.device.readings + 1 ∧
      later.reading? = none := by
  intro later
  have rested : hub.Rested := reading?_eq_none.mp waiting
  have done : Tally first grid limit (settled + 1) later :=
    (h.round raised rested floor keptAt concludedAt).1
  have drawn : later.reading? = none :=
    reading?_eq_none.mpr (rested.round (.reading floor keptAt concludedAt))
  have before := h.captures
  have after := done.captures
  rw [waiting] at before
  rw [drawn] at after
  refine ⟨?_, drawn⟩
  rw [after, before]
  rfl

theorem Tally.gaveUp [LawfulDevice δ] {first : Pipeline (Logged δ) ρ}
    (h : Tally first grid limit settled hub) (lowered : hub.isStreaming = false) :
    GaveUp first grid limit settled ∧ CaptureDevice.isOpen hub.capture.pipeline.device = false := by
  have stage := h.stage
  rw [isStreaming, h.streaming_eq] at lowered
  generalize hub.capture = capture at stage lowered ⊢
  cases stage with
  | waiting reading goesOn => nomatch lowered
  | reading under_way verdict goesOn => nomatch lowered
  | ended gaveUp => exact ⟨gaveUp, LawfulDevice.isOpen_close (first.later settled).device⟩

/-- Whatever a hub did before, and whatever its device and its renderer do: a stream that is left
alone is decided by what their answers come to. -/
theorem reckoned_run [LawfulDevice δ] (before : Hub (Logged δ) ρ) {cameraIndex fps : UInt32}
    {resolution : String} {now : Nat} (lowered : before.isStreaming = false)
    (started : before.startStreaming now cameraIndex resolution fps = (.ok (), opened))
    (alone : opened.leftAlone commands = true) :
    ∃ grid settled, Resolution.ofText? resolution = some grid ∧
      Reckoned grid opened commands settled := by
  obtain ⟨grid, read, start⟩ := tally_startStreaming lowered started
  obtain ⟨settled, tally, texts⟩ := start.run alone
  refine ⟨grid, settled, read, ?_⟩
  exact {
    fresh := ⟨start.tells.captured, start.tells.skipped, start.tells.errors⟩
    captures := tally.captures
    tells := tally.tells
    total := tally.tells.total.trans (opened.capture.pipeline.length_outcomes grid settled)
    published := texts.symm
    sent := fun first floor now rest _ ↦ ((opened.run first).conclude_eq_broadcast floor now).1
    streaming_iff := tally.streaming_iff
    gaveUp := tally.gaveUp
    goesOn := tally.goesOn }

/-- A hub that gives up at the second failure, and whose device fails three times in all. -/
def failing : Hub (Logged ScriptedDevice) LabelRenderer :=
  new { device := { script := [.fail "busy", .empty, .frame 7, .fail "busy", .empty,
    .crash "unplugged", .frame 9] } } {} { maxConsecutiveFailures := 2 } .empty

/-- A whole reading. -/
def wholeReading : List Command := [.read, .keep 0, .conclude {} 0]

/-- The frame undoes the first failure, and the empty frames undo nothing. -/
theorem reckoned_failing :
    let opened := (failing.startStreaming 0 0 "2x1" 10).2
    let commands := (List.replicate 4 wholeReading).flatten ++ [.addViewer 1 0] ++
      (List.replicate 5 wholeReading).flatten
    failing.isStreaming = false ∧
      failing.startStreaming 0 0 "2x1" 10 = (.ok (), opened) ∧
      opened.leftAlone commands = true ∧
      (opened.run commands).isStreaming = false ∧
      (∃ grid settled, Resolution.ofText? "2x1" = some grid ∧
        Reckoned grid opened commands settled) ∧
      (opened.run commands).counters = ⟨1, 2, 3, some 0, some 0⟩ ∧
      opened.publications commands = ["frame 7 2x1"] := by
  intro opened commands
  have started : failing.startStreaming 0 0 "2x1" 10 = (.ok (), opened) := Prod.ext rfl rfl
  have alone : opened.leftAlone commands = true := by decide +kernel
  exact ⟨rfl, started, alone, by decide +kernel, reckoned_run failing rfl started alone,
    by decide +kernel, by decide +kernel⟩

end

end Hub

end Glyphcast
