import Glyphcast.Proofs.Hub.Start
import Glyphcast.Proofs.Station.Run

/-!
# What is left open by a request

A request for a stream may leave open the grid and the rate, and then those of the hub's settings
are used. The settings have a grid and a request has a text, so what is put in the request's place
is the grid's text, which is read like any other. Nothing is lost on the way: a size without a side
of zero is read back from its text, and so a stream that was started without a word about its grid
is on the grid that was set, and at the rate that was set.

A grid with a side of zero can be set, too, and is refused as it would be if it were asked for.
-/

namespace Glyphcast

open Resolution (Laid)
open Text (isBlank trim)

namespace Hub

variable {δ ρ : Type} {config : HubConfig} {cameraIndex fps : UInt32} {resolution other : String}
  {grid : Resolution}

/-- It does not matter how a grid is written that is not too large. -/
theorem accept_congr (read : Resolution.parse resolution = .ok grid)
    (read' : Resolution.parse other = .ok grid)
    (fits : grid.fitsWithin config.maxResolution = true) :
    accept config cameraIndex resolution fps = accept config cameraIndex other fps := by
  rw [Resolution.parse_eq_ok_iff, ← Resolution.ofText?_eq_some_iff] at read read'
  have small : ¬grid.fitsWithin config.maxResolution = false := by
    rw [fits]
    decide
  rw [accept_eq, accept_eq, read, read']
  dsimp only
  rw [if_neg small, if_neg small]

variable [CaptureDevice δ] [FrameRenderer ρ] {hub opened : Hub δ ρ}

private theorem startStreaming_congr (same : accept hub.config cameraIndex resolution fps =
    accept hub.config cameraIndex other fps) (now : Nat) :
    hub.startStreaming now cameraIndex resolution fps =
      hub.startStreaming now cameraIndex other fps := by
  rw [startStreaming, startStreaming, same]

/-- A stream is started with what was asked for. -/
theorem settings_startStreaming {now : Nat} (lowered : hub.isStreaming = false)
    (started : (hub.startStreaming now cameraIndex resolution fps).1 = .ok ()) :
    ∃ grid, Resolution.parse resolution = .ok grid ∧
      (hub.startStreaming now cameraIndex resolution fps).2.settings =
        some ⟨cameraIndex, grid, fps⟩ := by
  cases accepted : accept hub.config cameraIndex resolution fps with
  | error refusal =>
    rw [startStreaming_of_refusal now lowered accepted] at started
    cases started
  | ok settings =>
    obtain ⟨grid, read, -, -, rfl⟩ := accept_eq_ok_iff.mp accepted
    refine ⟨grid, ?_, ?_⟩
    · rwa [Resolution.parse_eq_ok_iff, ← Resolution.ofText?_eq_some_iff]
    · unfold startStreaming at started ⊢
      rw [if_neg (by rw [lowered]; decide), accepted] at started ⊢
      dsimp only at started ⊢
      generalize (hub.join now).capture.pipeline.start _ _ _ = outcome at started ⊢
      obtain ⟨result, pipeline⟩ := outcome
      cases result with
      | error cause => cases started
      | ok done => rfl

end Hub

/-! ## What a message asks for -/

namespace Message

/-- What is asked for, if it is a stream. -/
def request? : Message → Option (UInt32 × Option String × Option UInt32)
  | config cameraIndex resolution fps => some (cameraIndex, resolution, fps)
  | _ => none

private theorem eq_of_request? {message : Option Message} {cameraIndex : UInt32}
    {resolution : Option String} {fps : Option UInt32}
    (h : message.bind request? = some (cameraIndex, resolution, fps)) :
    message = some (.config cameraIndex resolution fps) := by
  obtain ⟨asked, rfl, request⟩ := Option.bind_eq_some_iff.mp h
  cases asked with
  | config index grid rate =>
    cases request
    rfl
  | _ => cases request

end Message

namespace Station

variable {δ ρ : Type} [CaptureDevice δ] [FrameRenderer ρ] {station : Station δ ρ}
  {now : Nat} {stamp : Recording.Stamp} {number : SeatNumber} {text other : String}

/-! ## One request in other words -/

/-- Texts are answered alike if their messages are. -/
theorem handleText_congr {message message' : Message} (parsed : Message.parse? text = some message)
    (parsed' : Message.parse? other = some message')
    (same : ∀ session, station.dispatch now stamp number session message =
      station.dispatch now stamp number session message') :
    station.handleText now stamp number text = station.handleText now stamp number other := by
  unfold handleText
  rw [parsed, parsed']
  cases station.floor.seat? number with
  | none => rfl
  | some seat =>
    dsimp only
    rw [same]

private theorem dispatch_config_congr {cameraIndex : UInt32}
    {resolution resolution' : Option String} {fps fps' : Option UInt32}
    (same : station.hub.startStreaming now cameraIndex
        (resolution.getD station.hub.config.defaultResolution.text)
        (fps.getD station.hub.config.defaultFps) =
      station.hub.startStreaming now cameraIndex
        (resolution'.getD station.hub.config.defaultResolution.text)
        (fps'.getD station.hub.config.defaultFps)) (session : Session) :
    station.dispatch now stamp number session (.config cameraIndex resolution fps) =
      station.dispatch now stamp number session (.config cameraIndex resolution' fps') := by
  have answers : station.configure now number session cameraIndex resolution fps =
      station.configure now number session cameraIndex resolution' fps' := by
    rw [configure, configure, command, command, same]
  simp only [dispatch, perform, answers]
  rfl

/-- A request that was met was a request that could be read, and of a controller. -/
theorem startStreaming_of_applied {cameraIndex : UInt32} {resolution : Option String}
    {fps : Option UInt32} (parsed : Message.parse? text = some (.config cameraIndex resolution fps))
    (applied : (station.handleText now stamp number text).1 = [.configApplied]) :
    let started := station.hub.startStreaming now cameraIndex
      (resolution.getD station.hub.config.defaultResolution.text)
      (fps.getD station.hub.config.defaultFps)
    started.1 = .ok () ∧
      (station.handleText now stamp number text).2.hub.settings = started.2.settings := by
  intro started
  cases found : station.floor.seat? number with
  | none =>
    rw [handleText, found] at applied
    cases applied
  | some seat =>
    obtain ⟨replies, answered, answers, handled⟩ :=
      station.handleText_cases now stamp number found text
    rw [handled] at applied ⊢
    rw [parsed] at answers
    cases answers with
    | unknown _ => cases applied
    | performed _ _ =>
      simp only [perform, configure, command] at applied ⊢
      rcases result : started.1 with refusal | done
      · rw [result] at applied
        cases applied
      · exact ⟨rfl, rfl⟩

/-! ## What is promised -/

/-- What is promised of sizes as texts, and of what a request for a stream leaves open. -/
structure Defaulted (station : Station δ ρ) : Prop where
  /-- A size is read from a text that, once it is trimmed and cut at the first `x` or `X`, has a
  numeral in each part, in white space or not, of a positive number below `2 ^ 32`; and it is the
  size of these two numbers. -/
  parse_iff : ∀ (text : String) (grid : Resolution), Resolution.parse text = .ok grid ↔
    ∃ width times height n m, trim text.toList = width ++ times :: height ∧
      (times = 'x' ∨ times = 'X') ∧ (∀ c ∈ width, ¬(c = 'x' ∨ c = 'X')) ∧
      (Decimal.Spells (trim width) n ∧ 1 ≤ n ∧ n < UInt32.size) ∧
      (Decimal.Spells (trim height) m ∧ 1 ≤ m ∧ m < UInt32.size) ∧
      grid.width.toNat = n ∧ grid.height.toNat = m
  /-- This is so just if it is laid out in the text. -/
  laid_iff : ∀ text grid, Resolution.parse text = .ok grid ↔ Laid text grid
  /-- Any other text is refused, and is told in the refusal. -/
  refused : ∀ text, (∀ grid, ¬Laid text grid) →
    Resolution.parse text = .error (.invalidResolution text)
  /-- A size without a side of zero is read back from its text. -/
  parse_text : ∀ grid : Resolution, 0 < grid.width → 0 < grid.height →
    Resolution.parse grid.text = .ok grid
  /-- A request that leaves something open is answered like the one that has the settings' own in
  its place, and the same comes of it. -/
  spelledOut : ∀ now stamp number text full cameraIndex resolution fps,
    Message.parse? text = some (.config cameraIndex resolution fps) →
    Message.parse? full = some (.config cameraIndex
      (some (resolution.getD station.hub.config.defaultResolution.text))
      (some (fps.getD station.hub.config.defaultFps))) →
    station.handleText now stamp number text = station.handleText now stamp number full
  /-- If the grid of the settings is not too large, any text for it will do. -/
  respelled : ∀ now stamp number text full cameraIndex resolution fps,
    Resolution.parse resolution = .ok station.hub.config.defaultResolution →
    station.hub.config.defaultResolution.fitsWithin station.hub.config.maxResolution = true →
    Message.parse? text = some (.config cameraIndex none fps) →
    Message.parse? full = some (.config cameraIndex (some resolution) fps) →
    station.handleText now stamp number text = station.handleText now stamp number full
  /-- A stream that was not running, and is started by a request that leaves both open, is on the
  grid of the settings and at their rate. -/
  started : ∀ now stamp number text cameraIndex,
    Message.parse? text = some (.config cameraIndex none none) →
    station.hub.isStreaming = false →
    (station.handleText now stamp number text).1 = [.configApplied] →
    (station.handleText now stamp number text).2.hub.settings =
      some ⟨cameraIndex, station.hub.config.defaultResolution, station.hub.config.defaultFps⟩

/-- Whatever the settings are, and whatever the hub is doing. -/
theorem defaulted_config (station : Station δ ρ) : station.Defaulted where
  parse_iff text grid := by
    rw [Resolution.parse_eq_ok_iff]
    constructor
    · rintro ⟨width, times, height, parts, separates, free, ⟨wide, wide_pos⟩, high, high_pos⟩
      exact ⟨width, times, height, _, _, parts, separates, free,
        ⟨wide, UInt32.lt_iff_toNat_lt.mp wide_pos, grid.width.toNat_lt_size⟩,
        ⟨high, UInt32.lt_iff_toNat_lt.mp high_pos, grid.height.toNat_lt_size⟩, rfl, rfl⟩
    · rintro ⟨width, times, height, _, _, parts, separates, free, ⟨wide, wide_pos, -⟩,
        ⟨high, high_pos, -⟩, rfl, rfl⟩
      exact ⟨width, times, height, parts, separates, free,
        ⟨wide, UInt32.lt_iff_toNat_lt.mpr wide_pos⟩, high, UInt32.lt_iff_toNat_lt.mpr high_pos⟩
  laid_iff text grid := Resolution.parse_eq_ok_iff.trans Resolution.spelled_iff_laid
  refused text unlaid := Resolution.parse_eq_error_iff.mpr
    ⟨fun grid spelled ↦ unlaid grid (Resolution.spelled_iff_laid.mp spelled), rfl⟩
  parse_text grid wide high := Resolution.parse_text_eq_ok_iff.mpr ⟨rfl, wide, high⟩
  spelledOut _ _ _ _ _ _ _ _ parsed parsed' :=
    handleText_congr parsed parsed' (dispatch_config_congr rfl)
  respelled now _ _ _ _ cameraIndex resolution fps read fits parsed parsed' := by
    have positive := (Resolution.parse_eq_ok_iff.mp read).pos
    have same : Hub.accept station.hub.config cameraIndex
        station.hub.config.defaultResolution.text (fps.getD station.hub.config.defaultFps) =
          Hub.accept station.hub.config cameraIndex resolution
            (fps.getD station.hub.config.defaultFps) :=
      Hub.accept_congr (Resolution.parse_text_eq_ok_iff.mpr ⟨rfl, positive⟩) read fits
    exact handleText_congr parsed parsed'
      (dispatch_config_congr (Hub.startStreaming_congr same now))
  started now stamp number text cameraIndex parsed lowered applied := by
    obtain ⟨granted, settings⟩ := startStreaming_of_applied parsed applied
    obtain ⟨grid, read, started⟩ := Hub.settings_startStreaming lowered granted
    -- the grid was written and read again, and since it could be read it is the same
    obtain ⟨rfl, -⟩ := Resolution.parse_text_eq_ok_iff.mp read
    exact settings.trans started

/-- A station whose first session is the controller. -/
def controlled : Station ScriptedDevice LabelRenderer :=
  rehearsal.run [.connect 1 10 0,
    .text 0 ⟨2026, 1, 1, 12, 0, 0⟩ 0 "[\"auth\",\"k3y\",\"controller\"]"]

/-- A request of one word starts the stream that could have been asked for in full. -/
theorem defaulted_controlled :
    controlled.Defaulted ∧
      (controlled.handleText 5 ⟨2026, 1, 1, 12, 0, 5⟩ 0 "[\"config\"]").1 = [.configApplied] ∧
      (controlled.handleText 5 ⟨2026, 1, 1, 12, 0, 5⟩ 0 "[\"config\"]").2.hub.settings =
        some ⟨0, ⟨120, 90⟩, 10⟩ ∧
      controlled.handleText 5 ⟨2026, 1, 1, 12, 0, 5⟩ 0 "[\"config\"]" =
        controlled.handleText 5 ⟨2026, 1, 1, 12, 0, 5⟩ 0 "[\"config\",0,\"120x90\",10]" := by
  have grid : controlled.hub.config.defaultResolution = ⟨120, 90⟩ := by decide +kernel
  have rate : controlled.hub.config.defaultFps = 10 := by decide +kernel
  have parsed : Message.parse? "[\"config\"]" = some (.config 0 none none) :=
    Message.eq_of_request? (by decide +kernel)
  have parsed' : Message.parse? "[\"config\",0,\"120x90\",10]" =
      some (.config 0 (some (Resolution.text ⟨120, 90⟩)) (some 10)) :=
    Message.eq_of_request? (by decide +kernel)
  have applied : (controlled.handleText 5 ⟨2026, 1, 1, 12, 0, 5⟩ 0 "[\"config\"]").1 =
      [.configApplied] := by decide +kernel
  have promised := defaulted_config controlled
  have settings := promised.started 5 _ 0 _ 0 parsed (by decide +kernel) applied
  have same := promised.spelledOut 5 ⟨2026, 1, 1, 12, 0, 5⟩ 0 _
    "[\"config\",0,\"120x90\",10]" 0 none none parsed
  rw [grid, rate] at settings same
  exact ⟨promised, applied, settings, same parsed'⟩

end Station

end Glyphcast
