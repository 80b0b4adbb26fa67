import Glyphcast.Proofs.Hub.Lifecycle

/-!
# What a stop leaves

Whatever happened before, a hub that has been stopped streams nothing, its device is closed, and
its pipeline is at hand; stopping it once more changes nothing.

The viewers are another matter. A stop forgets them where it ends a loop, or fetches the pipeline
from one that gave up. Where the pipeline is at hand already the stop does nothing at all, and
whoever is a viewer stays one.
-/

namespace Glyphcast.Hub

variable {δ ρ : Type} [CaptureDevice δ]

/-! ## The two cases -/

section

variable {hub : Hub δ ρ}

theorem stopStreaming_of_atHand (atHand : hub.capture.hasLoop = false) (now : Nat) :
    hub.stopStreaming now = hub := by
  unfold stopStreaming
  rw [if_neg (by rw [atHand]; decide)]

theorem stopStreaming_of_hasLoop (hasLoop : hub.capture.hasLoop = true) (now : Nat) :
    hub.stopStreaming now = { hub.join now with roster := (hub.join now).roster.clear } := by
  unfold stopStreaming
  rw [if_pos hasLoop]

/-- Whoever waits for the loop has the pipeline at hand afterwards. -/
theorem hasLoop_join (hub : Hub δ ρ) (now : Nat) : (hub.join now).capture.hasLoop = false := by
  unfold join
  cases capture : hub.capture with
  | idle pipeline =>
    dsimp only
    rw [capture]
    rfl
  | running pipeline loop => rfl
  | finished pipeline => rfl

theorem hasLoop_stopStreaming (hub : Hub δ ρ) (now : Nat) :
    (hub.stopStreaming now).capture.hasLoop = false := by
  cases hasLoop : hub.capture.hasLoop with
  | false => rwa [stopStreaming_of_atHand hasLoop]
  | true =>
    rw [stopStreaming_of_hasLoop hasLoop]
    exact hub.hasLoop_join now

omit [CaptureDevice δ] in
theorem capture_eq_idle (atHand : hub.capture.hasLoop = false) :
    hub.capture = .idle hub.capture.pipeline := by
  cases capture : hub.capture with
  | idle pipeline => rfl
  | running pipeline loop => rw [capture] at atHand; cases atHand
  | finished pipeline => rw [capture] at atHand; cases atHand

/-- The one exception: a stop that finds the pipeline at hand leaves the viewers there are. -/
theorem viewers_stopStreaming_iff (now : Nat) :
    (hub.stopStreaming now).roster.viewers = [] ↔
      hub.capture.hasLoop = true ∨ hub.roster.viewers = [] := by
  cases hasLoop : hub.capture.hasLoop with
  | false =>
    rw [stopStreaming_of_atHand hasLoop]
    exact ⟨.inr, fun h ↦ h.resolve_left (by decide)⟩
  | true =>
    rw [stopStreaming_of_hasLoop hasLoop]
    exact ⟨fun _ ↦ .inl rfl, fun _ ↦ rfl⟩

end

/-! ## Every stop of every run -/

/-- What a stop makes of a hub. -/
structure Stopped (before after : Hub (Metered δ) ρ) : Prop where
  /-- No stream is running. -/
  lowered : after.isStreaming = false
  /-- The device is closed. -/
  closed : CaptureDevice.isOpen after.capture.pipeline.device.device = false
  /-- The pipeline is at hand for the next stream. -/
  atHand : after.capture = .idle after.capture.pipeline
  /-- Nobody is a viewer if there was a loop to be ended, or nobody was one before. -/
  viewers_iff : after.roster.viewers = [] ↔
    before.capture.hasLoop = true ∨ before.roster.viewers = []
  /-- The controller's slot, the recording and the playback are what they were. -/
  sameBooks : before.SameBooks after
  /-- If there was no loop, nothing has happened. -/
  unchanged : before.capture.hasLoop = false → after = before
  /-- A second stop, whenever it comes, changes nothing. -/
  again : ∀ later, after.stopStreaming later = after

variable {config : HubConfig} {hub : Hub (Metered δ) ρ}

theorem Orderly.stopped [LawfulDevice δ] (h : hub.Orderly config) (now : Nat) :
    hub.Stopped (hub.stopStreaming now) := by
  have later := h.stopStreaming now
  have atHand := hub.hasLoop_stopStreaming now
  have noLoop : (hub.stopStreaming now).capture.loop? = none := by
    rw [capture_eq_idle atHand]
    rfl
  exact {
    lowered := later.streaming_of_loop noLoop
    closed := (later.shut noLoop).isOpen
    atHand := capture_eq_idle atHand
    viewers_iff := viewers_stopStreaming_iff now
    sameBooks := hub.sameBooks_stopStreaming now
    unchanged := fun hasLoop ↦ stopStreaming_of_atHand hasLoop now
    again := stopStreaming_of_atHand atHand }

/-- Whatever was done to a hub before, and whatever its device and its renderer did, a stop ends
the stream and closes the device, and a second one changes nothing. -/
theorem stopped_run [LawfulDevice δ] [FrameRenderer ρ] (device : δ) (renderer : ρ)
    (config : HubConfig) (disk : Recording.Disk) (shut : CaptureDevice.isOpen device = false)
    (commands : List Command) (now : Nat) :
    ((new { device : Metered δ } renderer config disk).run commands).Stopped
      (((new { device : Metered δ } renderer config disk).run commands).stopStreaming now) :=
  ((orderly_new renderer config disk shut).run commands).stopped now

/-- A stream with a viewer gives up by itself and is stopped afterwards. -/
theorem stopped_gaveUp :
    CaptureDevice.isOpen ({ script := [.crash "gone"] } : ScriptedDevice) = false ∧
    ((new { device := ({ script := [.crash "gone"] } : ScriptedDevice) }
      ({} : LabelRenderer) { maxConsecutiveFailures := 1 } .empty).run
        [.addViewer 1 0, .startStreaming 0 0 "8x4" 10, .read, .keep 100, .conclude {} 100]).Stopped
      (((new { device := ({ script := [.crash "gone"] } : ScriptedDevice) }
        ({} : LabelRenderer) { maxConsecutiveFailures := 1 } .empty).run
          [.addViewer 1 0, .startStreaming 0 0 "8x4" 10, .read, .keep 100,
            .conclude {} 100]).stopStreaming 200) :=
  ⟨rfl, stopped_run _ _ _ _ rfl _ _⟩

/-- A viewer who comes before the first stream is still one after a stop. -/
theorem viewers_stop_idle :
    (((new ({ device := {} } : Metered ScriptedDevice) ({} : LabelRenderer) {} .empty).run
      [.addViewer 1 0]).stopStreaming 0).roster.viewers = [(1, 0)] := rfl

end Glyphcast.Hub
