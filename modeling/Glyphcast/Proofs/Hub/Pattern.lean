import Glyphcast.Proofs.Device.Pattern
import Glyphcast.Proofs.Hub.Accounting
import Glyphcast.Proofs.Renderer.Drawing

/-!
# Streams of the test pattern

A request for a stream passes two limits on its size, and they are not the same. The hub holds the
grid against the largest that it allows, side by side. The device is asked for frames that are a
multiple of the grid, so that the sides may grow until they no longer fit their numbers, and it
counts the pixels. `Feasible` is all of it, in terms of the request and the settings alone. What was
done to the hub before plays no part.

A stream that has started never fails, so it goes on for as long as it is left alone, and what it
shows is decided when it starts. The frame with the number `n` is `patternText config grid n`.
-/

namespace Glyphcast

/-! ## What may be asked for -/

/-- How many pixels the frames for a grid have. A side of them is a multiple of the grid's; one that
would grow too large stays at the largest value, and one of zero is made one. -/
def Resolution.pixels (grid : Resolution) (oversample : UInt32) : Nat :=
  max (min (grid.width.toNat * oversample.toNat) (2 ^ 32 - 1)) 1 *
    max (min (grid.height.toNat * oversample.toNat) (2 ^ 32 - 1)) 1

private theorem area_sizeFor_scaled (grid : Resolution) (oversample : UInt32) :
    (PatternDevice.sizeFor (grid.scaled oversample)).area = grid.pixels oversample := by
  rw [Resolution.area, PatternDevice.sizeFor, UInt32.toNat_max, UInt32.toNat_max,
    Resolution.scaled, Resolution.toNat_saturatingMul, Resolution.toNat_saturatingMul]
  rfl

/-- A request for a stream of the test pattern on this grid that can be met. -/
structure Feasible (config : HubConfig) (cameraIndex : UInt32) (resolution : String)
    (fps : UInt32) (grid : Resolution) : Prop where
  /-- The text says this grid. -/
  read : Resolution.ofText? resolution = some grid
  /-- Neither of its sides exceeds the largest that is allowed. -/
  fits : grid.width ≤ config.maxResolution.width ∧ grid.height ≤ config.maxResolution.height
  /-- There are frames to be shown. -/
  paced : 0 < fps
  /-- It is the test pattern that is asked for. -/
  index : cameraIndex = 0
  /-- The device can make the frames. -/
  pixels : grid.pixels config.oversample ≤ 4096 * 4096

/-! ## What is shown -/

section

open PatternDevice

variable (config : HubConfig) (grid : Resolution)

/-- The pipeline of a stream that has just been started. -/
def patternPipeline : Pipeline PatternDevice RampRenderer where
  device := showing (sizeFor (grid.scaled config.oversample)) 0
  renderer := { ramp := config.ramp.toList.toArray }

/-- The text of the frame with this number. The gradient has moved with each frame before it. -/
def patternText (n : Nat) : String :=
  (patternPipeline config grid).renderer.draw
    (showing (sizeFor (grid.scaled config.oversample)) n).frame grid.width.toNat grid.height.toNat

private theorem seen_patternFrame (n : Nat) :
    (showing (sizeFor (grid.scaled config.oversample)) n).frame.isEmpty = false :=
  Image.isEmpty_ofGray (pos_sizeFor _).1 (pos_sizeFor _).2 _

private theorem later_patternPipeline (n : Nat) : (patternPipeline config grid).later n =
    { patternPipeline config grid with
      device := showing (sizeFor (grid.scaled config.oversample)) n } := by
  induction n with
  | zero => rfl
  | succ n ih => rw [Pipeline.later_succ, ih, capture_showing]

private theorem outcome_patternPipeline (n : Nat) :
    (patternPipeline config grid).outcome grid n = .frame (patternText config grid n) := by
  rw [Pipeline.outcome, later_patternPipeline, Pipeline.verdict, capture_showing]
  dsimp only
  rw [seen_patternFrame]
  rfl

private theorem texts_patternPipeline (n : Nat) :
    (patternPipeline config grid).texts grid n = (List.range n).map (patternText config grid) := by
  induction n with
  | zero => rfl
  | succ n ih =>
    rw [Pipeline.texts_succ, ih, outcome_patternPipeline, List.range_succ, List.map_append]
    rfl

variable {config grid}

private theorem isBlock_patternText (inked : config.ramp ≠ "")
    (unbroken : '\n' ∉ config.ramp.toList) (wide : 0 < grid.width) (high : 0 < grid.height)
    (n : Nat) :
    RampRenderer.IsBlock config.ramp.toList grid.width.toNat grid.height.toNat
      (patternText config grid n) := by
  have ramp : 0 < config.ramp.toList.toArray.size := by
    rw [List.size_toArray, List.length_pos_iff]
    exact fun none ↦ inked (String.toList_eq_nil_iff.mp none)
  exact RampRenderer.isBlock_draw (seen_patternFrame config grid n) ramp unbroken
    (UInt32.lt_iff_toNat_lt.mp wide) (UInt32.lt_iff_toNat_lt.mp high)

end

/-! ## Starts -/

namespace Hub

variable {config : HubConfig} {cameraIndex fps : UInt32} {resolution : String} {grid : Resolution}
  {hub : Hub PatternDevice RampRenderer}

private theorem size_join (hub : Hub PatternDevice RampRenderer) (now : Nat) :
    (hub.join now).capture.pipeline.device.size = hub.capture.pipeline.device.size := by
  unfold join
  cases capture : hub.capture with
  | idle pipeline => dsimp only; rw [capture]
  | running pipeline loop => rfl
  | finished pipeline => dsimp only [fetch]; rw [capture]; rfl

private theorem startStreaming_of_feasible (inked : hub.config.ramp ≠ "")
    (lowered : hub.isStreaming = false) (now : Nat)
    (feasible : Feasible hub.config cameraIndex resolution fps grid) :
    ∃ opened, hub.startStreaming now cameraIndex resolution fps = (.ok (), opened) ∧
      opened.capture.pipeline = patternPipeline hub.config grid := by
  obtain ⟨read, fits, paced, index, pixels⟩ := feasible
  have accepted : accept hub.config cameraIndex resolution fps = .ok ⟨cameraIndex, grid, fps⟩ :=
    accept_eq_ok_iff.mpr ⟨grid, read, fits, paced, rfl⟩
  have inkedWith (renderer : RampRenderer) : FrameRenderer.setRamp renderer hub.config.ramp =
      (patternPipeline hub.config grid).renderer := if_neg inked
  obtain ⟨answer, pipeline, -⟩ := startStreaming_of_accepted now lowered accepted
  rw [Pipeline.start_pattern, if_neg (not_not.mpr index),
    if_neg (by rw [area_sizeFor_scaled]; exact Nat.not_lt.mpr pixels)] at answer pipeline
  rw [inkedWith] at pipeline
  exact ⟨_, Prod.ext answer rfl, pipeline⟩

private theorem feasible_of_startStreaming (lowered : hub.isStreaming = false) {now : Nat}
    (done : (hub.startStreaming now cameraIndex resolution fps).1 = .ok ()) :
    ∃ grid, Feasible hub.config cameraIndex resolution fps grid := by
  cases accepted : accept hub.config cameraIndex resolution fps with
  | error refusal =>
    rw [startStreaming_of_refusal now lowered accepted] at done
    cases done
  | ok settings =>
    obtain ⟨grid, read, fits, paced, rfl⟩ := accept_eq_ok_iff.mp accepted
    obtain ⟨answer, -⟩ := startStreaming_of_accepted now lowered accepted
    rw [done, Pipeline.start_pattern] at answer
    -- of the three ways that a start can end, this was the third
    split_ifs at answer with absent large
    · cases answer
    · cases answer
    · rw [area_sizeFor_scaled, Nat.not_lt] at large
      exact ⟨grid, read, fits, paced, not_not.mp absent, large⟩

private theorem startStreaming_of_infeasible (lowered : hub.isStreaming = false) {now : Nat}
    {error : HubError}
    (failed : (hub.startStreaming now cameraIndex resolution fps).1 = .error error) :
    let after := (hub.startStreaming now cameraIndex resolution fps).2
    after.config = hub.config ∧ after.isStreaming = false ∧
      after.capture.pipeline.device.size = hub.capture.pipeline.device.size := by
  intro after
  cases accepted : accept hub.config cameraIndex resolution fps with
  | error refusal =>
    have untouched : after = hub :=
      congrArg Prod.snd (startStreaming_of_refusal now lowered accepted)
    rw [untouched]
    exact ⟨rfl, lowered, rfl⟩
  | ok settings =>
    obtain ⟨answer, pipeline, config_eq, raised⟩ := startStreaming_of_accepted now lowered accepted
    cases result : ((hub.join now).capture.pipeline.start settings hub.config.oversample
        hub.config.ramp).1 with
    | ok done =>
      rw [failed, result] at answer
      cases answer
    | error cause =>
      rw [result] at raised
      refine ⟨config_eq, raised, ?_⟩
      rw [← hub.size_join now, ← Pipeline.size_start_pattern result, ← pipeline]

/-! ## What is promised -/

/-- What is true of a stream of the test pattern from the moment it is opened. -/
structure Streams (config : HubConfig) (grid : Resolution)
    (opened : Hub PatternDevice RampRenderer) : Prop where
  /-- Left alone, it does not end. -/
  raised : ∀ commands, opened.leftAlone commands = true →
    (opened.run commands).isStreaming = true
  /-- Every frame that is published is as many lines as the grid has rows, each of as many
  characters of the ramp as it has columns. -/
  blocks : ∀ commands, opened.leftAlone commands = true →
    ∀ text ∈ opened.publications commands, RampRenderer.IsBlock config.ramp.toList
      grid.width.toNat grid.height.toNat text
  /-- The frames are those of the test pattern, from the first on, each once and in their order; and
  when the loop reads again and is not interrupted, there is the next of them. -/
  frames : ∀ commands, opened.leftAlone commands = true → ∃ n,
    opened.publications commands = (List.range n).map (patternText config grid) ∧
      ((opened.run commands).Rested → ∀ floor keptAt concludedAt,
        (opened.run commands).publications [.read, .keep keptAt, .conclude floor concludedAt] =
          [patternText config grid n])
  /-- To publish a frame is to send it to the viewers, and nothing else sends them anything when a
  reading is settled. -/
  sent : ∀ commands floor now, ((opened.run commands).conclude floor now).2 =
    match (opened.run commands).published? with
      | some text => ((opened.run commands).roster.broadcast floor text).2.2
      | none => floor

/-- What is left when a request for a stream was not met. -/
structure Usable (before after : Hub PatternDevice RampRenderer) : Prop where
  /-- No stream is running. -/
  lowered : after.isStreaming = false
  /-- The device has the size that it had. -/
  size_eq : after.capture.pipeline.device.size = before.capture.pipeline.device.size
  /-- The next request that can be met is met. -/
  next : ∀ now cameraIndex resolution fps grid,
    Feasible before.config cameraIndex resolution fps grid →
      (after.startStreaming now cameraIndex resolution fps).1 = .ok () ∧
        Streams before.config grid (after.startStreaming now cameraIndex resolution fps).2

/-- What can be said of a request for a stream of the test pattern, if none is running. -/
structure PatternStart (hub : Hub PatternDevice RampRenderer) (now : Nat) (cameraIndex : UInt32)
    (resolution : String) (fps : UInt32) : Prop where
  /-- It is met if and only if it can be. -/
  starts_iff : (hub.startStreaming now cameraIndex resolution fps).1 = .ok () ↔
    ∃ grid, Feasible hub.config cameraIndex resolution fps grid
  /-- Then the stream is of the grid that was asked for. -/
  streams : ∀ grid, Feasible hub.config cameraIndex resolution fps grid →
    Streams hub.config grid (hub.startStreaming now cameraIndex resolution fps).2
  /-- If its frames have too many pixels, and nothing else is wrong with it, then the device's
  refusal tells their size. -/
  tooLarge : ∀ grid, Resolution.ofText? resolution = some grid →
    grid.width ≤ hub.config.maxResolution.width ∧ grid.height ≤ hub.config.maxResolution.height →
    0 < fps → cameraIndex = 0 → 4096 * 4096 < grid.pixels hub.config.oversample →
    (hub.startStreaming now cameraIndex resolution fps).1 =
      .error (.device (.unsupportedResolution
        (max (grid.scaled hub.config.oversample).width 1)
        (max (grid.scaled hub.config.oversample).height 1)))
  /-- Whatever the refusal is, the hub can be used as if nothing had been asked. -/
  refused : ∀ error, (hub.startStreaming now cameraIndex resolution fps).1 = .error error →
    Usable hub (hub.startStreaming now cameraIndex resolution fps).2

theorem Tally.isStreaming {limit n : Nat}
    (h : Tally (patternPipeline config grid) grid limit n hub) : hub.isStreaming = true := by
  refine h.streaming_iff.mpr fun m _ ↦ ?_
  -- a streak of failures begins anew with every frame, and there are only frames
  have none : streak ((patternPipeline config grid).outcomes grid m) = 0 := by
    cases m with
    | zero => rfl
    | succ m => rw [Pipeline.outcomes_succ, outcome_patternPipeline, streak_append_frame]
  rw [none]
  exact Nat.lt_of_lt_of_le Nat.zero_lt_one (Nat.le_max_left ..)

/-- What comes of a stream that has been opened, and of which nothing has been settled yet. -/
theorem Tally.streams {opened : Hub PatternDevice RampRenderer} {limit : Nat}
    (start : Tally (patternPipeline config grid) grid limit 0 opened) (inked : config.ramp ≠ "")
    (unbroken : '\n' ∉ config.ramp.toList) (wide : 0 < grid.width) (high : 0 < grid.height) :
    Streams config grid opened := by
  have published {commands : List Command} (alone : opened.leftAlone commands = true) :
      ∃ n, Tally (patternPipeline config grid) grid limit n (opened.run commands) ∧
        opened.publications commands = (List.range n).map (patternText config grid) := by
    obtain ⟨n, tally, texts⟩ := start.run alone
    rw [texts_patternPipeline, texts_patternPipeline] at texts
    exact ⟨n, tally, texts.symm⟩
  constructor
  case raised =>
    intro commands alone
    obtain ⟨n, tally, -⟩ := published alone
    exact tally.isStreaming
  case blocks =>
    intro commands alone text mem
    obtain ⟨n, -, texts⟩ := published alone
    rw [texts] at mem
    obtain ⟨i, -, rfl⟩ := List.mem_map.mp mem
    exact isBlock_patternText inked unbroken wide high i
  case frames =>
    intro commands alone
    obtain ⟨n, tally, texts⟩ := published alone
    refine ⟨n, texts, fun rested floor keptAt concludedAt ↦ ?_⟩
    have settled := (tally.round tally.isStreaming rested floor keptAt concludedAt).2
    rwa [outcome_patternPipeline] at settled
  case sent =>
    exact fun commands floor now ↦ ((opened.run commands).conclude_eq_broadcast floor now).1

/-- What a hub shows is what it was asked for, whatever was done to it and to its device before. -/
theorem streams_startStreaming (inked : hub.config.ramp ≠ "")
    (unbroken : '\n' ∉ hub.config.ramp.toList) (lowered : hub.isStreaming = false) (now : Nat)
    (feasible : Feasible hub.config cameraIndex resolution fps grid) :
    Streams hub.config grid (hub.startStreaming now cameraIndex resolution fps).2 := by
  obtain ⟨opened, started, pipeline⟩ := startStreaming_of_feasible inked lowered now feasible
  obtain ⟨same, read, start⟩ := tally_startStreaming lowered started
  cases Option.some.inj (feasible.read.symm.trans read)
  obtain ⟨wide, high⟩ := Resolution.pos_of_ofText? read
  rw [pipeline] at start
  rw [started]
  exact start.streams inked unbroken wide high

/-- Whatever the settings are, as long as there is something to draw with and no character of it
breaks a line; and whatever was done to the hub before, as long as it streams nothing. -/
theorem patternStart_startStreaming (hub : Hub PatternDevice RampRenderer)
    (inked : hub.config.ramp ≠ "") (unbroken : '\n' ∉ hub.config.ramp.toList)
    (lowered : hub.isStreaming = false) (now : Nat) (cameraIndex : UInt32) (resolution : String)
    (fps : UInt32) :
    PatternStart hub now cameraIndex resolution fps where
  starts_iff := by
    refine ⟨feasible_of_startStreaming lowered, fun ⟨grid, feasible⟩ ↦ ?_⟩
    obtain ⟨opened, started, -⟩ := startStreaming_of_feasible inked lowered now feasible
    rw [started]
  streams grid := streams_startStreaming inked unbroken lowered now
  tooLarge grid read fits paced index large := by
    have accepted : accept hub.config cameraIndex resolution fps = .ok ⟨cameraIndex, grid, fps⟩ :=
      accept_eq_ok_iff.mpr ⟨grid, read, fits, paced, rfl⟩
    obtain ⟨answer, -⟩ := startStreaming_of_accepted now lowered accepted
    rw [Pipeline.start_pattern, if_neg (not_not.mpr index),
      if_pos (by rw [area_sizeFor_scaled]; exact large)] at answer
    exact answer
  refused error failed := by
    obtain ⟨config_eq, lowered, size_eq⟩ := startStreaming_of_infeasible lowered failed
    refine ⟨lowered, size_eq, fun now cameraIndex resolution fps grid feasible ↦ ?_⟩
    -- what can be met depends on the settings alone, and they are the same
    rw [← config_eq] at inked unbroken feasible ⊢
    obtain ⟨opened, started, -⟩ := startStreaming_of_feasible inked lowered now feasible
    exact ⟨congrArg Prod.fst started,
      streams_startStreaming inked unbroken lowered now feasible⟩

/-- A hub that has shown a stream before, and allows every grid. -/
def unlimited : Hub PatternDevice RampRenderer :=
  (new {} {} { ramp := ".:#", maxResolution := ⟨4294967295, 4294967295⟩ } .empty).run
    [.startStreaming 0 0 "2x1" 10, .read, .keep 100, .conclude {} 100, .stopStreaming 200]

/-- The device cannot make frames for the next grid, but it can for the one after that. -/
theorem patternStart_unlimited :
    let refused := unlimited.startStreaming 300 0 "40000x40000" 10
    let granted := refused.2.startStreaming 400 0 "3x2" 10
    unlimited.config.ramp ≠ "" ∧ '\n' ∉ unlimited.config.ramp.toList ∧
      unlimited.isStreaming = false ∧
      refused.1 = .error (.device (.unsupportedResolution 80000 80000)) ∧
      refused.2.capture.pipeline.device.size = ⟨4, 2⟩ ∧
      PatternStart unlimited 300 0 "40000x40000" 10 ∧
      granted.1 = .ok () ∧
      granted.2.publications [.read, .keep 500, .conclude {} 500] = ["...\n..:\n"] := by
  intro refused granted
  have inked : unlimited.config.ramp ≠ "" := by decide +kernel
  have unbroken : '\n' ∉ unlimited.config.ramp.toList := by decide +kernel
  have lowered : unlimited.isStreaming = false := by decide +kernel
  exact ⟨inked, unbroken, lowered, by decide +kernel, by decide +kernel,
    patternStart_startStreaming unlimited inked unbroken lowered 300 0 "40000x40000" 10,
    by decide +kernel, by decide +kernel⟩

end Hub

end Glyphcast
