import Glyphcast.Proofs.Station.Alike

/-!
# Fan-out and isolation

The frames of one stream go to many sessions, and these fare differently: a sink may be slow, hang
or fail, and sessions leave. Here is what all can rely on. Each frame that is published is sent once
to everyone who is registered and alive, and all get what they get in the order of publication
(`FannedOut`). And nobody notices how another's connection fares: take two runs of which the same is
seen by someone who looks away from the connections of some viewers; everybody else has had the same
course in both.

The two runs are walked through together (`Mirrors`). Where the next event of either is not seen,
that run goes ahead alone; otherwise both take a step.
-/

namespace Glyphcast.Station

variable {δ ρ : Type} [CaptureDevice δ] [FrameRenderer ρ]

/-! ## Two runs -/

section

variable {aside : Nat → Bool} {number : SeatNumber} {state state' : Station δ ρ × Option Course}

/-- Two runs, each with an eye on the same seat, have led to stations that are alike. If the session
there is not aside, it has had the same course in both. -/
structure Mirrors (aside : Nat → Bool) (number : SeatNumber)
    (state state' : Station δ ρ × Option Course) : Prop where
  alike : state.1.Alike aside state'.1
  guarded : state.1.Guarded aside
  guarded' : state'.1.Guarded aside
  followed : Followed number state
  followed' : Followed number state'
  course : state.1.isAside aside number = false → state'.2 = state.2

omit [CaptureDevice δ] [FrameRenderer ρ] in
theorem Mirrors.symm (h : Mirrors aside number state state') : Mirrors aside number state' state :=
  ⟨h.alike.symm, h.guarded', h.guarded, h.followed', h.followed,
    fun apart ↦ (h.course ((h.alike.isAside number).symm.trans apart)).symm⟩

theorem Mirrors.unseen (h : Mirrors aside number state state') {event : Event}
    (unseen : state.1.sight? aside event = none) (humble : (state.1.apply event).Humble aside) :
    Mirrors aside number (follow number state event) state' where
  alike := h.alike.unseen h.guarded unseen
  guarded := h.guarded.apply humble
  guarded' := h.guarded'
  followed := h.followed.follow h.guarded.accounted event
  followed' := h.followed'
  course := fun apart ↦ by
    rw [follow]
    cases found : state.1.floor.seat? number with
    | none =>
      have empty : state.1.isAside aside number = false := by rw [isAside, found]; rfl
      have followed := h.followed
      rw [Followed, found] at followed
      have none := (state.1.each_leads_apply (old_of_unseen unseen)).seat?_eq_none_iff.mpr found
      rw [none, h.course empty]
      exact Option.map_eq_none_iff.mp followed.symm
    | some seat =>
      have here := (isAside_eq found).trans (isAside_of_apply found apart)
      dsimp only
      rw [(deal_of_unseen unseen here).1, h.course here]
      simp only [List.append_nil]
      exact Option.map_id'.symm

theorem Mirrors.seen (h : Mirrors aside number state state') {event event' : Event}
    (prompt : state.1.Prompt aside event) (prompt' : state'.1.Prompt aside event')
    (humble : (state.1.apply event).Humble aside) (humble' : (state'.1.apply event').Humble aside)
    {sight : Sight} (seen : state.1.sight? aside event = some sight)
    (seen' : state'.1.sight? aside event' = some sight) :
    Mirrors aside number (follow number state event) (follow number state' event') := by
  obtain ⟨alike, deals⟩ := h.alike.seen h.guarded h.guarded' prompt prompt' seen seen'
  refine ⟨alike, h.guarded.apply humble, h.guarded'.apply humble',
    h.followed.follow h.guarded.accounted event, h.followed'.follow h.guarded'.accounted event',
    fun apart ↦ ?_⟩
  rw [follow] at apart ⊢
  rw [follow]
  cases found : state.1.floor.seat? number with
  | none =>
    rw [h.alike.floor.seat?_eq_none_iff.mpr found]
    dsimp only
    cases after : (state.1.apply event).floor.seat? number with
    | none => rw [alike.floor.seat?_eq_none_iff.mpr after]
    | some seat =>
      obtain ⟨seat', after', same⟩ := alike.floor.seat? after
      rw [isAside_eq after] at apart
      rw [after', same.same apart]
  | some seat =>
    obtain ⟨seat', found', -⟩ := h.alike.floor.seat? found
    have counts := isAside_of_apply found apart
    rw [found']
    dsimp only
    rw [deals number seat found counts, h.course ((isAside_eq found).trans counts)]

/-- Two runs of which the same is seen. -/
theorem Mirrors.followAll (h : Mirrors aside number state state') {events events' : List Event}
    (bystanders : state.1.Bystanders aside events)
    (bystanders' : state'.1.Bystanders aside events')
    (same : state.1.outline aside events = state'.1.outline aside events') :
    Mirrors aside number (followAll number state events) (followAll number state' events') := by
  induction events generalizing state state' events' with
  | nil =>
    induction events' generalizing state' with
    | nil => exact h
    | cons event' events' ih' =>
      obtain ⟨unseen, rest⟩ := List.append_eq_nil_iff.mp same.symm
      rw [Option.toList_eq_nil_iff] at unseen
      exact ih' (h.symm.unseen unseen bystanders'.2.2.humble).symm bystanders'.2.2 rest.symm
  | cons event events ih =>
    cases seen : state.1.sight? aside event with
    | none =>
      rw [outline, seen] at same
      exact ih (h.unseen seen bystanders.2.2.humble) bystanders.2.2 bystanders' same
    | some sight =>
      -- what is seen next in the other run comes after events that are not seen
      induction events' generalizing state' with
      | nil =>
        rw [outline, outline, seen] at same
        nomatch same
      | cons event' events' ih' =>
        cases seen' : state'.1.sight? aside event' with
        | none =>
          rw [outline, outline, seen', ← outline] at same
          exact ih' (h.symm.unseen seen' bystanders'.2.2.humble).symm bystanders'.2.2 same
        | some sight' =>
          rw [outline, outline, seen, seen'] at same
          obtain ⟨first, rest⟩ := List.cons_eq_cons.mp same
          cases first
          exact ih (h.seen bystanders.2.1 bystanders'.2.1 bystanders.2.2.humble
            bystanders'.2.2.humble seen seen') bystanders.2.2 bystanders'.2.2 rest

end

/-! ## What is promised -/

/-- What is promised of the frames that are published in a run. -/
structure FannedOut (station : Station δ ρ) (events : List Event) : Prop where
  /-- A published frame is sent once to every session that is registered and alive at that moment,
  and nothing is done to any other. -/
  once : ∀ first now rest, events = first ++ .conclude now :: rest → ∀ number,
    ((station.run first).apply (.conclude now)).floor.seat? number =
      ((station.run first).floor.seat? number).map
        (·.sendFrames ((station.run first).offers number))
  /-- All are offered what they are offered in the order of publication. -/
  order : ∀ number, station.offered number events =
    ((station.publications events).filter (·.2 number)).map (·.1)

theorem fannedOut_run {station : Station δ ρ} (accounted : station.Accounted)
    (events : List Event) : station.FannedOut events where
  once := fun first now _ _ number ↦ seat?_conclude (accounted_run accounted first) now number
  order := fun number ↦ station.offered_eq number events

omit [FrameRenderer ρ] in
private theorem mirrors_new (device : δ) (renderer : ρ) (config : HubConfig) (disk : Recording.Disk)
    (key : ApiKey) (aside : Nat → Bool) (number : SeatNumber) :
    let start : Station δ ρ := { hub := Hub.new device renderer config disk, key }
    Mirrors aside number (start, none) (start, none) := by
  intro start
  have guarded : start.Guarded aside :=
    ⟨accounted_new device renderer config disk key, ⟨_, billed_new start.hub key rfl⟩, nofun, nofun⟩
  refine ⟨⟨rfl, .refl (.refl aside) _, ?_⟩, guarded, guarded, rfl, rfl, fun _ ↦ rfl⟩
  exact ⟨⟨rfl, rfl, rfl, rfl, rfl, rfl⟩, fun _ _ ↦ .rfl, ⟨rfl, .inr ⟨rfl, rfl⟩⟩⟩

/-- In every run each published frame is offered once to every session that is registered and alive
then, and to no other, in the same order for all. And in any two runs that differ only in what
becomes of the connections of some who are no controllers, in their sinks as much as in when they
close after the last that was received from them, everybody else has the same course: the same items
come, are pushed out and are written, and in the end the session is the same. -/
theorem isolated_run (device : δ) (renderer : ρ) (config : HubConfig) (disk : Recording.Disk)
    (key : ApiKey) :
    let start : Station δ ρ := { hub := Hub.new device renderer config disk, key }
    (∀ events, start.FannedOut events) ∧
    ∀ aside events events', start.Bystanders aside events → start.Bystanders aside events' →
      start.outline aside events = start.outline aside events' →
      ∀ number seat, (start.run events).floor.seat? number = some seat →
        aside seat.session.id = false →
        (start.run events').floor.seat? number = some seat ∧
        ∃ course, start.course number events = some course ∧
          start.course number events' = some course ∧
          (course.newcomer.run course.events).1 = seat.session := by
  intro start
  have accounted : start.Accounted := accounted_new device renderer config disk key
  refine ⟨fannedOut_run accounted, fun aside events events' bystanders bystanders' same number seat
    found apart ↦ ?_⟩
  have mirrors := (mirrors_new device renderer config disk key aside number).followAll bystanders
    bystanders' same
  obtain ⟨alike, -, -, -, -, courses⟩ := mirrors
  rw [fst_followAll, fst_followAll] at alike
  rw [fst_followAll] at courses
  obtain ⟨seat', found', equal⟩ := alike.floor.seat? found
  cases equal.same apart
  obtain ⟨course, known, session⟩ := session_course accounted rfl events found
  refine ⟨found', course, known, ?_, session⟩
  exact (courses ((isAside_eq found).trans apart)).trans known

/-- A controller and two viewers have come, and the controller starts a stream. -/
def gathering : List Event :=
  [.connect 1 10 0, .text 0 ⟨2026, 1, 1, 12, 0, 0⟩ 0 "[\"auth\",\"k3y\",\"controller\"]",
    .connect 2 10 0, .text 0 ⟨2026, 1, 1, 12, 0, 0⟩ 1 "[\"auth\",\"k3y\",\"viewer\"]",
    .connect 3 10 0, .text 0 ⟨2026, 1, 1, 12, 0, 0⟩ 2 "[\"auth\",\"k3y\",\"viewer\"]",
    .text 0 ⟨2026, 1, 1, 12, 0, 0⟩ 0 "[\"config\"]"]

/-- The first viewer never writes anything; the second writes its replies and a frame. -/
def stuck : List Event :=
  gathering ++ [.read, .keep 100, .conclude 100, .sink 2 .take {}, .sink 2 .confirm {},
    .sink 2 .take {}, .read, .sink 2 .confirm {}, .keep 200, .conclude 200, .sink 2 .take {},
    .sink 2 .confirm {}]

/-- The first viewer's sink fails, and it leaves between two steps of the loop. -/
def broken : List Event :=
  gathering ++ [.sink 1 .take {}, .sink 1 .fail {}, .read, .keep 100, .conclude 100,
    .sink 2 .take {}, .sink 2 .confirm {}, .sink 2 .take {}, .read, .teardown 1,
    .sink 2 .confirm {}, .drop 1, .keep 200, .release 200 0, .conclude 200, .sink 2 .take {},
    .sink 2 .confirm {}]

/-- The second viewer has been sent two frames in both runs, and all else is the same for it. -/
theorem isolated_broken :
    rehearsal.Bystanders (· == 2) stuck ∧ rehearsal.Bystanders (· == 2) broken ∧
      rehearsal.outline (· == 2) stuck = rehearsal.outline (· == 2) broken ∧
      (rehearsal.run stuck).hub.roster.viewers = [(1, 0), (2, 1), (3, 2)] ∧
      (rehearsal.run broken).hub.roster.viewers = [(1, 0), (3, 2)] ∧
      ((rehearsal.run stuck).floor.seat? 2).map (·.session.tally.framesEnqueued) = some 2 ∧
      (rehearsal.run broken).floor.seat? 2 = (rehearsal.run stuck).floor.seat? 2 ∧
      rehearsal.course 2 broken = rehearsal.course 2 stuck := by
  have bystanders : rehearsal.Bystanders (· == 2) stuck := by decide +kernel
  have bystanders' : rehearsal.Bystanders (· == 2) broken := by decide +kernel
  have same : rehearsal.outline (· == 2) stuck = rehearsal.outline (· == 2) broken := by
    decide +kernel
  have watched : ((rehearsal.run stuck).floor.seat? 2).map (·.session.id) = some 3 := by
    decide +kernel
  obtain ⟨seat, found, third⟩ := Option.map_eq_some_iff.mp watched
  have key := isolated_run ({ script := [.frame 1, .frame 2] } : ScriptedDevice)
    ({} : LabelRenderer) {} .empty ⟨"k3y"⟩
  rw [← rehearsal] at key
  obtain ⟨found', course, known, known', -⟩ :=
    key.2 (· == 2) stuck broken bystanders bystanders' same 2 seat found (by rw [third]; rfl)
  exact ⟨bystanders, bystanders', same, by decide +kernel, by decide +kernel, by decide +kernel,
    found'.trans found.symm, known'.trans known.symm⟩

end Glyphcast.Station
