import Glyphcast.Proofs.Station.Books
import Mathlib.Data.List.Nodup

/-!
# What a release undoes

A session is closed at once, and released some time later. In between anything may happen: another
controller may take the slot over and start a stream, a playback may be handed on, a stop may forget
the viewers. The release has to undo what the session had registered and nothing else, by what was
written down when the session was closed and by what it finds on the books.

## Why a name does not come back

After the release the session is closed and no departure of it is left. Both stay so, as it is not
closed a second time (`Gone`), and a name is on the books only if it is accounted for: so this one
is on none, whatever texts are sent.

That a session is closed once is also what makes the departure the right one: a session that holds
the slot can have left in no other phase than the controller's.
-/

namespace Glyphcast.Station

variable {δ ρ : Type} [CaptureDevice δ] [FrameRenderer ρ] {station : Station δ ρ}

/-! ## Gone for good -/

/-- The session in this seat, with this id, is closed, and its departure has been dealt with. -/
structure Gone (station : Station δ ρ) (number : SeatNumber) (id : Nat) : Prop where
  closed : ∃ seat, station.floor.seat? number = some seat ∧ seat.session.id = id ∧
    seat.session.phase = .closed
  released : ∀ phase, (id, phase) ∉ station.departures

theorem Gone.apply {number : SeatNumber} {id : Nat} (h : station.Gone number id)
    (seated : station.Seated) {event : Event} (other : event.leaver? ≠ some number) :
    (station.apply event).Gone number id where
  closed := by
    obtain ⟨seat, found, rfl, closed⟩ := h.closed
    obtain ⟨later, found', leads⟩ := station.leads_apply event found
    have phase := leads.phase
    rw [closed] at phase
    exact ⟨later, found', leads.id, phase.eq_closed⟩
  released := fun phase mem ↦ by
    rcases station.departures_cases event with
      same | ⟨leaver, seat, rfl, found, -, longer⟩ | ⟨now, position, -, shorter⟩
    · exact h.released phase (same ▸ mem)
    · rcases List.mem_append.mp (longer ▸ mem) with old | new
      · exact h.released phase old
      -- ids are not shared, so this would be the same session
      · obtain ⟨before, seen, sameId, -⟩ := h.closed
        have same := congrArg Prod.fst (List.mem_singleton.mp new)
        exact other (congrArg some (seated.ids found seen (same.symm.trans sameId.symm)))
    · exact h.released phase (List.mem_of_mem_eraseIdx (shorter ▸ mem))

theorem Gone.run {number : SeatNumber} {id : Nat} (h : station.Gone number id)
    (seated : station.Seated) {events : List Event}
    (others : number ∉ events.filterMap Event.leaver?) : (station.run events).Gone number id := by
  induction events generalizing station with
  | nil => exact h
  | cons event events ih =>
    refine ih (h.apply seated fun same ↦ ?_) (seated.apply event) fun mem ↦ ?_
    · exact others (List.mem_filterMap.mpr ⟨event, List.mem_cons_self, same⟩)
    · obtain ⟨later, mem', same⟩ := List.mem_filterMap.mp mem
      exact others (List.mem_filterMap.mpr ⟨later, List.mem_cons_of_mem _ mem', same⟩)

/-- An id is on none of the books. -/
structure Forgets (station : Station δ ρ) (id : Nat) : Prop where
  viewers : ∀ entry ∈ station.hub.roster.viewers, entry.1 ≠ id
  controller : ∀ entry, station.hub.roster.controller = some entry → entry.1 ≠ id
  owner : station.hub.playbackOwner ≠ some id

omit [CaptureDevice δ] [FrameRenderer ρ] in
private theorem Gone.not_expected {number : SeatNumber} {id : Nat} (h : station.Gone number id)
    (seated : station.Seated) {P : Phase → Prop} (role : ¬P .closed) {entry : Nat × SeatNumber}
    (same : entry.1 = id) : ¬station.Expected P entry := by
  rintro ⟨seat, found, sameId, expected⟩
  obtain ⟨seat', found', rfl, closed⟩ := h.closed
  cases seated.ids found found' (sameId.trans same)
  cases found.symm.trans found'
  rcases expected with phase | ⟨phase, -, departing⟩
  · exact role (closed ▸ phase)
  · exact h.released phase (same ▸ departing)

omit [CaptureDevice δ] [FrameRenderer ρ] in
/-- Nobody accounts for the names of one who is gone. -/
theorem Gone.forgets {number : SeatNumber} {id : Nat} (h : station.Gone number id)
    (seated : station.Seated) (accounted : station.Accounted) : station.Forgets id where
  viewers := fun entry mem same ↦
    h.not_expected seated (by decide) same (accounted.viewers entry mem)
  controller := fun entry held same ↦
    h.not_expected seated (by decide) same (accounted.controller entry held)
  owner := fun owned ↦ by
    obtain ⟨seat, expected⟩ := accounted.owner id owned
    exact h.not_expected seated (by decide) rfl expected

/-! ## Sessions that are closed once -/

/-- No session has two departures, and whoever has one was in one of these seats. -/
structure Parted (station : Station δ ρ) (leavers : List SeatNumber) : Prop where
  once : (station.departures.map (·.1)).Nodup
  left : ∀ departure ∈ station.departures, ∃ number ∈ leavers, ∃ seat,
    station.floor.seat? number = some seat ∧ seat.session.id = departure.1

theorem Parted.apply {leavers : List SeatNumber} (h : station.Parted leavers)
    (seated : station.Seated) {event : Event}
    (new : ∀ number, event.leaver? = some number → number ∉ leavers) :
    (station.apply event).Parted (leavers ++ event.leaver?.toList) := by
  have later {departure : Nat × Phase} (mem : departure ∈ station.departures) :
      ∃ number ∈ leavers ++ event.leaver?.toList, ∃ seat,
        (station.apply event).floor.seat? number = some seat ∧ seat.session.id = departure.1 := by
    obtain ⟨number, left, seat, found, same⟩ := h.left departure mem
    obtain ⟨after, found', leads⟩ := station.leads_apply event found
    exact ⟨number, List.mem_append_left _ left, after, found', leads.id.trans same⟩
  have fewer (sub : (station.apply event).departures.Sublist station.departures) :
      (station.apply event).Parted (leavers ++ event.leaver?.toList) :=
    ⟨h.once.sublist (sub.map _), fun _ mem ↦ later (sub.subset mem)⟩
  rcases station.departures_cases event with
    same | ⟨number, seat, rfl, found, -, longer⟩ | ⟨now, position, -, shorter⟩
  · exact fewer (same ▸ .refl _)
  · -- who is among the departures was closed before, and ids are not shared
    have fresh : seat.session.id ∉ station.departures.map (·.1) := by
      intro mem
      obtain ⟨departure, mem', same⟩ := List.mem_map.mp mem
      obtain ⟨before, left, seat', found', same'⟩ := h.left departure mem'
      cases seated.ids found' found (same'.trans same)
      exact new _ rfl left
    refine ⟨?_, fun departure mem ↦ ?_⟩
    · rw [longer, List.map_append, List.nodup_append]
      refine ⟨h.once, List.nodup_singleton _, fun id mem other last same ↦ ?_⟩
      cases List.mem_singleton.mp last
      obtain rfl : id = seat.session.id := same
      exact fresh mem
    · rw [longer] at mem
      rcases List.mem_append.mp mem with old | last
      · exact later old
      · cases List.mem_singleton.mp last
        obtain ⟨after, found', leads⟩ := station.leads_apply (.teardown number) found
        exact ⟨number, List.mem_append_right _ List.mem_cons_self, after, found', leads.id⟩
  · exact fewer (shorter ▸ List.eraseIdx_sublist _ _)

/-- What is known of every state of a run in which nobody is closed twice. -/
theorem parted_run (hub : Hub δ ρ) (key : ApiKey) {events : List Event}
    (once : (events.filterMap Event.leaver?).Nodup) :
    (run { hub, key } events).Parted (events.filterMap Event.leaver?) := by
  induction events using List.reverseRecOn with
  | nil => exact ⟨.nil, nofun⟩
  | append_singleton events event ih =>
    rw [List.filterMap_append] at once ⊢
    obtain ⟨before, -, apart⟩ := List.nodup_append.mp once
    have last : [event].filterMap Event.leaver? = event.leaver?.toList := by
      cases event <;> rfl
    rw [last] at apart ⊢
    rw [run_append_singleton]
    refine (ih before).apply (accountable_run hub key events).1 fun number left mem ↦ ?_
    exact apart number mem number (Option.mem_toList.mpr left) rfl

private theorem Parted.gone_release {leavers : List SeatNumber} (h : station.Parted leavers)
    (seated : station.Seated) {position id : Nat} {phase : Phase}
    (departure : station.departures[position]? = some (id, phase)) (now : Nat) :
    ∃ number ∈ leavers, (station.apply (.release now position)).Gone number id := by
  have mem := List.mem_of_getElem? departure
  obtain ⟨number, left, seat, found, same⟩ := h.left _ mem
  obtain ⟨number', seat', found', rfl, closed⟩ := seated.departed mem
  cases seated.ids found found' same
  have quiet : (station.apply (.release now position)).floor = station.floor := by
    rw [Station.apply, releaseAt, departure]
  refine ⟨number, left, ⟨seat', by rwa [quiet], rfl, closed⟩, fun other left' ↦ ?_⟩
  rw [Station.apply, releaseAt, departure] at left'
  -- another departure of the session would stand at another place
  obtain ⟨index, elsewhere, there⟩ := List.mem_eraseIdx_iff_getElem?.mp left'
  have inside := (List.getElem?_eq_some_iff.mp there).1
  have same : (station.departures.map (·.1))[index]? =
      (station.departures.map (·.1))[position]? := by
    rw [List.getElem?_map, List.getElem?_map, there, departure]
    rfl
  rw [← List.length_map (·.1)] at inside
  exact elsewhere ((List.getElem?_inj inside h.once).mp same)

omit [CaptureDevice δ] [FrameRenderer ρ] in
/-- Who is in the slot when it is released left as a controller. -/
theorem Parted.phase_of_holder {leavers : List SeatNumber} (h : station.Parted leavers)
    (seated : station.Seated) (accounted : station.Accounted) {position id : Nat} {phase : Phase}
    (departure : station.departures[position]? = some (id, phase))
    (holds : station.hub.HoldsSlot id) : phase = .controller := by
  obtain ⟨entry, slot, same⟩ := (Option.any_eq_true ..).mp holds
  obtain ⟨seat, found, sameId, expected⟩ := accounted.controller entry slot
  rw [beq_iff_eq] at same
  have mem := List.mem_of_getElem? departure
  obtain ⟨number, seat', found', rfl, closed⟩ := seated.departed mem
  cases seated.ids found found' (sameId.trans same)
  cases found.symm.trans found'
  rcases expected with controller | ⟨had, controller, departing⟩
  · nomatch closed.symm.trans controller
  · rw [same] at departing
    have unique := List.inj_on_of_nodup_map h.once mem departing rfl
    exact (congrArg Prod.snd unique).trans controller

/-! ## What a release does -/

/-- What the release of a session does, by what is on the books when it comes. -/
structure Released (before after : Station (Metered δ) ρ) (id : Nat) : Prop where
  /-- It changes no session and no recording. -/
  floor : after.floor = before.floor
  recorder : after.hub.recorder = before.hub.recorder
  /-- A running stream is stopped if the session holds the controller's slot, and not otherwise. -/
  streaming_iff : before.hub.isStreaming = true →
    (after.hub.isStreaming = false ↔ before.hub.HoldsSlot id)
  /-- If it does, the device is closed and the slot is free. -/
  ended : before.hub.HoldsSlot id →
    CaptureDevice.isOpen after.hub.capture.pipeline.device.device = false ∧
      after.hub.roster.controller = none
  /-- If it does not, the stream is what it was, with its flag and its device, and whoever is in the
  slot stays there. -/
  spared : ¬before.hub.HoldsSlot id → before.hub.SameStream after.hub ∧
    after.hub.roster.controller = before.hub.roster.controller
  /-- And then everybody else who is alive stays registered. -/
  others : ¬before.hub.HoldsSlot id → ∀ entry ∈ before.hub.roster.viewers, entry.1 ≠ id →
    before.floor.isAlive entry.2 = true → entry ∈ after.hub.roster.viewers
  /-- Nobody is registered by it. -/
  fades : before.hub.Fades after.hub
  /-- A playback is stopped if it is the session's, and not otherwise. -/
  playback_iff : before.hub.player.status ≠ .idle →
    (after.hub.player.status = .idle ↔ before.hub.playbackOwner = some id)
  /-- If it is, nobody owns one, and no timer will play anything. -/
  silenced : before.hub.playbackOwner = some id → after.hub.playbackOwner = none ∧
    after.hub.player.status = .idle ∧ ∀ timer ∈ after.hub.player.timers, timer.cancelled = true
  /-- If it is not, it goes on as it was. -/
  undisturbed : before.hub.playbackOwner ≠ some id →
    after.hub.playbackOwner = before.hub.playbackOwner ∧ after.hub.player = before.hub.player

variable [LawfulDevice δ]

omit [FrameRenderer ρ] in
private theorem stopped_unregister {hub : Hub (Metered δ) ρ} {config : HubConfig}
    (orderly : hub.Orderly config) (floor : Floor) (now : Nat) {id : Nat}
    (holds : hub.HoldsSlot id) :
    (hub.unregister floor now id .controller).isStreaming = false ∧
      CaptureDevice.isOpen
        (hub.unregister floor now id .controller).capture.pipeline.device.device = false ∧
      (hub.unregister floor now id .controller).roster.controller = none := by
  -- struck off or not, the stream is one of a hub in order
  have same : Hub.Orderly config
      { hub with roster := ⟨(hub.roster.remove floor id).2.viewers, none⟩ } := { orderly with }
  have stop := same.stopped now
  rw [hub.unregister_of_holder floor now holds]
  exact ⟨stop.lowered, stop.closed, stop.sameBooks.controller⟩

omit [FrameRenderer ρ] in
/-- A release, if a session that holds the slot has left as a controller. -/
theorem released_releaseAt {station : Station (Metered δ) ρ} {config : HubConfig}
    (orderly : station.hub.Orderly config) {position id : Nat} {phase : Phase}
    (departure : station.departures[position]? = some (id, phase))
    (role : station.hub.HoldsSlot id → phase = .controller) (now : Nat) :
    station.Released (station.releaseAt now position) id := by
  let first := station.hub.unregister station.floor now id phase
  have released : station.releaseAt now position = { station with
      hub := first.endPlayback id, departures := station.departures.eraseIdx position } := by
    rw [releaseAt, departure, ← Hub.releaseSession_eq]
  obtain ⟨player, owner, recorder⟩ := station.hub.player_unregister station.floor now id phase
  obtain ⟨stream, recorder'⟩ := first.sameStream_endPlayback id
  obtain ⟨ended, left⟩ := first.playback_endPlayback id
  have roster := first.roster_endPlayback id
  have stopped (holds : station.hub.HoldsSlot id) : first.isStreaming = false ∧
      CaptureDevice.isOpen first.capture.pipeline.device.device = false ∧
        first.roster.controller = none := by
    have controller := role holds
    subst controller
    exact stopped_unregister orderly station.floor now holds
  have spared (free : ¬station.hub.HoldsSlot id) :=
    station.hub.spared_unregister station.floor now free phase
  rw [released]
  exact {
    floor := rfl
    recorder := recorder'.trans recorder
    streaming_iff := fun raised ↦ by
      by_cases holds : station.hub.HoldsSlot id
      · exact ⟨fun _ ↦ holds, fun _ ↦ stream.streaming.trans (stopped holds).1⟩
      · refine ⟨fun lowered ↦ ?_, fun h ↦ absurd h holds⟩
        have := stream.streaming.trans (spared holds).1.streaming
        exact absurd (this.symm.trans lowered) (by rw [← Hub.isStreaming, raised]; decide)
    ended := fun holds ↦ by
      dsimp only
      rw [stream.capture, roster]
      exact (stopped holds).2
    spared := fun free ↦ by
      obtain ⟨same, slot, -⟩ := spared free
      dsimp only
      rw [roster]
      exact ⟨⟨stream.config.trans same.config, stream.capture.trans same.capture,
        stream.streaming.trans same.streaming, stream.settings.trans same.settings⟩, slot⟩
    others := fun free entry mem apart alive ↦ by
      dsimp only
      rw [roster]
      exact (spared free).2.2 entry mem apart alive
    fades := (station.hub.fades_unregister station.floor now id phase).1.trans
      (first.fades_endPlayback id)
    playback_iff := fun playing ↦ by
      refine ⟨fun idle ↦ ?_, fun owned ↦ (ended (owner.trans owned)).2.1⟩
      by_contra free
      exact playing ((congrArg (·.status) ((left (owner ▸ free)).2.trans player)).symm.trans idle)
    silenced := fun owned ↦ ended (owner.trans owned)
    undisturbed := fun free ↦ by
      obtain ⟨sameOwner, samePlayer⟩ := left (owner ▸ free)
      exact ⟨sameOwner.trans owner, samePlayer.trans player⟩ }

/-- What an event does to the hub keeps it in order. -/
theorem orderly_run {station : Station (Metered δ) ρ} {config : HubConfig}
    (h : station.hub.Orderly config) (events : List Event) :
    (station.run events).hub.Orderly config := by
  induction events generalizing station with
  | nil => exact h
  | cons event events ih =>
    obtain ⟨commands, ran, -⟩ := station.commands_apply event
    exact ih (ran ▸ h.run commands)

/-- However texts, teardowns and releases follow each other, if nobody is closed twice: a teardown
closes its session at once and leaves everything else for later; a release stops the stream if the
session holds the controller's slot then, and the playback if it is the session's, and harms nobody
else; and after it the session's id is on none of the books and never comes back. -/
theorem released_run (device : δ) (renderer : ρ) (config : HubConfig) (disk : Recording.Disk)
    (key : ApiKey) (shut : CaptureDevice.isOpen device = false) (events : List Event)
    (once : (events.filterMap Event.leaver?).Nodup) :
    let start : Station (Metered δ) ρ :=
      { hub := Hub.new { device : Metered δ } renderer config disk, key }
    (∀ first number rest seat, events = first ++ .teardown number :: rest →
      (start.run first).floor.seat? number = some seat → seat.held = true →
        ((start.run first).apply (.teardown number)).floor.phase? number = some .closed ∧
        ((start.run first).apply (.teardown number)).hub = (start.run first).hub ∧
        ((start.run first).apply (.teardown number)).departures =
          (start.run first).departures ++ [(seat.session.id, seat.session.phase)]) ∧
    ∀ first now position rest id phase, events = first ++ .release now position :: rest →
      (start.run first).departures[position]? = some (id, phase) →
        (start.run first).Released ((start.run first).apply (.release now position)) id ∧
        ∀ later, later <+: rest →
          (start.run (first ++ .release now position :: later)).Forgets id := by
  intro start
  refine ⟨fun first number rest seat _ found held ↦ ?_,
    fun first now position rest id phase split departure ↦ ?_⟩
  · rw [apply, if_pos (isServed_iff.mpr ⟨seat, found, held⟩), teardown, found]
    refine ⟨?_, rfl, rfl⟩
    rw [Floor.phase?_modifySession_self found]
    rfl
  obtain ⟨seated, -⟩ := accountable_run start.hub key first
  have new : start.Accounted := accounted_new { device : Metered δ } renderer config disk key
  have orderly := (Hub.orderly_new renderer config disk shut : start.hub.Orderly config)
  rw [split, List.filterMap_append] at once
  obtain ⟨onceBefore, -, apart⟩ := List.nodup_append.mp once
  have parted := parted_run start.hub key onceBefore
  have role := parted.phase_of_holder seated (accounted_run new first) departure
  refine ⟨released_releaseAt (orderly_run orderly first) departure role now,
    fun later before ↦ ?_⟩
  obtain ⟨number, left, gone⟩ := parted.gone_release seated departure now
  have never : number ∉ later.filterMap Event.leaver? := by
    intro again
    exact apart number left number ((before.filterMap _).subset again) rfl
  have stays := gone.run (seated.apply _) never
  rw [← run_append_singleton, ← run_append, List.append_assoc] at stays
  exact stays.forgets (accountable_run start.hub key _).1 (accounted_run new _)

/-- A station to rehearse with, whose device is metered. -/
def meteredRehearsal : Station (Metered ScriptedDevice) LabelRenderer where
  hub := .new { device := { script := [.frame 1] } } {} {} .empty
  key := ⟨"k3y"⟩

/-- A controller starts a stream and leaves, and another takes the slot over. -/
def handover : List Event :=
  [.connect 1 10 0, .text 0 ⟨2026, 1, 1, 12, 0, 0⟩ 0 "[\"auth\",\"k3y\",\"controller\"]",
    .text 0 ⟨2026, 1, 1, 12, 0, 0⟩ 0 "[\"config\"]", .connect 2 10 0, .teardown 0,
    .text 0 ⟨2026, 1, 1, 12, 0, 0⟩ 1 "[\"auth\",\"k3y\",\"controller\"]"]

/-- The first controller is released only then, and the stream is its successor's. -/
theorem released_successor :
    ((handover ++ [Event.release 50 0]).filterMap Event.leaver?).Nodup ∧
      (meteredRehearsal.run handover).departures[0]? = some (1, .controller) ∧
      (meteredRehearsal.run handover).hub.roster.controller = some (2, 1) ∧
      (meteredRehearsal.run handover).hub.isStreaming = true ∧
      ((meteredRehearsal.run handover).apply (.release 50 0)).hub.isStreaming = true ∧
      (meteredRehearsal.run (handover ++ [.release 50 0])).Forgets 1 := by
  have once : ((handover ++ [Event.release 50 0]).filterMap Event.leaver?).Nodup := by decide
  have departure : (meteredRehearsal.run handover).departures[0]? = some (1, .controller) := by
    decide +kernel
  have slot : (meteredRehearsal.run handover).hub.roster.controller = some (2, 1) := by
    decide +kernel
  have raised : (meteredRehearsal.run handover).hub.isStreaming = true := by decide +kernel
  have key := released_run ({ script := [.frame 1] } : ScriptedDevice) ({} : LabelRenderer) {}
    .empty ⟨"k3y"⟩ rfl (handover ++ [Event.release 50 0]) once
  rw [← meteredRehearsal] at key
  obtain ⟨released, forgets⟩ := key.2 handover 50 0 [] 1 .controller rfl departure
  have free : ¬(meteredRehearsal.run handover).hub.HoldsSlot 1 := by
    rw [Hub.HoldsSlot, slot]
    decide
  have spared := (released.spared free).1.streaming
  refine ⟨once, departure, slot, raised, ?_, forgets [] (List.prefix_refl _)⟩
  rw [Hub.isStreaming, spared, ← Hub.isStreaming, raised]

end Glyphcast.Station
