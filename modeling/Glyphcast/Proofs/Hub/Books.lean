import Glyphcast.Proofs.Hub.Stop
import Glyphcast.Proofs.Playback.Sound
import Mathlib.Tactic.Set

/-!
# Whose names are on the books

A hub has three books: its viewers, the controller's slot, and the owner of the playback. They hold
ids, and nothing tells them when the session with an id has gone; it is a release that strikes its
names out.

Few commands write a name. `Command.Admits` tells which name that is, and `Books.apply` says that
every other command strikes names out at most. A release is taken in two halves. The first is about
the stream, and goes by the phase in which the session left: a controller that is still in the slot
takes the stream with it, and anyone else with a role is struck off the viewers. The second is about
the playback, and is the same for everyone.
-/

namespace Glyphcast

namespace Roster

variable {entry : Nat × SeatNumber} {entries : List (Nat × SeatNumber)}

private theorem mem_insertSorted {other : Nat × SeatNumber}
    (h : other ∈ insertSorted entry entries) : other = entry ∨ other ∈ entries := by
  induction entries with
  | nil => exact .inl (List.mem_singleton.mp h)
  | cons first rest ih =>
    unfold insertSorted at h
    split_ifs at h with before same
    · exact List.mem_cons.mp h
    · rcases List.mem_cons.mp h with new | old
      · exact .inl new
      · exact .inr (List.mem_cons_of_mem first old)
    · rcases List.mem_cons.mp h with rfl | later
      · exact .inr List.mem_cons_self
      · exact (ih later).imp_right (List.mem_cons_of_mem first)

private theorem sorted_insertSorted (sorted : entries.Pairwise (·.1 < ·.1)) :
    (insertSorted entry entries).Pairwise (·.1 < ·.1) := by
  induction entries with
  | nil => exact List.pairwise_singleton _ _
  | cons first rest ih =>
    obtain ⟨least, sorted'⟩ := List.pairwise_cons.mp sorted
    unfold insertSorted
    split_ifs with before same
    · refine List.pairwise_cons.mpr ⟨fun other mem ↦ ?_, sorted⟩
      rcases List.mem_cons.mp mem with rfl | later
      · exact before
      · exact Nat.lt_trans before (least other later)
    · exact List.pairwise_cons.mpr ⟨fun other mem ↦ same ▸ least other mem, sorted'⟩
    · refine List.pairwise_cons.mpr ⟨fun other mem ↦ ?_, ih sorted'⟩
      rcases mem_insertSorted mem with rfl | later
      · omega
      · exact least other later

theorem mem_insertSorted_iff (sorted : entries.Pairwise (·.1 < ·.1)) {other : Nat × SeatNumber} :
    other ∈ insertSorted entry entries ↔ other = entry ∨ (other ∈ entries ∧ other.1 ≠ entry.1) := by
  induction entries with
  | nil => simp only [insertSorted, List.mem_singleton, List.not_mem_nil, false_and, or_false]
  | cons first rest ih =>
    obtain ⟨least, sorted'⟩ := List.pairwise_cons.mp sorted
    unfold insertSorted
    split_ifs with before same
    · rw [List.mem_cons]
      refine or_congr_right (and_iff_left_of_imp fun mem ↦ ?_).symm
      rcases List.mem_cons.mp mem with rfl | later
      · omega
      · have := least other later
        omega
    · rw [List.mem_cons, List.mem_cons]
      refine or_congr_right ⟨fun later ↦ ⟨.inr later, ?_⟩, fun ⟨old, apart⟩ ↦ ?_⟩
      · have := least other later
        omega
      · rcases old with rfl | later
        · exact absurd same.symm apart
        · exact later
    · rw [List.mem_cons, ih sorted', List.mem_cons]
      constructor
      · rintro (rfl | rfl | ⟨later, apart⟩)
        · exact .inr ⟨.inl rfl, fun h ↦ same h.symm⟩
        · exact .inl rfl
        · exact .inr ⟨.inr later, apart⟩
      · rintro (rfl | ⟨rfl | later, apart⟩)
        · exact .inr (.inl rfl)
        · exact .inl rfl
        · exact .inr (.inr ⟨later, apart⟩)

end Roster

namespace Hub

variable {δ ρ : Type}

/-! ## What writes no name -/

/-- Whatever is on the books afterwards was on them before. -/
structure Fades (before after : Hub δ ρ) : Prop where
  viewers : after.roster.viewers.Sublist before.roster.viewers
  controller : ∀ entry, after.roster.controller = some entry →
    before.roster.controller = some entry
  owner : ∀ id, after.playbackOwner = some id → before.playbackOwner = some id

theorem Fades.trans {first second third : Hub δ ρ} (h : first.Fades second)
    (h' : second.Fades third) : first.Fades third :=
  ⟨h'.viewers.trans h.viewers, fun entry slot ↦ h.controller entry (h'.controller entry slot),
    fun id owned ↦ h.owner id (h'.owner id owned)⟩

private theorem fades_of_eq {before after : Hub δ ρ} (roster : after.roster = before.roster)
    (owner : after.playbackOwner = before.playbackOwner) : before.Fades after where
  viewers := roster ▸ .refl _
  controller := fun entry slot ↦ by rwa [roster] at slot
  owner := fun id owned ↦ by rwa [owner] at owned

theorem SameBooks.fades {before after : Hub δ ρ} (h : before.SameBooks after)
    (viewers : after.roster.viewers.Sublist before.roster.viewers) : before.Fades after where
  viewers := viewers
  controller := fun entry slot ↦ by rwa [h.controller] at slot
  owner := fun id owned ↦ by rwa [h.playbackOwner] at owned

section

variable [CaptureDevice δ] (hub : Hub δ ρ)

@[simp] private theorem roster_join (now : Nat) : (hub.join now).roster = hub.roster := by
  unfold join
  cases hub.capture <;> rfl

@[simp] theorem roster_startStreaming [FrameRenderer ρ] (now : Nat) (cameraIndex : UInt32)
    (resolution : String) (fps : UInt32) :
    (hub.startStreaming now cameraIndex resolution fps).2.roster = hub.roster := by
  unfold startStreaming
  split
  · rfl
  · split
    · rfl
    · dsimp only
      split <;> exact hub.roster_join now

@[simp] theorem roster_read [FrameRenderer ρ] : hub.read.roster = hub.roster := by
  unfold read
  split
  · rfl
  · rfl
  · split <;> rfl

omit [CaptureDevice δ] in
@[simp] theorem roster_keep (now : Nat) : (hub.keep now).roster = hub.roster := by
  unfold keep
  split
  · rfl
  · rfl
  · split
    · dsimp only
      split <;> rfl
    · rfl
    · rfl

omit [CaptureDevice δ] in
@[simp]
theorem playbackOwner_keep (now : Nat) : (hub.keep now).playbackOwner = hub.playbackOwner := by
  unfold keep
  split
  · rfl
  · rfl
  · split
    · dsimp only
      split <;> rfl
    · rfl
    · rfl

omit [CaptureDevice δ] in
@[simp] theorem player_keep (now : Nat) : (hub.keep now).player = hub.player := by
  unfold keep
  split
  · rfl
  · rfl
  · split
    · dsimp only
      split <;> rfl
    · rfl
    · rfl

private theorem fades_stopStreaming (now : Nat) : hub.Fades (hub.stopStreaming now) := by
  cases hasLoop : hub.capture.hasLoop with
  | false =>
    rw [stopStreaming_of_atHand hasLoop]
    exact fades_of_eq rfl rfl
  | true =>
    refine (hub.sameBooks_stopStreaming now).fades ?_
    rw [stopStreaming_of_hasLoop hasLoop]
    exact List.nil_sublist _

private theorem viewers_conclude (floor : Floor) (now : Nat) :
    (hub.conclude floor now).1.roster.viewers.Sublist hub.roster.viewers := by
  unfold conclude failCapture
  split
  · exact .refl _
  · exact .refl _
  · split
    · dsimp only
      split
      · exact List.filter_sublist
      · exact .refl _
      · split <;> exact .refl _
    · exact .refl _
    · exact .refl _

/-! ## A release, half by half -/

/-- The first half of a release: what the session had to do with the stream. -/
def unregister (floor : Floor) (now id : Nat) (phase : Phase) : Hub δ ρ :=
  match phase with
  | .controller =>
    let (held, roster) := (hub.roster.remove floor id).2.release id
    if held then { hub with roster }.stopStreaming now else { hub with roster }
  | .viewer => hub.removeViewer floor id
  | .unauthenticated | .closed => hub

omit [CaptureDevice δ] in
/-- The second half: the playback, if it is the session's. -/
def endPlayback (id : Nat) : Hub δ ρ :=
  if hub.playbackOwner = some id then
    { hub with player := hub.player.stop.2, playbackOwner := none }
  else hub

theorem releaseSession_eq (floor : Floor) (now id : Nat) (phase : Phase) :
    hub.releaseSession floor now id phase = (hub.unregister floor now id phase).endPlayback id := by
  cases phase <;> rfl

/-- Whether an id is in the controller's slot. -/
def HoldsSlot (id : Nat) : Prop := hub.roster.controller.any (·.1 == id) = true

instance (id : Nat) : Decidable (hub.HoldsSlot id) := inferInstanceAs (Decidable (_ = true))

theorem unregister_of_holder (floor : Floor) (now : Nat) {id : Nat} (holds : hub.HoldsSlot id) :
    hub.unregister floor now id .controller =
      stopStreaming { hub with roster := ⟨(hub.roster.remove floor id).2.viewers, none⟩ } now := by
  have held : (hub.roster.remove floor id).2.controller.any (·.1 == id) = true := holds
  simp only [unregister, Roster.release, held, if_true]

theorem unregister_of_other (floor : Floor) (now : Nat) {id : Nat} {phase : Phase}
    (other : ¬(phase = .controller ∧ hub.HoldsSlot id)) :
    hub.unregister floor now id phase =
      if phase.isAuthenticated then hub.removeViewer floor id else hub := by
  cases phase with
  | controller =>
    have free : (hub.roster.remove floor id).2.controller.any (·.1 == id) = false :=
      Bool.eq_false_iff.mpr fun holds ↦ other ⟨rfl, holds⟩
    simp only [unregister, Roster.release, free, Bool.false_eq_true, if_false]
    rfl
  | viewer => rfl
  | unauthenticated => rfl
  | closed => rfl

omit [CaptureDevice δ] in
theorem fades_endPlayback (id : Nat) : hub.Fades (hub.endPlayback id) := by
  unfold endPlayback
  split_ifs
  · exact ⟨.refl _, fun _ slot ↦ slot, nofun⟩
  · exact fades_of_eq rfl rfl

omit [CaptureDevice δ] in
private theorem playbackOwner_endPlayback (id : Nat) :
    (hub.endPlayback id).playbackOwner ≠ some id := by
  unfold endPlayback
  split_ifs with owned
  · exact nofun
  · exact owned

omit [CaptureDevice δ] in
@[simp] theorem roster_endPlayback (id : Nat) : (hub.endPlayback id).roster = hub.roster := by
  unfold endPlayback
  split_ifs <;> rfl

omit [CaptureDevice δ] in
theorem sameStream_endPlayback (id : Nat) :
    hub.SameStream (hub.endPlayback id) ∧ (hub.endPlayback id).recorder = hub.recorder := by
  unfold endPlayback
  split_ifs <;> exact ⟨⟨rfl, rfl, rfl, rfl⟩, rfl⟩

omit [CaptureDevice δ] in
theorem playback_endPlayback (id : Nat) :
    (hub.playbackOwner = some id → (hub.endPlayback id).playbackOwner = none ∧
      (hub.endPlayback id).player.status = .idle ∧
      ∀ timer ∈ (hub.endPlayback id).player.timers, timer.cancelled = true) ∧
    (hub.playbackOwner ≠ some id → (hub.endPlayback id).playbackOwner = hub.playbackOwner ∧
      (hub.endPlayback id).player = hub.player) := by
  obtain ⟨idle, -, cancelled⟩ := Playback.Reader.idle_stop hub.player
  unfold endPlayback
  split_ifs with owned
  · exact ⟨fun _ ↦ ⟨rfl, idle, cancelled⟩, absurd owned⟩
  · exact ⟨fun h ↦ absurd h owned, fun _ ↦ ⟨rfl, rfl⟩⟩

/-- Whoever does not hold the slot leaves the stream and the slot as they are, and strikes nobody
off who is alive but itself. -/
theorem spared_unregister (floor : Floor) (now : Nat) {id : Nat} (free : ¬hub.HoldsSlot id)
    (phase : Phase) :
    hub.SameStream (hub.unregister floor now id phase) ∧
      (hub.unregister floor now id phase).roster.controller = hub.roster.controller ∧
      ∀ entry ∈ hub.roster.viewers, entry.1 ≠ id → floor.isAlive entry.2 = true →
        entry ∈ (hub.unregister floor now id phase).roster.viewers := by
  rw [hub.unregister_of_other floor now fun h ↦ free h.2]
  split_ifs
  · refine ⟨⟨rfl, rfl, rfl, rfl⟩, rfl, fun entry mem apart alive ↦ ?_⟩
    exact List.mem_filter.mpr ⟨List.mem_filter.mpr ⟨mem, alive⟩, bne_iff_ne.mpr apart⟩
  · exact ⟨⟨rfl, rfl, rfl, rfl⟩, rfl, fun _ mem _ _ ↦ mem⟩

theorem player_unregister (floor : Floor) (now id : Nat) (phase : Phase) :
    (hub.unregister floor now id phase).player = hub.player ∧
      (hub.unregister floor now id phase).playbackOwner = hub.playbackOwner ∧
      (hub.unregister floor now id phase).recorder = hub.recorder := by
  by_cases holder : phase = .controller ∧ hub.HoldsSlot id
  · obtain ⟨rfl, holds⟩ := holder
    rw [hub.unregister_of_holder floor now holds]
    have same := sameBooks_stopStreaming
      { hub with roster := ⟨(hub.roster.remove floor id).2.viewers, none⟩ } now
    exact ⟨same.player, same.playbackOwner, same.recorder⟩
  · rw [hub.unregister_of_other floor now holder]
    split_ifs <;> exact ⟨rfl, rfl, rfl⟩

omit [CaptureDevice δ] in
private theorem viewers_removeViewer (floor : Floor) (id : Nat) :
    (hub.removeViewer floor id).roster.viewers.Sublist hub.roster.viewers ∧
      ∀ entry ∈ (hub.removeViewer floor id).roster.viewers, entry.1 ≠ id :=
  ⟨List.filter_sublist.trans List.filter_sublist,
    fun _ mem ↦ bne_iff_ne.mp (List.mem_filter.mp mem).2⟩

theorem fades_unregister (floor : Floor) (now id : Nat) (phase : Phase) :
    hub.Fades (hub.unregister floor now id phase) ∧
      (phase.isAuthenticated = true →
        ∀ entry ∈ (hub.unregister floor now id phase).roster.viewers, entry.1 ≠ id) ∧
      (phase = .controller → ∀ entry,
        (hub.unregister floor now id phase).roster.controller = some entry → entry.1 ≠ id) := by
  obtain ⟨fewer, gone⟩ := hub.viewers_removeViewer floor id
  by_cases holder : phase = .controller ∧ hub.HoldsSlot id
  · obtain ⟨rfl, holds⟩ := holder
    rw [hub.unregister_of_holder floor now holds]
    set middle : Hub δ ρ := { hub with roster := ⟨(hub.roster.remove floor id).2.viewers, none⟩ }
    have struck : hub.Fades middle := ⟨fewer, nofun, fun _ owned ↦ owned⟩
    have stopped := middle.fades_stopStreaming now
    exact ⟨struck.trans stopped, fun _ entry mem ↦ gone entry (stopped.viewers.subset mem),
      fun _ entry slot ↦ nomatch stopped.controller entry slot⟩
  · rw [hub.unregister_of_other floor now holder]
    -- the slot is left alone, and if this is a controller somebody else is in it
    have free (controller : phase = .controller) (entry : Nat × SeatNumber)
        (slot : hub.roster.controller = some entry) : entry.1 ≠ id := by
      rintro rfl
      exact holder ⟨controller, by rw [HoldsSlot, slot, Option.any_some, beq_self_eq_true]⟩
    split_ifs with role
    · exact ⟨⟨fewer, fun _ slot ↦ slot, fun _ owned ↦ owned⟩, fun _ ↦ gone, free⟩
    · exact ⟨fades_of_eq rfl rfl, fun h ↦ absurd h role, free⟩

/-! ## The books -/

/-- Whoever is on a book is one that the book is for. -/
structure Books (viewer slot : Nat × SeatNumber → Prop) (owner : Nat → Prop) (hub : Hub δ ρ) :
    Prop where
  /-- There is one viewer for each id. -/
  sorted : hub.roster.viewers.Pairwise (·.1 < ·.1)
  viewers : ∀ entry ∈ hub.roster.viewers, viewer entry
  controller : ∀ entry, hub.roster.controller = some entry → slot entry
  owner : ∀ id, hub.playbackOwner = some id → owner id

variable {viewer slot : Nat × SeatNumber → Prop} {owner : Nat → Prop} {hub} {after : Hub δ ρ}

omit [CaptureDevice δ] in
private theorem Books.of_fades (h : hub.Books viewer slot owner) (fades : hub.Fades after) :
    after.Books viewer slot owner where
  sorted := h.sorted.sublist fades.viewers
  viewers := fun entry mem ↦ h.viewers entry (fades.viewers.subset mem)
  controller := fun entry held ↦ h.controller entry (fades.controller entry held)
  owner := fun id owned ↦ h.owner id (fades.owner id owned)

omit [CaptureDevice δ] in
theorem Books.mono {viewer' slot' : Nat × SeatNumber → Prop} {owner' : Nat → Prop}
    (h : hub.Books viewer slot owner) (viewers : ∀ entry, viewer entry → viewer' entry)
    (slots : ∀ entry, slot entry → slot' entry) (owners : ∀ id, owner id → owner' id) :
    hub.Books viewer' slot' owner' where
  sorted := h.sorted
  viewers := fun entry mem ↦ viewers entry (h.viewers entry mem)
  controller := fun entry held ↦ slots entry (h.controller entry held)
  owner := fun id owned ↦ owners id (h.owner id owned)

theorem Books.releaseSession (h : hub.Books viewer slot owner) (floor : Floor) (now id : Nat)
    (phase : Phase) :
    (hub.releaseSession floor now id phase).Books
      (fun entry ↦ viewer entry ∧ (phase.isAuthenticated = true → entry.1 ≠ id))
      (fun entry ↦ slot entry ∧ (phase = .controller → entry.1 ≠ id))
      (fun other ↦ owner other ∧ other ≠ id) := by
  obtain ⟨fades, viewers, controller⟩ := hub.fades_unregister floor now id phase
  rw [releaseSession_eq]
  set middle := hub.unregister floor now id phase
  have roster := middle.roster_endPlayback id
  have faded := fades.trans (middle.fades_endPlayback id)
  exact {
    sorted := h.sorted.sublist faded.viewers
    viewers := fun entry mem ↦ by
      refine ⟨h.viewers entry (faded.viewers.subset mem), fun role ↦ viewers role entry ?_⟩
      rwa [roster] at mem
    controller := fun entry held ↦ by
      refine ⟨h.controller entry (faded.controller entry held), fun role ↦ controller role entry ?_⟩
      rwa [roster] at held
    owner := fun other owned ↦ by
      refine ⟨h.owner other (faded.owner other owned), ?_⟩
      rintro rfl
      exact middle.playbackOwner_endPlayback _ owned }

/-- Whether a command writes only names that a book is for. -/
def Command.Admits (viewer slot : Nat × SeatNumber → Prop) (owner : Nat → Prop) : Command → Prop
  | .addViewer id number => viewer (id, number)
  | .claimController _ id number => viewer (id, number) ∧ slot (id, number)
  | .startPlayback _ id _ => owner id
  | _ => True

theorem Command.Admits.mono {viewer' slot' : Nat × SeatNumber → Prop} {owner' : Nat → Prop}
    {command : Command} (h : command.Admits viewer slot owner)
    (viewers : ∀ entry, viewer entry → viewer' entry) (slots : ∀ entry, slot entry → slot' entry)
    (owners : ∀ id, owner id → owner' id) : command.Admits viewer' slot' owner' := by
  cases command with
  | addViewer id number => exact viewers _ h
  | claimController floor id number => exact ⟨viewers _ h.1, slots _ h.2⟩
  | startPlayback filename id number => exact owners id h
  | _ => exact trivial

omit [CaptureDevice δ] in
theorem Books.addViewer (h : hub.Books viewer slot owner) {id : Nat} {number : SeatNumber}
    (admitted : viewer (id, number)) : (hub.addViewer id number).Books viewer slot owner where
  sorted := Roster.sorted_insertSorted h.sorted
  viewers := fun entry mem ↦ by
    rcases Roster.mem_insertSorted mem with rfl | old
    · exact admitted
    · exact h.viewers entry old
  controller := h.controller
  owner := h.owner

omit [CaptureDevice δ] in
theorem Books.claimController (h : hub.Books viewer slot owner) (floor : Floor) {id : Nat}
    {number : SeatNumber} (admitted : viewer (id, number)) (taken : slot (id, number)) :
    (hub.claimController floor id number).2.Books viewer slot owner := by
  unfold Hub.claimController
  split
  · exact h
  · next claim =>
    obtain ⟨rfl, -⟩ := Roster.claim_eq_ok_iff.mp claim
    refine { h.addViewer admitted with controller := fun entry held ↦ ?_ }
    cases held
    exact taken

omit [CaptureDevice δ] in
theorem Books.startPlayback (h : hub.Books viewer slot owner) (filename : String) {id : Nat}
    (number : SeatNumber) (admitted : owner id) :
    (hub.startPlayback filename id number).2.Books viewer slot owner := by
  unfold Hub.startPlayback
  split
  · exact h
  · split
    · exact h.of_fades (fades_of_eq rfl rfl)
    · refine { h with owner := fun other owned ↦ ?_ }
      cases owned
      exact admitted

variable [FrameRenderer ρ]

theorem Books.apply (h : hub.Books viewer slot owner) {command : Command}
    (admits : command.Admits viewer slot owner) : (hub.apply command).Books viewer slot owner := by
  cases command with
  | addViewer id number => exact h.addViewer admits
  | claimController floor id number => exact h.claimController floor admits.1 admits.2
  | startPlayback filename id number => exact h.startPlayback filename number admits
  | releaseSession floor now id phase =>
    exact (h.releaseSession floor now id phase).mono (fun _ ↦ And.left) (fun _ ↦ And.left)
      fun _ ↦ And.left
  | startStreaming now cameraIndex resolution fps =>
    refine h.of_fades (fades_of_eq (hub.roster_startStreaming now cameraIndex resolution fps) ?_)
    exact (hub.sameBooks_startStreaming now cameraIndex resolution fps).playbackOwner
  | stopStreaming now => exact h.of_fades (hub.fades_stopStreaming now)
  | removeViewer floor id =>
    exact h.of_fades ⟨(hub.viewers_removeViewer floor id).1, fun _ slot ↦ slot, fun _ owned ↦ owned⟩
  | broadcast floor text =>
    exact h.of_fades ⟨List.filter_sublist, fun _ slot ↦ slot, fun _ owned ↦ owned⟩
  | startRecording now stamp =>
    refine h.of_fades ?_
    rw [Hub.apply, Hub.startRecording]
    split <;> exact fades_of_eq rfl rfl
  | stopRecording now => exact h.of_fades (fades_of_eq rfl rfl)
  | pausePlayback => exact h.of_fades (fades_of_eq rfl rfl)
  | resumePlayback => exact h.of_fades (fades_of_eq rfl rfl)
  | stopPlayback => exact h.of_fades ⟨.refl _, fun _ slot ↦ slot, nofun⟩
  | setPlaybackSpeed speed => exact h.of_fades (fades_of_eq rfl rfl)
  | runPlayer floor now => exact h.of_fades (fades_of_eq rfl rfl)
  | windUp now => exact h.of_fades ⟨List.nil_sublist _, fun _ slot ↦ slot, nofun⟩
  | shutdown now =>
    have stopped := h.of_fades (hub.fades_stopStreaming now)
    exact stopped.of_fades ⟨List.nil_sublist _, fun _ slot ↦ slot, nofun⟩
  | read => exact h.of_fades (fades_of_eq hub.roster_read hub.sameBooks_read.playbackOwner)
  | keep now => exact h.of_fades (fades_of_eq (hub.roster_keep now) (hub.playbackOwner_keep now))
  | conclude floor now =>
    exact h.of_fades ((hub.sameBooks_conclude floor now).fades (hub.viewers_conclude floor now))

theorem Books.run (h : hub.Books viewer slot owner) {commands : List Command}
    (admits : ∀ command ∈ commands, command.Admits viewer slot owner) :
    (hub.run commands).Books viewer slot owner := by
  induction commands generalizing hub with
  | nil => exact h
  | cons command commands ih =>
    obtain ⟨first, rest⟩ := List.forall_mem_cons.mp admits
    exact ih (h.apply first) rest

end

end Hub

end Glyphcast
