import Glyphcast.Proofs.Station.Course

/-!
# Looking away from some sessions

Some sessions of a station are aside, and `outline` is what someone sees of a run who looks away
from their connections. What they send is seen, as they ask it of the hub that all share. What is
not seen is what happens at their sinks, when they are closed and let go, and when they are
released.

`Bystanders` says of whom one may look away like this: they never are controllers, and nothing is
received from them once they have left. To the others an event that is not seen is nothing: they are
dealt nothing by it (`deal_of_unseen`), and sit where they sat (`seat?_of_unseen`).
-/

namespace Glyphcast.Station

variable {δ ρ : Type}

/-! ## What is seen of a run -/

/-- The seat from which something is received. -/
def Event.sender? : Event → Option SeatNumber
  | text _ _ number _ | bytes number => some number
  | _ => none

/-- The seat whose connection or sink an event is about. -/
def Event.link? : Event → Option SeatNumber
  | teardown number | closeSink number | drop number | sink number _ _ => some number
  | _ => none

/-- Whether the session in a seat is aside. -/
def isAside (aside : Nat → Bool) (station : Station δ ρ) (number : SeatNumber) : Bool :=
  (station.floor.seat? number).any (aside ·.session.id)

theorem isAside_eq {aside : Nat → Bool} {station : Station δ ρ} {number : SeatNumber} {seat : Seat}
    (found : station.floor.seat? number = some seat) :
    station.isAside aside number = aside seat.session.id := by
  rw [isAside, found, Option.any_some]

/-- What is seen of an event. Of a release it is who is released, and not in which place the
departure stood. -/
inductive Sight where
  /-- The event. -/
  | event (event : Event)
  /-- The release of a session. -/
  | release (now id : Nat) (phase : Phase)
  deriving DecidableEq

/-- What is seen of an event by someone who looks away from the connections, the sinks and the
releases of those aside. -/
def sight? (aside : Nat → Bool) (station : Station δ ρ) (event : Event) : Option Sight :=
  match event with
  | .release now position =>
    match station.departures[position]? with
    | none => none
    | some (id, phase) => if aside id then none else some (.release now id phase)
  | event => if event.link?.any (station.isAside aside) then none else some (.event event)

/-- Nobody aside is a controller. -/
def Humble (aside : Nat → Bool) (station : Station δ ρ) : Prop :=
  ∀ seat ∈ station.floor.seats, aside seat.session.id = true → seat.session.phase ≠ .controller

/-- What is received from somebody aside is received before the connection is closed. -/
def Prompt (aside : Nat → Bool) (station : Station δ ρ) (event : Event) : Prop :=
  ∀ number ∈ event.sender?, ∀ seat ∈ station.floor.seat? number, aside seat.session.id = true →
    seat.held = true ∧ seat.session.phase ≠ .closed

instance (aside : Nat → Bool) (station : Station δ ρ) : Decidable (station.Humble aside) :=
  List.decidableBAll _ _

instance (aside : Nat → Bool) (station : Station δ ρ) (event : Event) :
    Decidable (station.Prompt aside event) :=
  inferInstanceAs (Decidable (∀ number ∈ event.sender?, ∀ seat ∈ station.floor.seat? number,
    aside seat.session.id = true → seat.held = true ∧ seat.session.phase ≠ .closed))

variable [CaptureDevice δ] [FrameRenderer ρ]

/-- What is seen of a run. -/
def outline (aside : Nat → Bool) (station : Station δ ρ) : List Event → List Sight
  | [] => []
  | event :: events =>
    (station.sight? aside event).toList ++ (station.apply event).outline aside events

/-- In a run those aside never are controllers, and they send nothing once they have left. -/
def Bystanders (aside : Nat → Bool) (station : Station δ ρ) : List Event → Prop
  | [] => station.Humble aside
  | event :: events =>
    station.Humble aside ∧ station.Prompt aside event ∧
      (station.apply event).Bystanders aside events

instance decidableBystanders (aside : Nat → Bool) (station : Station δ ρ) :
    (events : List Event) → Decidable (station.Bystanders aside events)
  | [] => inferInstanceAs (Decidable (station.Humble aside))
  | event :: events =>
    have := decidableBystanders aside (station.apply event) events
    inferInstanceAs (Decidable (_ ∧ _ ∧ _))

/-- In every state of a run nobody aside is a controller. -/
theorem Bystanders.humble {aside : Nat → Bool} {station : Station δ ρ} {events : List Event}
    (h : station.Bystanders aside events) : station.Humble aside := by
  cases events with
  | nil => exact h
  | cons event events => exact h.1

/-! ## An event that is seen, and one that is not -/

section

variable {aside : Nat → Bool} {station : Station δ ρ} {event : Event}

omit [CaptureDevice δ] [FrameRenderer ρ] in
theorem unseen_cases (unseen : station.sight? aside event = none) :
    (∃ other, event.link? = some other ∧ station.isAside aside other = true) ∨
      ∃ now position, event = .release now position ∧
        ∀ departure, station.departures[position]? = some departure → aside departure.1 = true := by
  have link (same : station.sight? aside event =
      if event.link?.any (station.isAside aside) then none else some (.event event)) :
      ∃ other, event.link? = some other ∧ station.isAside aside other = true := by
    rw [same] at unseen
    split_ifs at unseen with isAside
    exact (Option.any_eq_true ..).mp isAside
  cases event with
  | release now position =>
    refine .inr ⟨now, position, rfl, fun ⟨id, phase⟩ departure ↦ ?_⟩
    rw [sight?, departure] at unseen
    dsimp only at unseen
    split_ifs at unseen with isAside
    exact isAside
  | _ => exact .inl (link rfl)

omit [CaptureDevice δ] [FrameRenderer ρ] in
theorem seen_cases {sight : Sight} (seen : station.sight? aside event = some sight) :
    (sight = .event event ∧ (∀ now position, event ≠ .release now position) ∧
        ¬event.link?.any (station.isAside aside) = true) ∨
      ∃ now position id phase, event = .release now position ∧ sight = .release now id phase ∧
        station.departures[position]? = some (id, phase) ∧ aside id = false := by
  have other (same : station.sight? aside event =
      if event.link?.any (station.isAside aside) then none else some (.event event)) :
      sight = .event event ∧ ¬event.link?.any (station.isAside aside) = true := by
    rw [same] at seen
    split_ifs at seen with isAside
    exact ⟨(Option.some.inj seen).symm, isAside⟩
  cases event with
  | release now position =>
    rw [sight?] at seen
    cases departure : station.departures[position]? with
    | none =>
      rw [departure] at seen
      nomatch seen
    | some departing =>
      rw [departure] at seen
      dsimp only at seen
      split_ifs at seen with isAside
      exact .inr ⟨now, position, departing.1, departing.2, rfl, (Option.some.inj seen).symm,
        departure, Bool.eq_false_iff.mpr isAside⟩
  | _ =>
    obtain ⟨same, link⟩ := other rfl
    exact .inl ⟨same, nofun, link⟩

/-- Nothing that is not seen is dealt to anyone but those aside. -/
theorem deal_of_unseen (unseen : station.sight? aside event = none) {number : SeatNumber}
    (apart : station.isAside aside number = false) :
    station.deal number event = [] ∧ (∀ sink, event.sinkAt number sink = sink) ∧
      ∀ held, event.heldAt number held = held := by
  rcases unseen_cases unseen with ⟨other, link, isAside⟩ | ⟨now, position, rfl, -⟩
  · have ne : other ≠ number := by
      rintro rfl
      exact Bool.false_ne_true (apart.symm.trans isAside)
    cases event with
    | teardown _ =>
      cases link
      exact ⟨if_neg fun h ↦ ne h.1, fun _ ↦ rfl, fun _ ↦ rfl⟩
    | closeSink _ =>
      cases link
      exact ⟨if_neg fun h ↦ ne h.1, fun _ ↦ rfl, fun _ ↦ rfl⟩
    | drop _ =>
      cases link
      exact ⟨rfl, fun _ ↦ rfl, fun _ ↦ if_neg ne⟩
    | sink _ move sink =>
      cases link
      exact ⟨if_neg ne, fun _ ↦ if_neg ne, fun _ ↦ rfl⟩
    | _ => cases link
  · exact ⟨rfl, fun _ ↦ rfl, fun _ ↦ rfl⟩

/-- Whoever is not aside does not change by what is not seen. -/
theorem seat?_of_unseen (accounted : station.Accounted)
    (unseen : station.sight? aside event = none) {number : SeatNumber} {seat : Seat}
    (found : station.floor.seat? number = some seat) (apart : aside seat.session.id = false) :
    (station.apply event).floor.seat? number = some seat := by
  obtain ⟨deal, sink, held⟩ := deal_of_unseen unseen ((isAside_eq found).trans apart)
  rw [seat?_apply accounted found, deal, sink, held]
  rfl

omit [CaptureDevice δ] [FrameRenderer ρ] in
theorem old_of_unseen (unseen : station.sight? aside event = none) : event.isConnect = false := by
  rcases unseen_cases unseen with ⟨other, link, -⟩ | ⟨now, position, rfl, -⟩
  · cases event with
    | connect id capacity now => cases link
    | _ => rfl
  · rfl

theorem phase_of_unseen (accounted : station.Accounted)
    (unseen : station.sight? aside event = none) {number : SeatNumber} {seat later : Seat}
    (found : station.floor.seat? number = some seat)
    (found' : (station.apply event).floor.seat? number = some later) :
    later.session.phase = seat.session.phase ∨ later.session.phase = .closed := by
  cases quiet : event.isQuiet with
  | true =>
    obtain ⟨after, found'', stays⟩ := (station.stays_apply quiet).seat? found
    cases found'.symm.trans found''
    exact .inl stays.phase
  | false =>
    have same := seat?_apply accounted found event
    cases event with
    | teardown other =>
      cases found'.symm.trans same
      rw [Station.deal]
      dsimp only
      split_ifs
      · exact .inr rfl
      · exact .inl rfl
    | connect id capacity now => cases old_of_unseen unseen
    | text now stamp sender text =>
      rcases unseen_cases unseen with ⟨_, link, -⟩ | ⟨_, _, release, -⟩
      · cases link
      · cases release
    | _ => cases quiet

omit [CaptureDevice δ] [FrameRenderer ρ] in
theorem isPrivate_of_link {other : SeatNumber} (link : event.link? = some other) :
    event.isPrivate = true := by
  cases event with
  | teardown number => rfl
  | closeSink number => rfl
  | drop number => rfl
  | sink number move sink => rfl
  | _ => cases link

theorem isAside_of_apply {number : SeatNumber} {seat : Seat}
    (found : station.floor.seat? number = some seat)
    (apart : (station.apply event).isAside aside number = false) :
    aside seat.session.id = false := by
  obtain ⟨later, found', leads⟩ := station.leads_apply event found
  rwa [isAside_eq found', leads.id] at apart

end

end Glyphcast.Station
