import Glyphcast.Proofs.Station.Run

/-!
# Settling is a run

`Station.settle` does everything that is due at one instant, and in a fixed order: departures, the
player, the capture loop, the sinks. Here that is taken apart into events, so that whatever holds
after every run holds of a station that is settled.

The sinks are the part that is not a list of events already. A seat is settled step by step, and
each step is a move; and all seats are settled by changing one after the other.
-/

namespace Glyphcast

private theorem Seat.move_of_step? {seat after : Seat} {now : Nat} {arrival : Option Arrival}
    (h : seat.step? now = some (arrival, after)) :
    ∃ move sink, after = { seat with session := seat.session.move move, sink } := by
  unfold step? at h
  split at h
  · nomatch h
  · cases h
    exact ⟨.leave, seat.sink, rfl⟩
  · cases h
    exact ⟨.take, seat.sink, rfl⟩
  · split at h
    · split at h
      · cases h
        exact ⟨.wait, _, rfl⟩
      · nomatch h
    · split at h
      · unfold finishWrite at h
        dsimp only at h
        split at h
        · cases h
          exact ⟨.fail, _, rfl⟩
        · cases h
          exact ⟨.confirm, _, rfl⟩
      · nomatch h

namespace Floor

private theorem modify_congr {floor : Floor} {number : SeatNumber} {seat : Seat}
    (found : floor.seat? number = some seat) {change other : Seat → Seat}
    (h : change seat = other seat) : floor.modify number change = floor.modify number other := by
  refine congrArg Floor.mk (List.ext_getElem? fun n ↦ ?_)
  by_cases same : number = n
  · subst same
    have found : floor.seats[number]? = some seat := found
    rw [List.getElem?_modify_eq, List.getElem?_modify_eq, found]
    exact congrArg some h
  · rw [List.getElem?_modify_ne _ _ same, List.getElem?_modify_ne _ _ same]

private theorem getElem?_foldl_modify (change : Seat → Seat) (seats : List Seat) (count n : Nat) :
    ((List.range count).foldl (fun seats n ↦ seats.modify n change) seats)[n]? =
      if n < count then seats[n]?.map change else seats[n]? := by
  induction count with
  | zero => rfl
  | succ count ih =>
    rw [List.range_succ, List.foldl_append, List.foldl_cons, List.foldl_nil]
    by_cases last : count = n
    · subst last
      rw [List.getElem?_modify_eq, ih, if_neg (Nat.lt_irrefl _), if_pos (Nat.lt_succ_self _)]
      rfl
    · rw [List.getElem?_modify_ne _ _ last, ih]
      exact if_congr (by omega) rfl rfl

/-- All sinks are settled by settling the seats one after the other. -/
theorem settle_eq_foldl (floor : Floor) (now : Nat) :
    (floor.settle now).2 = (List.range floor.seats.length).foldl
      (fun floor number ↦ floor.modify number fun seat ↦ (seat.settle now).2) floor := by
  have seats : (List.range floor.seats.length).foldl
      (fun floor number ↦ floor.modify number fun seat ↦ (seat.settle now).2) floor =
        ⟨(List.range floor.seats.length).foldl
          (fun seats n ↦ seats.modify n fun seat ↦ (seat.settle now).2) floor.seats⟩ :=
    List.foldl_hom Floor.mk fun _ _ ↦ rfl
  rw [seats]
  refine congrArg Floor.mk (List.ext_getElem? fun n ↦ ?_)
  rw [getElem?_foldl_modify, List.map_map, List.getElem?_map]
  split
  · rfl
  · next beyond => rw [List.getElem?_eq_none (Nat.le_of_not_lt beyond)]; rfl

end Floor

namespace Station

variable {δ ρ : Type} [CaptureDevice δ] [FrameRenderer ρ]

private theorem run_settle_seat (now : Nat) (number : SeatNumber) (seat : Seat)
    (station : Station δ ρ) (found : station.floor.seat? number = some seat) :
    ∃ events, station.run events = { station with
      floor := station.floor.modify number fun seat ↦ (seat.settle now).2 } := by
  -- the recursion of `Seat.settle`: one step, and then the others
  fun_induction Seat.settle seat now generalizing station with
  | case1 seat idle =>
    have still : (seat.settle now).2 = id seat := by
      rw [Seat.settle]
      split
      · rfl
      · next stepped => exact absurd (idle.symm.trans stepped) (by simp)
    refine ⟨[], ?_⟩
    rw [Floor.modify_congr found still, Floor.modify_id]
    rfl
  | case2 seat arrival after stepped arrivals settled rest ih =>
    obtain ⟨move, sink, rfl⟩ := Seat.move_of_step? stepped
    have moved : (station.apply (.sink number move sink)).floor.seat? number =
        some { seat with session := seat.session.move move, sink } := by
      rw [apply, Floor.seat?_modify_self, found]
      rfl
    obtain ⟨events, settles⟩ := ih (station.apply (.sink number move sink)) moved
    refine ⟨.sink number move sink :: events, ?_⟩
    rw [run_cons, settles, apply]
    refine congrArg (fun floor ↦ { station with floor }) ?_
    rw [Floor.modify_modify]
    refine Floor.modify_congr found ?_
    rw [Seat.settle.eq_def seat]
    split
    · next idle => exact absurd (idle.symm.trans stepped) (by simp)
    · next stepped' =>
      cases stepped'.symm.trans stepped
      rfl

private theorem run_settle_floor (station : Station δ ρ) (now : Nat) :
    ∃ events, station.run events =
      { station with floor := (station.floor.settle now).2 } := by
  rw [Floor.settle_eq_foldl]
  -- the numbers were counted before the first seat was settled, and any numbers will do
  generalize List.range station.floor.seats.length = numbers
  induction numbers generalizing station with
  | nil => exact ⟨[], rfl⟩
  | cons number numbers ih =>
    rw [List.foldl_cons]
    cases found : station.floor.seat? number with
    | none =>
      have unchanged : station.floor.modify number (fun seat ↦ (seat.settle now).2) =
          station.floor :=
        congrArg Floor.mk (List.modify_eq_self (List.getElem?_eq_none_iff.mp found))
      rw [unchanged]
      exact ih station
    | some seat =>
      obtain ⟨first, settled⟩ := run_settle_seat now number seat station found
      obtain ⟨rest, settles⟩ := ih { station with
        floor := station.floor.modify number fun seat ↦ (seat.settle now).2 }
      exact ⟨first ++ rest, by rw [run_append, settled, settles]⟩

theorem releaseAll_eq_run (station : Station δ ρ) (now : Nat) :
    station.releaseAll now = station.run (station.departures.map fun _ ↦ .release now 0) := by
  rw [releaseAll, run, List.foldl_map]
  rfl

theorem runCapture_eq_run (station : Station δ ρ) (now : Nat) :
    station.runCapture now = station.run
      (if station.hub.capture.loop?.any (·.nextTick ≤ now) then [.read, .keep now, .conclude now]
      else []) := by
  rw [runCapture]
  split <;> rfl

/-- Doing everything that is due is a run. -/
theorem settle_eq_run (station : Station δ ρ) (now : Nat) :
    ∃ events, (station.settle now).2 = station.run events := by
  let before := ((station.releaseAll now).runPlayer now).runCapture now
  obtain ⟨sinks, settled⟩ := run_settle_floor before now
  refine ⟨station.departures.map (fun _ ↦ .release now 0) ++ ([.runPlayer now] ++
    ((if ((station.releaseAll now).runPlayer now).hub.capture.loop?.any (·.nextTick ≤ now) then
      [.read, .keep now, .conclude now] else []) ++ sinks)), ?_⟩
  rw [run_append, run_append, run_append, ← releaseAll_eq_run]
  rw [show (station.releaseAll now).run [.runPlayer now] = (station.releaseAll now).runPlayer now
    from rfl, ← runCapture_eq_run]
  exact settled.symm

end Station

end Glyphcast
