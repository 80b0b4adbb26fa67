import Glyphcast.Proofs.Playback.Delivery

/-!
# Settling is a run

`Reader.settle` lets every timer run that has something to do, in the order in which they were
started. It does nothing else, so it is a run of events, and what it delivers is what is heard in
that run. Whatever holds after every run holds of a player that is settled.
-/

namespace Glyphcast.Playback

variable {τ : Type} {now : Nat}

namespace Reader

variable {reader : Reader τ} {ledger : Ledger τ}

theorem runTimer_eq_wakeAt {kept rest : List (Timer τ)} {timer : Timer τ}
    (timers : reader.timers = kept ++ timer :: rest) (ready : timer.isReady now = true) :
    ∃ later, (reader.wakeAt kept.length now).timers = later ++ rest ∧
      ∀ before : List (τ × String), runTimer now (before, { reader with timers := kept }) timer =
        (before ++ (timer.wake now reader).texts.map (timer.listener, ·),
          { reader.wakeAt kept.length now with timers := later }) := by
  have found : reader.timers[kept.length]? = some timer := by
    rw [timers, List.getElem?_append_right (Nat.le_refl _), Nat.sub_self]
    rfl
  have ran (before : List (τ × String)) :
      runTimer now (before, { reader with timers := kept }) timer =
        (before ++ (timer.wake now reader).texts.map (timer.listener, ·),
          { (timer.wake now reader).reader with
            timers := kept ++ (timer.wake now reader).timer.toList }) := by
    rw [runTimer]
    dsimp only
    rw [if_pos ready, Timer.wake_congr]
  unfold wakeAt
  rw [found]
  dsimp only
  cases waits : (timer.wake now reader).timer with
  | none =>
    refine ⟨kept, ?_, fun before ↦ ?_⟩
    · dsimp only
      rw [timers, List.eraseIdx_append_of_length_le (Nat.le_refl _), Nat.sub_self]
      rfl
    · rw [ran, waits, Option.toList_none, List.append_nil]
  | some later =>
    refine ⟨kept ++ [later], ?_, fun before ↦ ?_⟩
    · dsimp only
      rw [timers, List.set_append_right _ _ (Nat.le_refl _), Nat.sub_self, List.append_assoc]
      rfl
    · rw [ran, waits, Option.toList_some]

private theorem history_note_wake (numbered : ledger.numbers.length = reader.timers.length)
    {position : Nat} {timer : Timer τ} (found : reader.timers[position]? = some timer) :
    (ledger.note reader (.wake position now)).history =
      ledger.history ++ (timer.wake now reader).texts.map (timer.listener, ·) := by
  have inside := (List.getElem?_eq_some_iff.1 found).1
  have numberOf : ledger.numbers[position]? = some _ :=
    List.getElem?_eq_getElem (by rw [numbered]; exact inside)
  have heard : (ledger.note reader (.wake position now)).heard =
      ledger.heard ++ ledger.deliveries reader (.wake position now) := by
    rw [Ledger.note, found]
    dsimp only
    split <;> rfl
  rw [Ledger.history, heard, List.map_append, Ledger.deliveries, found, numberOf, List.map_map]
  rfl

theorem foldl_runTimer_eq_run {bound : Nat} (now : Nat) (rest : List (Timer τ))
    {kept : List (Timer τ)} (h : Kept bound (reader, ledger))
    (timers : reader.timers = kept ++ rest) :
    ∃ events heard, ∀ before : List (τ × String),
      rest.foldl (runTimer now) (before, { reader with timers := kept }) =
        (before ++ heard, (watchAll (reader, ledger) events).1) ∧
      (watchAll (reader, ledger) events).2.history = ledger.history ++ heard := by
  induction rest generalizing reader ledger kept with
  | nil =>
    refine ⟨[], [], fun before ↦ ⟨?_, (List.append_nil _).symm⟩⟩
    rw [List.append_nil] at timers ⊢
    rw [← timers]
    rfl
  | cons timer rest ih =>
    by_cases ready : timer.isReady now = true
    · obtain ⟨later, left, ran⟩ := runTimer_eq_wakeAt timers ready
      have found : reader.timers[kept.length]? = some timer := by
        rw [timers, List.getElem?_append_right (Nat.le_refl _), Nat.sub_self]
        rfl
      obtain ⟨events, heard, settles⟩ := ih (h.watch (.wake kept.length now)) left
      refine ⟨.wake kept.length now :: events,
        (timer.wake now reader).texts.map (timer.listener, ·) ++ heard, fun before ↦ ?_⟩
      obtain ⟨ends, told⟩ :=
        settles (before ++ (timer.wake now reader).texts.map (timer.listener, ·))
      rw [List.foldl_cons, ran, ← List.append_assoc, ← List.append_assoc,
        ← history_note_wake h.numbered.length_eq found]
      exact ⟨ends, told⟩
    · have stays (before : List (τ × String)) :
          runTimer now (before, { reader with timers := kept }) timer =
            (before, { reader with timers := kept ++ [timer] }) := by
        rw [runTimer]
        dsimp only
        rw [if_neg ready]
      have regrouped : reader.timers = (kept ++ [timer]) ++ rest := by
        rw [timers, List.append_assoc]
        rfl
      obtain ⟨events, heard, settles⟩ := ih h regrouped
      refine ⟨events, heard, fun before ↦ ?_⟩
      rw [List.foldl_cons, stays]
      exact settles before

/-- A player that is settled goes on with its run, and what is delivered is what is heard. -/
theorem settle_eq_run (events : List (Event τ)) (now : Nat) :
    ∃ more, (run (events ++ more)).1 = ((run events).1.settle now).2 ∧
      (run (events ++ more)).2.history =
        (run events).2.history ++ ((run events).1.settle now).1 := by
  obtain ⟨more, heard, settles⟩ := foldl_runTimer_eq_run now (run events).1.timers
    (Kept.start.watchAll events) (List.nil_append _).symm
  obtain ⟨settled, told⟩ := settles []
  have goesOn : run (events ++ more) = watchAll (run events) more := List.foldl_append
  refine ⟨more, ?_, ?_⟩
  · rw [goesOn]
    exact (congrArg Prod.snd settled).symm
  · rw [goesOn]
    refine told.trans (congrArg ((run events).2.history ++ ·) ?_)
    exact (congrArg Prod.fst settled).symm

end Reader

end Glyphcast.Playback
