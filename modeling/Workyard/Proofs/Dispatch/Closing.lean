/-
**When a dispatcher closes.**

A dispatcher closes at the first report or end of input after which the input has ended and nothing
is outstanding, and at no other event; a dispatcher that waits for its next event has something left
to do.

* `course_incomplete`: no other event completes the ledger;
* `stopped_split`: a course that has ended did so at one of its occasions;
* `closes_exactly_when_complete`: when a dispatcher closes, and what is so from then on.
-/

import Workyard.Proofs.Dispatch.Conservation

namespace Workyard.Dispatch

variable {ρ κ : Type}

/-! ### Completeness -/

/-- Events after which nothing is left to do: the input has ended, and as many jobs are resolved as
were submitted. -/
def Finished (events : List (Event ρ κ)) : Prop :=
  .endOfInput ∈ events ∧ (resolved events).length = (submitted events).length

theorem Ledger.isComplete_iff (ledger : Ledger) :
    ledger.isComplete = true ↔ ledger.gotEof = true ∧ ledger.outstanding = 0 := by
  simp [isComplete]

theorem Accounts.isComplete_iff {events : List (Event ρ κ)} {ledger : Ledger}
    (accounts : Accounts events ledger) : ledger.isComplete = true ↔ Finished events := by
  have balance := accounts.balance
  rw [ledger.isComplete_iff, accounts.gotEof, Finished]
  refine and_congr_right fun _ => ?_
  constructor
  · intro settled
    omega
  · intro same
    omega

theorem Serves.isComplete_eq {presence : ρ → Presence} {ledger : Ledger} {waiting : List ρ}
    {pairing : Pairing ρ} (serves : Serves presence ledger waiting pairing) :
    pairing.dispatcher.ledger.isComplete = ledger.isComplete := by
  rw [serves.frame]
  rfl

/-- An event after which the dispatcher does not ask if it is done does not complete the ledger. -/
theorem react_incomplete {event : Event ρ κ} {ledger next : Ledger}
    (indecisive : event.isDecisive = false) (reacted : ledger.react event = .ok next)
    (incomplete : ledger.isComplete = false) : next.isComplete = false := by
  cases event with
  | submit job =>
    cases reacted
    simp [Ledger.isComplete, Ledger.post]
  | report report => cases indecisive
  | endOfInput => cases indecisive
  | request requester =>
    cases reacted
    exact incomplete
  | stats asker =>
    cases reacted
    exact incomplete

/-- **A dispatcher that waits for its next event is not done.** -/
theorem course_incomplete (occasions : List (Occasion ρ κ))
    (going : (Course.of occasions).ending = none) :
    (Course.of occasions).dispatcher.ledger.isComplete = false := by
  refine Course.of_induction (motive := fun _ dispatcher =>
    dispatcher.ledger.isComplete = false) rfl ?_ occasions going
  intro occasions occasion _ hypothesis goesOn
  obtain ⟨ledger, reacted, incomplete, -, serves⟩ := Course.next_of_going goesOn
  rw [serves.isComplete_eq]
  cases decisive : occasion.event.isDecisive with
  | true => exact incomplete decisive
  | false => exact react_incomplete decisive reacted hypothesis

/-! ### The occasion at which a course ends -/

namespace Course

/-- **A course that has ended did so at one of its occasions**, and went on before it. -/
theorem stopped_split {occasions : List (Occasion ρ κ)} {ending : Ending} :
    (of occasions).ending = some ending ↔
      ∃ before last later, occasions = before ++ last :: later ∧ (of before).ending = none ∧
        ((of before).next last).ending = some ending := by
  constructor
  · intro stopped
    induction occasions using List.reverseRecOn with
    | nil => cases stopped
    | append_singleton earlier occasion hypothesis =>
      by_cases going : (of earlier).ending = none
      · rw [of_append_singleton, extend_of_going going] at stopped
        exact ⟨earlier, occasion, [], rfl, going, stopped⟩
      · rw [of_append_of_stopped going] at stopped
        obtain ⟨before, last, later, rfl, going, stops⟩ := hypothesis stopped
        exact ⟨before, last, later ++ [occasion], by simp, going, stops⟩
  · rintro ⟨before, last, later, rfl, going, stops⟩
    rw [of_append_cons_of_stops going (by simp [stops])]
    exact stops

/-- A dispatcher that is deserted does not close. -/
theorem desert_closed_iff (course : Course ρ κ) (tally : Tally) :
    course.desert.ending = some (.closed tally) ↔ course.ending = some (.closed tally) := by
  unfold desert
  cases ended : course.ending with
  | some ending => simp [ended]
  | none => simp [Dispatcher.abandon]

end Course

/-! ### Closing -/

theorem Ending.result_eq_ok_iff (ending : Option Ending) (tally : Tally) :
    ending.map Ending.result = some (.ok tally) ↔ ending = some (.closed tally) := by
  rcases ending with _ | _ | _ <;> simp [Ending.result]

/-- **The turn that closes.** -/
theorem next_closed_iff {before : List (Occasion ρ κ)} (going : (Course.of before).ending = none)
    (last : Occasion ρ κ) (tally : Tally) :
    ((Course.of before).next last).ending = some (.closed tally) ↔
      last.event.isDecisive = true ∧
        ((Course.of before).next last).dispatcher.ledger.isComplete = true ∧
        ((Course.of before).next last).dispatcher.ledger.tally = tally := by
  cases (Course.of before).next_turnsOut last with
  | refused error reacted same =>
    have incomplete := course_incomplete before going
    rw [same]
    simp [incomplete]
  | closes ledger reacted decisive complete same =>
    have closedToo : ledger.close.isComplete = true := complete
    rw [same]
    simp only [Dispatcher.shut, Option.some.injEq, Ending.closed.injEq, decisive, closedToo,
      true_and]
    rfl
  | goesOn ledger reacted incomplete goesOn released serves =>
    rw [goesOn, serves.isComplete_eq]
    constructor
    · rintro ⟨⟩
    · rintro ⟨decisive, complete, -⟩
      rw [incomplete decisive] at complete
      cases complete

/-- What is so when a dispatcher closes. -/
structure ClosesAt (before : List (Occasion ρ κ)) (last : Occasion ρ κ) (tally : Tally) :
    Prop where
  finished : Finished ((before ++ [last]).map Occasion.event)
  queue : ((Course.of before).next last).dispatcher.ledger.queue = []
  inFlight : ((Course.of before).next last).dispatcher.ledger.inFlight = []
  /-- As many results are counted as jobs were submitted. -/
  completed : tally.completed = (submitted ((before ++ [last]).map Occasion.event)).length
  /-- Each job submitted was resolved as often as it was submitted. -/
  resolved : ((resolved ((before ++ [last]).map Occasion.event)).map Job.id).Perm
    ((submitted ((before ++ [last]).map Occasion.event)).map Job.id)
  /-- All who wait are told that there is no more work. -/
  released : ((Course.of before).next last).released = (Course.of before).dispatcher.waiting
  /-- Nobody is handed a job at this event or at a later one. -/
  delivered : ∀ later,
    (Course.of (before ++ last :: later)).delivered = (Course.of before).delivered

theorem closesAt_of_closed {before : List (Occasion ρ κ)} {last : Occasion ρ κ} {tally : Tally}
    (going : (Course.of before).ending = none)
    (closed : ((Course.of before).next last).ending = some (.closed tally)) :
    ClosesAt before last tally := by
  have accounts := course_accounts before going
  cases (Course.of before).next_turnsOut last with
  | refused error reacted same =>
    rw [same] at closed
    cases closed
  | goesOn ledger reacted incomplete goesOn released serves =>
    rw [goesOn] at closed
    cases closed
  | closes ledger reacted decisive complete same =>
    have after := accounts.react reacted
    have events : before.map Occasion.event ++ [last.event] =
        (before ++ [last]).map Occasion.event := by simp
    rw [events] at after
    obtain ⟨-, settled⟩ := ledger.isComplete_iff.mp complete
    obtain ⟨queue, inFlight, resolved⟩ := after.settled settled
    have counted : ledger.tally = tally := by
      rw [same] at closed
      cases closed
      rfl
    refine ⟨after.isComplete_iff.mp complete, ?_, ?_, ?_, resolved, ?_, fun later => ?_⟩
    · rw [same]
      exact queue
    · rw [same]
      exact inFlight
    · have balance := after.balance
      rw [← counted, after.completed]
      omega
    · rw [same]
      rfl
    · rw [Course.of_append_cons_of_stops going (by simp [closed]), Course.delivered,
        List.flatMap_append, same]
      simp [Dispatcher.shut, Course.delivered]

/-- **A dispatcher closes exactly when it is done.** It closes at the first report or end of input
after which the input has ended and nothing is outstanding: as long as it waits for its next event
this is not so, and it does not close because nobody is left. Nothing is queued or handed out then,
everything submitted is counted, all who wait are released, and nobody gets a job any more. -/
theorem closes_exactly_when_complete (occasions : List (Occasion ρ κ)) (tally : Tally) :
    ((Course.of occasions).ending = none →
      (Course.of occasions).dispatcher.ledger.isComplete = false ∧
        ¬ Finished (occasions.map Occasion.event)) ∧
    ((Course.of occasions).desert.ending.map Ending.result = some (.ok tally) ↔
      (Course.of occasions).ending.map Ending.result = some (.ok tally)) ∧
    ((Course.of occasions).ending.map Ending.result = some (.ok tally) ↔
      ∃ before last later, occasions = before ++ last :: later ∧
        (Course.of before).ending = none ∧ last.event.isDecisive = true ∧
        ((Course.of before).next last).dispatcher.ledger.gotEof = true ∧
        ((Course.of before).next last).dispatcher.ledger.outstanding = 0 ∧
        ((Course.of before).next last).dispatcher.ledger.tally = tally) ∧
    ∀ before last later, occasions = before ++ last :: later →
      (Course.of before).ending = none →
      ((Course.of before).next last).ending.map Ending.result = some (.ok tally) →
      ClosesAt before last tally := by
  refine ⟨fun going => ?_, ?_, ?_, ?_⟩
  · have incomplete := course_incomplete occasions going
    refine ⟨incomplete, fun finished => ?_⟩
    rw [(course_accounts occasions going).isComplete_iff.mpr finished] at incomplete
    cases incomplete
  · rw [Ending.result_eq_ok_iff, Ending.result_eq_ok_iff, Course.desert_closed_iff]
  · rw [Ending.result_eq_ok_iff, Course.stopped_split]
    constructor
    · rintro ⟨before, last, later, split, going, closed⟩
      obtain ⟨decisive, complete, counted⟩ := (next_closed_iff going last tally).mp closed
      obtain ⟨gotEof, settled⟩ := (Ledger.isComplete_iff _).mp complete
      exact ⟨before, last, later, split, going, decisive, gotEof, settled, counted⟩
    · rintro ⟨before, last, later, split, going, decisive, gotEof, settled, counted⟩
      have complete := (Ledger.isComplete_iff _).mpr ⟨gotEof, settled⟩
      exact ⟨before, last, later, split, going,
        (next_closed_iff going last tally).mpr ⟨decisive, complete, counted⟩⟩
  · intro before last later _ going closed
    exact closesAt_of_closed going ((Ending.result_eq_ok_iff _ tally).mp closed)

/-- Occasions up to the last report on a job. -/
def underway : List (Occasion Nat Nat) :=
  [⟨.submit ⟨"job-1", "true"⟩, fun _ => .present⟩, ⟨.request 0, fun _ => .present⟩,
    ⟨.request 1, fun _ => .present⟩, ⟨.endOfInput, fun _ => .present⟩]

/-- The last report on a job. -/
def lastReport : Occasion Nat Nat := ⟨.report (.ok ⟨"job-1", "true"⟩), fun _ => .present⟩

theorem closes_exactly_when_complete_lastReport :
    ((Course.of underway).dispatcher.ledger.isComplete = false ∧
      ¬ Finished (underway.map Occasion.event)) ∧
      ((Course.of underway).next lastReport).ending.map Ending.result = some (.ok ⟨1, 0⟩) ∧
      ClosesAt underway lastReport ⟨1, 0⟩ ∧
      ((Course.of underway).next lastReport).released = [1] := by
  have going : (Course.of underway).ending = none := by decide +kernel
  have closed : ((Course.of underway).next lastReport).ending.map Ending.result =
      some (.ok ⟨1, 0⟩) := by rfl
  obtain ⟨waits, -, -, -⟩ := closes_exactly_when_complete underway ⟨1, 0⟩
  obtain ⟨-, -, -, closesAt⟩ := closes_exactly_when_complete (underway ++ [lastReport]) ⟨1, 0⟩
  exact ⟨waits going, closed, closesAt underway lastReport [] rfl going closed, by decide +kernel⟩

end Workyard.Dispatch
