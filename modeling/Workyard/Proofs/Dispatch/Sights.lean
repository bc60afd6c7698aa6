/-
**What a dispatcher shows.**

From outside one sees which requesters are handed which jobs and which are told that there will be no
more, what those are told who ask for the counters, what the completion log is given, and how the
dispatcher stops.

* `handle_eq`: what an event makes of a dispatcher, in one equation;
* `Sight`, `seen`: all that a dispatcher shows on a list of occasions, in order;
* `others`: what is left of it to those who are not among certain requesters and askers.
-/

import Workyard.Proofs.Dispatch.Course

namespace Workyard.Dispatch

variable {ρ κ : Type}

/-! ### One equation for all events -/

/-- The one who asks for counters. -/
def Event.asker? : Event ρ κ → Option κ
  | .stats asker => some asker
  | _ => none

/-- What comes of an event for those who wait, once the ledger has taken it. -/
def Event.pairing (presence : ρ → Presence) (ledger : Ledger) (waiting : List ρ) :
    Event ρ κ → Pairing ρ
  | .submit _ | .report _ => pair presence ledger waiting
  | .request requester => pair presence ledger (waiting ++ [requester])
  | .endOfInput | .stats _ => ⟨[], ⟨ledger, waiting⟩⟩

/-- **What an event makes of a dispatcher.** The ledger refuses it, is completed by it, or takes it and
goes on. -/
theorem handle_eq (presence : ρ → Presence) (dispatcher : Dispatcher ρ) (event : Event ρ κ) :
    dispatcher.handle presence event =
      match dispatcher.ledger.react event with
      | .error error => {
          dispatcher := ⟨dispatcher.ledger, []⟩
          released := dispatcher.waiting
          ending := some (.aborted error) }
      | .ok ledger =>
        let entry := event.report?.bind Entry.ofReport?
        let pairing := event.pairing presence ledger dispatcher.waiting
        if event.isDecisive && ledger.isComplete then
          Dispatcher.shut ledger dispatcher.waiting entry
        else {
          dispatcher := pairing.dispatcher
          delivered := pairing.delivered
          entry
          answer := event.asker?.map (·, ledger.stats) } := by
  cases event with
  | report report =>
    have reacted : dispatcher.ledger.react (.report report : Event ρ κ) =
      dispatcher.ledger.apply report := rfl
    rw [reacted]
    cases applied : dispatcher.ledger.apply report with
    | error error => exact handle_report_refused applied
    | ok ledger => exact handle_report_accepted applied
  | submit job => rfl
  | request requester => rfl
  | endOfInput => rfl
  | stats asker => rfl

section Handle

variable {presence : ρ → Presence} {dispatcher : Dispatcher ρ} {event : Event ρ κ}

/-- A dispatcher that goes on has taken the event and paired those who wait. -/
theorem handle_going (going : (dispatcher.handle presence event).ending = none) :
    ∃ ledger, dispatcher.ledger.react event = .ok ledger ∧
      (dispatcher.handle presence event).released = [] ∧
      (dispatcher.handle presence event).delivered =
        (event.pairing presence ledger dispatcher.waiting).delivered ∧
      (dispatcher.handle presence event).dispatcher =
        (event.pairing presence ledger dispatcher.waiting).dispatcher := by
  rw [handle_eq] at going ⊢
  cases reacted : dispatcher.ledger.react event with
  | error error =>
    rw [reacted] at going
    cases going
  | ok ledger =>
    rw [reacted] at going
    simp only at going ⊢
    split at going
    · cases going
    · next incomplete =>
      rw [if_neg incomplete]
      exact ⟨ledger, rfl, rfl, rfl, rfl⟩

/-- A dispatcher that stops releases all who wait and hands out nothing. -/
theorem handle_stopping (stops : (dispatcher.handle presence event).ending ≠ none) :
    (dispatcher.handle presence event).delivered = [] ∧
      (dispatcher.handle presence event).released = dispatcher.waiting := by
  cases handle_turnsOut presence dispatcher event with
  | refused error reacted same =>
    rw [same]
    exact ⟨rfl, rfl⟩
  | closes ledger reacted decisive complete same =>
    rw [same]
    exact ⟨rfl, rfl⟩
  | goesOn ledger reacted incomplete going released serves => exact absurd going stops

/-- A dispatcher answers those who ask for counters, out of the ledger as it is. -/
theorem handle_answer (presence : ρ → Presence) (dispatcher : Dispatcher ρ) (event : Event ρ κ) :
    (dispatcher.handle presence event).answer =
      event.asker?.map fun asker => (asker, dispatcher.ledger.stats) := by
  cases event with
  | report report =>
    cases applied : dispatcher.ledger.apply report with
    | error error =>
      rw [handle_report_refused applied]
      rfl
    | ok ledger =>
      rw [handle_report_accepted applied]
      split <;> rfl
  | endOfInput =>
    rw [handle_endOfInput]
    split <;> rfl
  | submit job | request requester | stats asker => rfl

/-- **Dispatchers with one ledger log, answer and stop alike.** -/
theorem handle_alike {other : Dispatcher ρ} (same : other.ledger = dispatcher.ledger)
    (presence : ρ → Presence) (event : Event ρ κ) :
    (other.handle presence event).entry = (dispatcher.handle presence event).entry ∧
      (other.handle presence event).answer = (dispatcher.handle presence event).answer ∧
      (other.handle presence event).ending = (dispatcher.handle presence event).ending := by
  rw [handle_eq, handle_eq, same]
  cases dispatcher.ledger.react event with
  | error error => exact ⟨rfl, rfl, rfl⟩
  | ok ledger =>
    simp only
    split <;> exact ⟨rfl, rfl, rfl⟩

end Handle

/-! ### What can be seen -/

/-- What can be seen of a dispatcher from outside. -/
inductive Sight (ρ κ : Type) where
  /-- A requester is handed a job. -/
  | job (requester : ρ) (job : Job)
  /-- A requester is told that there will be no more jobs. -/
  | noJob (requester : ρ)
  /-- One who asks for the counters is given them. -/
  | counters (asker : κ) (stats : Stats)
  /-- The completion log is given an entry. -/
  | entry (entry : Entry)
  /-- The dispatcher stops. -/
  | ending (ending : Ending)
deriving DecidableEq

/-- What a turn shows; one who has gone is told nothing. -/
def Turn.sights (presence : ρ → Presence) (turn : Turn ρ κ) : List (Sight ρ κ) :=
  turn.delivered.map (fun (requester, job) => .job requester job) ++
    (turn.released.filter (presence · ≠ .gone)).map .noJob ++
    turn.entry.toList.map .entry ++
    turn.answer.toList.map (fun (asker, stats) => .counters asker stats) ++
    turn.ending.toList.map .ending

/-- What is shown on an occasion that comes after a dispatcher has stopped: nobody is handed a job any
more, and the counters are the final ones. -/
def Ending.sights (ending : Ending) (occasion : Occasion ρ κ) : List (Sight ρ κ) :=
  match occasion.event with
  | .request requester => if occasion.presence requester = .gone then [] else [.noJob requester]
  | .stats asker => [.counters asker ending.stats]
  | .submit _ | .report _ | .endOfInput => []

namespace Course

/-- What the next occasion shows. -/
def shows (course : Course ρ κ) (occasion : Occasion ρ κ) : List (Sight ρ κ) :=
  match course.ending with
  | none => (course.next occasion).sights occasion.presence
  | some ending => ending.sights occasion

/-- What the next occasions show. -/
def seen (course : Course ρ κ) : List (Occasion ρ κ) → List (Sight ρ κ)
  | [] => []
  | occasion :: later => course.shows occasion ++ (course.extend occasion).seen later

/-- What is shown when nobody is left to send more events. -/
def lastSeen (course : Course ρ κ) (presence : ρ → Presence) : List (Sight ρ κ) :=
  match course.ending with
  | none => (course.dispatcher.abandon : Turn ρ κ).sights presence
  | some _ => []

theorem seen_append (course : Course ρ κ) (occasions later : List (Occasion ρ κ)) :
    course.seen (occasions ++ later) =
      course.seen occasions ++ (occasions.foldl extend course).seen later := by
  induction occasions generalizing course with
  | nil => rfl
  | cons occasion occasions hypothesis =>
    rw [List.cons_append, seen, hypothesis, ← List.append_assoc]
    rfl

theorem shows_of_going {course : Course ρ κ} (going : course.ending = none)
    (occasion : Occasion ρ κ) :
    course.shows occasion = (course.next occasion).sights occasion.presence := by
  simp only [shows, going]

theorem shows_of_stopped {course : Course ρ κ} {ending : Ending}
    (stopped : course.ending = some ending) (occasion : Occasion ρ κ) :
    course.shows occasion = ending.sights occasion := by
  simp only [shows, stopped]

end Course

/-- All that a fresh dispatcher shows on these occasions, in order. -/
def seen (occasions : List (Occasion ρ κ)) : List (Sight ρ κ) := Course.seen {} occasions

theorem seen_append_singleton (occasions : List (Occasion ρ κ)) (occasion : Occasion ρ κ) :
    seen (occasions ++ [occasion]) = seen occasions ++ (Course.of occasions).shows occasion := by
  rw [seen, Course.seen_append]
  exact congrArg (seen occasions ++ ·) (List.append_nil _)

/-! ### What some of them see -/

/-- Whether an event comes from one of certain requesters and askers. -/
def Event.isFrom (absent : ρ → Bool) (silent : κ → Bool) (event : Event ρ κ) : Bool :=
  event.requester?.any absent || event.asker?.any silent

/-- Whether only one of them sees this. -/
def Sight.isFor (absent : ρ → Bool) (silent : κ → Bool) : Sight ρ κ → Bool
  | .job requester _ | .noJob requester => absent requester
  | .counters asker _ => silent asker
  | .entry _ | .ending _ => false

/-- What all but them see. -/
def others (absent : ρ → Bool) (silent : κ → Bool) (sights : List (Sight ρ κ)) :
    List (Sight ρ κ) :=
  sights.filter fun sight => !sight.isFor absent silent

section Sights

variable {absent : ρ → Bool} {silent : κ → Bool}

theorem others_append (first second : List (Sight ρ κ)) :
    others absent silent (first ++ second) =
      others absent silent first ++ others absent silent second :=
  List.filter_append ..

/-- What the others see of a turn. -/
theorem others_sights (presence : ρ → Presence) (turn : Turn ρ κ) :
    others absent silent (turn.sights presence) =
      (turn.delivered.filter (!absent ·.1)).map (fun (requester, job) => .job requester job) ++
      ((turn.released.filter (presence · ≠ .gone)).filter (!absent ·)).map .noJob ++
      turn.entry.toList.map .entry ++
      (turn.answer.toList.filter (!silent ·.1)).map (fun (asker, stats) => .counters asker stats) ++
      turn.ending.toList.map .ending := by
  simp only [others, Turn.sights, List.filter_append, List.filter_map, Function.comp_def,
    Sight.isFor, Bool.not_false, List.filter_true]

variable {occasion : Occasion ρ κ}

/-- After a dispatcher has stopped only the one who comes sees something. -/
theorem isFor_of_mem_sights {ending : Ending} {sight : Sight ρ κ}
    (shown : sight ∈ ending.sights occasion) :
    sight.isFor absent silent = occasion.event.isFrom absent silent := by
  obtain ⟨event, presence⟩ := occasion
  cases event with
  | request requester =>
    simp only [Ending.sights] at shown
    split at shown
    · cases shown
    · rw [List.mem_singleton.mp shown]
      simp [Sight.isFor, Event.isFrom, Event.requester?, Event.asker?]
  | stats asker =>
    rw [List.mem_singleton.mp shown]
    rfl
  | submit job => cases shown
  | report report => cases shown
  | endOfInput => cases shown

theorem others_ending_kept (ending : Ending)
    (fromOther : occasion.event.isFrom absent silent = false) :
    others absent silent (ending.sights occasion) = ending.sights occasion := by
  refine List.filter_eq_self.mpr fun sight shown => ?_
  rw [isFor_of_mem_sights shown, fromOther]
  rfl

end Sights

end Workyard.Dispatch
