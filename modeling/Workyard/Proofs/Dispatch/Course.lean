/-
**The course of a dispatcher.**

An occasion is an event with what has become of each requester when it is handled. A dispatcher that
is given occasions one after another handles them until one of them makes it stop.

* `submitted`, `resolved`, `sentBack`: what events say of jobs;
* `handle_turnsOut`: an event is refused, closes the dispatcher, or changes the ledger and has jobs
  handed out;
* `Course.of`: the turns of a dispatcher on a list of occasions, and how far they take it;
* `Course.of_induction`: what the fresh dispatcher has and every event keeps holds whenever a
  dispatcher waits for its next event;
* `course_exhausts`: no job is queued then while somebody waits for one.
-/

import Mathlib.Data.List.Induction
import Workyard.Proofs.Dispatch.Pairing

namespace Workyard

namespace Report

/-- The job that a report resolves. -/
def resolved? : Report → Option Job
  | .ok job | .fail job _ => some job
  | .repost _ => none

/-- The job that a report sends back. -/
def sentBack? : Report → Option Job
  | .repost job => some job
  | .ok _ | .fail _ _ => none

end Report

namespace Dispatch

variable {ρ κ : Type}

/-! ### What events say of jobs -/

namespace Event

/-- The job that an event submits. -/
@[simp]
def job? : Event ρ κ → Option Job
  | .submit job => some job
  | _ => none

/-- The one who asks for a job. -/
def requester? : Event ρ κ → Option ρ
  | .request requester => some requester
  | _ => none

/-- The report that an event brings. -/
@[simp]
def report? : Event ρ κ → Option Report
  | .report found => some found
  | _ => none

/-- Whether the dispatcher asks itself after this event if it is done. -/
def isDecisive : Event ρ κ → Bool
  | .report _ | .endOfInput => true
  | .submit _ | .request _ | .stats _ => false

end Event

/-- The jobs submitted, in order. -/
def submitted (events : List (Event ρ κ)) : List Job := events.filterMap Event.job?

/-- The reports, in order. -/
def reports (events : List (Event ρ κ)) : List Report := events.filterMap Event.report?

/-- The jobs reported to have succeeded or failed, in order. A report that is refused stops the
dispatcher: those it went on from were accepted. -/
def resolved (events : List (Event ρ κ)) : List Job := (reports events).filterMap Report.resolved?

/-- The jobs sent back, in order. -/
def sentBack (events : List (Event ρ κ)) : List Job := (reports events).filterMap Report.sentBack?

@[simp]
theorem submitted_cons (event : Event ρ κ) (events : List (Event ρ κ)) :
    submitted (event :: events) = event.job?.toList ++ submitted events := by
  cases event <;> rfl

@[simp]
theorem resolved_cons (event : Event ρ κ) (events : List (Event ρ κ)) :
    resolved (event :: events) =
      (event.report?.bind Report.resolved?).toList ++ resolved events := by
  cases event with
  | report report => cases report <;> rfl
  | _ => rfl

@[simp]
theorem sentBack_cons (event : Event ρ κ) (events : List (Event ρ κ)) :
    sentBack (event :: events) =
      (event.report?.bind Report.sentBack?).toList ++ sentBack events := by
  cases event with
  | report report => cases report <;> rfl
  | _ => rfl

@[simp]
theorem submitted_nil : submitted ([] : List (Event ρ κ)) = [] := rfl

@[simp]
theorem resolved_nil : resolved ([] : List (Event ρ κ)) = [] := rfl

@[simp]
theorem sentBack_nil : sentBack ([] : List (Event ρ κ)) = [] := rfl

@[simp]
theorem submitted_append (events later : List (Event ρ κ)) :
    submitted (events ++ later) = submitted events ++ submitted later :=
  List.filterMap_append

theorem reports_append (events later : List (Event ρ κ)) :
    reports (events ++ later) = reports events ++ reports later :=
  List.filterMap_append

@[simp]
theorem resolved_append (events later : List (Event ρ κ)) :
    resolved (events ++ later) = resolved events ++ resolved later := by
  simp [resolved, reports_append]

@[simp]
theorem sentBack_append (events later : List (Event ρ κ)) :
    sentBack (events ++ later) = sentBack events ++ sentBack later := by
  simp [sentBack, reports_append]

/-! ### How an event turns out -/

/-- What an event makes of the ledger before any job is handed out. -/
def Ledger.react (ledger : Ledger) : Event ρ κ → Except DispatchError Ledger
  | .submit job => .ok (ledger.post job)
  | .report report => ledger.apply report
  | .endOfInput => .ok ledger.endOfInput
  | .request _ | .stats _ => .ok ledger

/-- The ways in which an event turns out. -/
inductive TurnsOut (presence : ρ → Presence) (dispatcher : Dispatcher ρ) (event : Event ρ κ)
    (turn : Turn ρ κ) : Prop
  /-- The ledger does not take the event; all who wait are told so. -/
  | refused (error : DispatchError) (reacted : dispatcher.ledger.react event = .error error)
    (same : turn = {
      dispatcher := ⟨dispatcher.ledger, []⟩
      released := dispatcher.waiting
      ending := some (.aborted error) })
  /-- The event completes the ledger; all who wait are released. -/
  | closes (ledger : Ledger) (reacted : dispatcher.ledger.react event = .ok ledger)
    (decisive : event.isDecisive = true) (complete : ledger.isComplete = true)
    (same : turn =
      Dispatcher.shut ledger dispatcher.waiting (event.report?.bind Entry.ofReport?))
  /-- The dispatcher goes on, jobs being handed out. -/
  | goesOn (ledger : Ledger) (reacted : dispatcher.ledger.react event = .ok ledger)
    (incomplete : event.isDecisive = true → ledger.isComplete = false)
    (going : turn.ending = none) (released : turn.released = [])
    (serves : Serves presence ledger (dispatcher.waiting ++ event.requester?.toList)
      ⟨turn.delivered, turn.dispatcher⟩)

section Handle

variable {presence : ρ → Presence} {dispatcher : Dispatcher ρ} {event : Event ρ κ}
  {report : Report} {ledger : Ledger}

/-- Going on pairs those who wait with the jobs of the ledger. -/
theorem goOn_turnsOut {entry : Option Entry} {waiting : List ρ}
    (reacted : dispatcher.ledger.react event = .ok ledger)
    (incomplete : event.isDecisive = true → ledger.isComplete = false)
    (waits : waiting = dispatcher.waiting ++ event.requester?.toList) :
    TurnsOut presence dispatcher event (Dispatcher.goOn presence ledger waiting entry) := by
  subst waits
  exact .goesOn ledger reacted incomplete rfl rfl (pair_serves presence ledger _)

theorem handle_report_refused {error : DispatchError}
    (applied : dispatcher.ledger.apply report = .error error) :
    dispatcher.handle presence (.report report : Event ρ κ) = {
      dispatcher := ⟨dispatcher.ledger, []⟩
      released := dispatcher.waiting
      ending := some (.aborted error) } := by
  simp only [Dispatcher.handle, applied]

theorem handle_report_accepted (applied : dispatcher.ledger.apply report = .ok ledger) :
    dispatcher.handle presence (.report report : Event ρ κ) =
      if ledger.isComplete then
        Dispatcher.shut ledger dispatcher.waiting (Entry.ofReport? report)
      else Dispatcher.goOn presence ledger dispatcher.waiting (Entry.ofReport? report) := by
  simp only [Dispatcher.handle, applied]

theorem handle_endOfInput :
    dispatcher.handle presence (.endOfInput : Event ρ κ) =
      if dispatcher.ledger.endOfInput.isComplete then
        Dispatcher.shut dispatcher.ledger.endOfInput dispatcher.waiting
      else { dispatcher := ⟨dispatcher.ledger.endOfInput, dispatcher.waiting⟩ } := rfl

end Handle

/-- **An event turns out in one of three ways.** -/
theorem handle_turnsOut (presence : ρ → Presence) (dispatcher : Dispatcher ρ)
    (event : Event ρ κ) :
    TurnsOut presence dispatcher event (dispatcher.handle presence event) := by
  have nobodyNew : dispatcher.waiting = dispatcher.waiting ++ [] := (List.append_nil _).symm
  cases event with
  | submit job => exact goOn_turnsOut rfl nofun nobodyNew
  | request requester => exact goOn_turnsOut rfl nofun rfl
  | report report =>
    cases applied : dispatcher.ledger.apply report with
    | error error => exact .refused error applied (handle_report_refused applied)
    | ok ledger =>
      rw [handle_report_accepted applied]
      by_cases complete : ledger.isComplete = true
      · rw [if_pos complete]
        exact .closes ledger applied rfl complete rfl
      · rw [if_neg complete]
        exact goOn_turnsOut applied (fun _ => Bool.eq_false_iff.mpr complete) nobodyNew
  | endOfInput =>
    rw [handle_endOfInput]
    by_cases complete : dispatcher.ledger.endOfInput.isComplete = true
    · rw [if_pos complete]
      exact .closes _ rfl rfl complete rfl
    · rw [if_neg complete]
      refine .goesOn _ rfl (fun _ => Bool.eq_false_iff.mpr complete) rfl rfl ?_
      show Serves presence _ (dispatcher.waiting ++ []) _
      rw [← nobodyNew]
      exact Serves.idle presence _ dispatcher.waiting
  | stats asker =>
    refine .goesOn dispatcher.ledger rfl nofun rfl rfl ?_
    show Serves presence _ (dispatcher.waiting ++ []) _
    rw [← nobodyNew]
    exact Serves.idle presence _ dispatcher.waiting

/-- A dispatcher that goes on has taken the event and handed out jobs. -/
theorem handle_of_going {presence : ρ → Presence} {dispatcher : Dispatcher ρ} {event : Event ρ κ}
    (going : (dispatcher.handle presence event).ending = none) :
    ∃ ledger, dispatcher.ledger.react event = .ok ledger ∧
      (event.isDecisive = true → ledger.isComplete = false) ∧
      (dispatcher.handle presence event).released = [] ∧
      Serves presence ledger (dispatcher.waiting ++ event.requester?.toList)
        ⟨(dispatcher.handle presence event).delivered,
          (dispatcher.handle presence event).dispatcher⟩ := by
  cases handle_turnsOut presence dispatcher event with
  | refused error reacted same =>
    rw [same] at going
    cases going
  | closes ledger reacted decisive complete same =>
    rw [same] at going
    cases going
  | goesOn ledger reacted incomplete _ released serves =>
    exact ⟨ledger, reacted, incomplete, released, serves⟩

/-! ### One event after another -/

/-- An event, with what has become of each requester when it is handled. -/
structure Occasion (ρ κ : Type) where
  event : Event ρ κ
  presence : ρ → Presence

/-- The turns that a dispatcher has taken, what they made of it, and how it stopped if it did. -/
structure Course (ρ κ : Type) where
  turns : List (Turn ρ κ) := []
  dispatcher : Dispatcher ρ := {}
  ending : Option Ending := none

namespace Course

/-- The turn that a dispatcher takes next. -/
def next (course : Course ρ κ) (occasion : Occasion ρ κ) : Turn ρ κ :=
  course.dispatcher.handle occasion.presence occasion.event

theorem next_turnsOut (course : Course ρ κ) (occasion : Occasion ρ κ) :
    TurnsOut occasion.presence course.dispatcher occasion.event (course.next occasion) :=
  handle_turnsOut occasion.presence course.dispatcher occasion.event

theorem next_of_going {course : Course ρ κ} {occasion : Occasion ρ κ}
    (going : (course.next occasion).ending = none) :
    ∃ ledger, course.dispatcher.ledger.react occasion.event = .ok ledger ∧
      (occasion.event.isDecisive = true → ledger.isComplete = false) ∧
      (course.next occasion).released = [] ∧
      Serves occasion.presence ledger
        (course.dispatcher.waiting ++ occasion.event.requester?.toList)
        ⟨(course.next occasion).delivered, (course.next occasion).dispatcher⟩ :=
  handle_of_going going

/-- A course with one more occasion, which a dispatcher that has stopped does not handle. -/
def extend (course : Course ρ κ) (occasion : Occasion ρ κ) : Course ρ κ :=
  match course.ending with
  | some _ => course
  | none =>
    let turn := course.next occasion
    ⟨course.turns ++ [turn], turn.dispatcher, turn.ending⟩

/-- The course of a fresh dispatcher on these occasions. -/
def of (occasions : List (Occasion ρ κ)) : Course ρ κ := occasions.foldl extend {}

/-- All jobs handed out on a course, in order. -/
def delivered (course : Course ρ κ) : List (ρ × Job) := course.turns.flatMap Turn.delivered

/-- What becomes of a course if nobody is left to send more events. -/
def desert (course : Course ρ κ) : Course ρ κ :=
  match course.ending with
  | some _ => course
  | none =>
    let turn := course.dispatcher.abandon
    ⟨course.turns ++ [turn], turn.dispatcher, turn.ending⟩

theorem of_append_singleton (occasions : List (Occasion ρ κ)) (occasion : Occasion ρ κ) :
    of (occasions ++ [occasion]) = (of occasions).extend occasion := by
  simp [of]

theorem extend_of_going {course : Course ρ κ} (going : course.ending = none)
    (occasion : Occasion ρ κ) :
    course.extend occasion = ⟨course.turns ++ [course.next occasion],
      (course.next occasion).dispatcher, (course.next occasion).ending⟩ := by
  simp [extend, going]

theorem extend_of_stopped {course : Course ρ κ} (stopped : course.ending ≠ none)
    (occasion : Occasion ρ κ) : course.extend occasion = course := by
  obtain ⟨ending, known⟩ := Option.ne_none_iff_exists'.mp stopped
  simp [extend, known]

/-- A dispatcher that has stopped does nothing any more. -/
theorem of_append_of_stopped {occasions : List (Occasion ρ κ)}
    (stopped : (of occasions).ending ≠ none) (later : List (Occasion ρ κ)) :
    of (occasions ++ later) = of occasions := by
  induction later using List.reverseRecOn with
  | nil => rw [List.append_nil]
  | append_singleton later occasion hypothesis =>
    rw [← List.append_assoc, of_append_singleton, hypothesis, extend_of_stopped stopped]

/-- A course ends with the turn that makes the dispatcher stop. -/
theorem of_append_cons_of_stops {before : List (Occasion ρ κ)} {last : Occasion ρ κ}
    (going : (of before).ending = none) (stops : ((of before).next last).ending ≠ none)
    (later : List (Occasion ρ κ)) :
    of (before ++ last :: later) = ⟨(of before).turns ++ [(of before).next last],
      ((of before).next last).dispatcher, ((of before).next last).ending⟩ := by
  have ended := (of_append_singleton before last).trans (extend_of_going going last)
  have stopped : (of (before ++ [last])).ending ≠ none := by
    rw [ended]
    exact stops
  rw [List.append_cons, of_append_of_stopped stopped, ended]

/-- A dispatcher that goes on after an occasion went on before it. -/
theorem going_of_append_singleton {occasions : List (Occasion ρ κ)} {occasion : Occasion ρ κ}
    (going : (of (occasions ++ [occasion])).ending = none) : (of occasions).ending = none := by
  by_contra stopped
  rw [of_append_of_stopped stopped] at going
  exact stopped going

/-- **Induction along a course** that has not ended. -/
theorem of_induction {motive : List (Occasion ρ κ) → Dispatcher ρ → Prop} (fresh : motive [] {})
    (step : ∀ occasions occasion, (of occasions).ending = none →
      motive occasions (of occasions).dispatcher → ((of occasions).next occasion).ending = none →
      motive (occasions ++ [occasion]) ((of occasions).next occasion).dispatcher)
    (occasions : List (Occasion ρ κ)) (going : (of occasions).ending = none) :
    motive occasions (of occasions).dispatcher := by
  induction occasions using List.reverseRecOn with
  | nil => exact fresh
  | append_singleton occasions occasion hypothesis =>
    have before := going_of_append_singleton going
    rw [of_append_singleton, extend_of_going before] at going ⊢
    exact step occasions occasion before (hypothesis before) going

end Course

/-! ### Nobody waits while jobs are queued -/

/-- After every event as many jobs are handed out as can be. -/
theorem handle_exhausts {presence : ρ → Presence} {dispatcher : Dispatcher ρ} {event : Event ρ κ}
    (exhausted : dispatcher.ledger.queue = [] ∨ dispatcher.waiting = [])
    (going : (dispatcher.handle presence event).ending = none) :
    (dispatcher.handle presence event).dispatcher.ledger.queue = [] ∨
      (dispatcher.handle presence event).dispatcher.waiting = [] := by
  cases event with
  | submit job => exact pair_exhausts presence (dispatcher.ledger.post job) dispatcher.waiting
  | request requester =>
    exact pair_exhausts presence dispatcher.ledger (dispatcher.waiting ++ [requester])
  | report report =>
    cases applied : dispatcher.ledger.apply report with
    | error error =>
      rw [handle_report_refused applied] at going
      cases going
    | ok ledger =>
      rw [handle_report_accepted applied] at going ⊢
      by_cases complete : ledger.isComplete = true
      · rw [if_pos complete] at going
        cases going
      · rw [if_neg complete]
        exact pair_exhausts presence ledger dispatcher.waiting
  | endOfInput =>
    rw [handle_endOfInput] at going ⊢
    by_cases complete : dispatcher.ledger.endOfInput.isComplete = true
    · rw [if_pos complete] at going
      cases going
    · rw [if_neg complete]
      exact exhausted
  | stats asker => exact exhausted

/-- **Whenever a dispatcher waits for its next event, no job is queued or nobody waits for one.** -/
theorem course_exhausts (occasions : List (Occasion ρ κ))
    (going : (Course.of occasions).ending = none) :
    (Course.of occasions).dispatcher.ledger.queue = [] ∨
      (Course.of occasions).dispatcher.waiting = [] :=
  Course.of_induction (motive := fun _ dispatcher =>
    dispatcher.ledger.queue = [] ∨ dispatcher.waiting = []) (.inl rfl)
    (fun _ _ _ exhausted goesOn => handle_exhausts exhausted goesOn) occasions going

end Dispatch

end Workyard
