/-
**Which reports a dispatcher accepts.**

A dispatcher accepts a report on a job that it has handed out and has had no report on since, and no
other: not on one that was never submitted, that waits in the queue, also after being sent back, or
that is resolved. It is the history that decides, whoever reports.

* `acceptedReports`: the reports accepted, in order;
* `HandedOut`: whether a job is handed out, by the history alone;
* `course_inFlight_iff`: the jobs in flight are those handed out;
* `next_refused`, `next_report_aborts_iff`: what a dispatcher does at a report that it refuses.
-/

import Workyard.Proofs.Dispatch.Conservation
import Workyard.Proofs.Dispatch.Sights

namespace Workyard.Dispatch

variable {ρ κ : Type}

/-! ### Accepting reports -/

namespace Course

/-- The report that a dispatcher accepts on an occasion, if there is one. -/
def accepted? (course : Course ρ κ) (occasion : Occasion ρ κ) : Option Report :=
  match course.ending with
  | some _ => none
  | none => occasion.event.report?.filter fun report =>
    (course.dispatcher.ledger.apply report).isOk

/-- The reports that a dispatcher accepts on the next occasions, in order. -/
def accepts (course : Course ρ κ) : List (Occasion ρ κ) → List Report
  | [] => []
  | occasion :: later =>
    (course.accepted? occasion).toList ++ (course.extend occasion).accepts later

theorem accepts_append (course : Course ρ κ) (occasions later : List (Occasion ρ κ)) :
    course.accepts (occasions ++ later) =
      course.accepts occasions ++ (occasions.foldl extend course).accepts later := by
  induction occasions generalizing course with
  | nil => rfl
  | cons occasion occasions hypothesis =>
    rw [List.cons_append, accepts, hypothesis, ← List.append_assoc]
    rfl

theorem accepts_append_singleton (before later : List (Occasion ρ κ)) (occasion : Occasion ρ κ) :
    (of before).accepts (later ++ [occasion]) =
      (of before).accepts later ++ ((of (before ++ later)).accepted? occasion).toList := by
  rw [accepts_append, of, of, List.foldl_append]
  exact congrArg _ (List.append_nil _)

/-- An event that is accepted brings a report that is accepted, if it brings one. -/
theorem accepted_of_react {course : Course ρ κ} (going : course.ending = none)
    {occasion : Occasion ρ κ} {ledger : Ledger}
    (reacted : course.dispatcher.ledger.react occasion.event = .ok ledger) :
    course.accepted? occasion = occasion.event.report? := by
  unfold accepted?
  rw [going]
  obtain ⟨event, presence⟩ := occasion
  cases event with
  | report report =>
    have applied : course.dispatcher.ledger.apply report = .ok ledger := reacted
    simp [applied, Except.isOk, Except.toBool]
  | _ => rfl

/-- A report is accepted by a ledger that knows its job. -/
theorem accepted_report_iff {course : Course ρ κ} (going : course.ending = none) (report : Report)
    (presence : ρ → Presence) :
    course.accepted? ⟨.report report, presence⟩ = some report ↔
      report.job.id ∈ course.dispatcher.ledger.inFlight.map Job.id := by
  have known := course.dispatcher.ledger.apply_isOk_iff report
  rw [Ledger.isInFlight_iff] at known
  rw [← known]
  unfold accepted?
  rw [going]
  cases applied : course.dispatcher.ledger.apply report <;>
    simp [applied, Except.isOk, Except.toBool, Option.filter]

end Course

/-- The reports that a fresh dispatcher accepts on these occasions, in order. -/
def acceptedReports (occasions : List (Occasion ρ κ)) : List Report := Course.accepts {} occasions

theorem acceptedReports_append_singleton (occasions : List (Occasion ρ κ))
    (occasion : Occasion ρ κ) :
    acceptedReports (occasions ++ [occasion]) =
      acceptedReports occasions ++ ((Course.of occasions).accepted? occasion).toList :=
  Course.accepts_append_singleton [] occasions occasion

/-! ### Being handed out -/

/-- A job of this identifier is delivered to a requester on an occasion. -/
def Course.Delivers (course : Course ρ κ) (occasion : Occasion ρ κ) (id : JobId) : Prop :=
  ∃ requester job, .job requester job ∈ course.shows occasion ∧ job.id = id

/-- **Whether a job of this identifier is handed out**: it was delivered to a requester on one of these
occasions, and no report on it has been accepted since. -/
def HandedOut (occasions : List (Occasion ρ κ)) (id : JobId) : Prop :=
  ∃ before occasion since, occasions = before ++ occasion :: since ∧
    (Course.of before).Delivers occasion id ∧
    ∀ report ∈ (Course.of (before ++ [occasion])).accepts since, report.job.id ≠ id

theorem not_handedOut_nil (id : JobId) : ¬ HandedOut ([] : List (Occasion ρ κ)) id := by
  rintro ⟨before, occasion, since, split, -⟩
  simp at split

/-- A job is handed out on the last occasion, or was before it and is not reported on in it. -/
theorem handedOut_append_singleton (occasions : List (Occasion ρ κ)) (last : Occasion ρ κ)
    (id : JobId) :
    HandedOut (occasions ++ [last]) id ↔
      (Course.of occasions).Delivers last id ∨
        HandedOut occasions id ∧
          ∀ report, (Course.of occasions).accepted? last = some report → report.job.id ≠ id := by
  constructor
  · rintro ⟨before, occasion, since, split, delivered, unreported⟩
    rcases List.eq_nil_or_concat since with rfl | ⟨since, other, rfl⟩
    · obtain ⟨rfl, same⟩ := List.append_inj' split rfl
      obtain rfl := List.singleton_inj.mp same
      exact .inl delivered
    · rw [List.concat_eq_append, ← List.cons_append, ← List.append_assoc] at split
      obtain ⟨rfl, same⟩ := List.append_inj' split rfl
      obtain rfl := List.singleton_inj.mp same
      rw [List.concat_eq_append, Course.accepts_append_singleton, ← List.append_cons] at unreported
      refine .inr ⟨⟨before, occasion, since, rfl, delivered, fun report member => ?_⟩,
        fun report accepted => ?_⟩
      · exact unreported report (List.mem_append_left _ member)
      · exact unreported report (List.mem_append_right _ (Option.mem_toList.mpr accepted))
  · rintro (delivered | ⟨⟨before, occasion, since, rfl, delivered, unreported⟩, unreportedNow⟩)
    · exact ⟨occasions, last, [], rfl, delivered, nofun⟩
    · refine ⟨before, occasion, since ++ [last], by simp, delivered, fun report member => ?_⟩
      rw [Course.accepts_append_singleton, ← List.append_cons] at member
      rcases List.mem_append.mp member with earlier | now
      · exact unreported report earlier
      · exact unreportedNow report (Option.mem_toList.mp now)

/-- What is delivered on an occasion is what the turn hands out. -/
theorem Course.delivers_iff {course : Course ρ κ} (going : course.ending = none)
    (occasion : Occasion ρ κ) (id : JobId) :
    course.Delivers occasion id ↔
      id ∈ ((course.next occasion).delivered.map Prod.snd).map Job.id := by
  simp [Delivers, shows_of_going going, Turn.sights]

/-- What an event leaves in flight, before any job is handed out: all but the job of a report. -/
theorem mem_inFlight_react {ledger next : Ledger} {event : Event ρ κ}
    (reacted : ledger.react event = .ok next) (id : JobId) :
    id ∈ next.inFlight.map Job.id ↔
      id ∈ ledger.inFlight.map Job.id ∧
        ∀ report, event.report? = some report → report.job.id ≠ id := by
  cases event with
  | report report =>
    rw [(Ledger.takes_of_apply reacted).inFlight]
    simp only [without, List.mem_map, List.mem_filter, decide_eq_true_eq, Event.report?,
      Option.some.injEq, forall_eq']
    constructor
    · rintro ⟨job, ⟨member, other⟩, rfl⟩
      exact ⟨⟨job, member, rfl⟩, fun same => other same.symm⟩
    · rintro ⟨⟨job, member, rfl⟩, other⟩
      exact ⟨job, ⟨member, fun same => other same.symm⟩, rfl⟩
  | submit job | request requester | endOfInput | stats asker =>
    cases reacted
    simp [Ledger.post, Ledger.endOfInput]

/-- **The jobs in flight are those handed out**, if no identifier is submitted twice. -/
theorem course_inFlight_iff (occasions : List (Occasion ρ κ))
    (going : (Course.of occasions).ending = none)
    (distinct : ((submitted (occasions.map Occasion.event)).map Job.id).Nodup) (id : JobId) :
    id ∈ (Course.of occasions).dispatcher.ledger.inFlight.map Job.id ↔ HandedOut occasions id := by
  revert distinct
  refine Course.of_induction (motive := fun occasions dispatcher =>
    ((submitted (occasions.map Occasion.event)).map Job.id).Nodup →
      (id ∈ dispatcher.ledger.inFlight.map Job.id ↔ HandedOut occasions id)) ?_ ?_ occasions going
  · exact fun _ => ⟨nofun, fun handedOut => absurd handedOut (not_handedOut_nil id)⟩
  · intro occasions occasion going hypothesis goesOn distinct
    obtain ⟨ledger, reacted, -, -, serves⟩ := Course.next_of_going goesOn
    have accounts := (course_accounts occasions going).react reacted
    rw [List.map_append, submitted_append, List.map_append] at distinct
    have before := hypothesis (distinct.sublist (List.sublist_append_left _ _))
    -- the jobs in flight are those delivered now and those that the event has left
    have handsOut : ((Course.of occasions).next occasion).dispatcher.ledger.inFlight.Perm
        (((Course.of occasions).next occasion).delivered.map Prod.snd ++ ledger.inFlight) :=
      serves.inFlight (accounts.unresolved_nodup (by simpa using distinct))
    rw [(handsOut.map Job.id).mem_iff, List.map_append, List.mem_append,
      ← Course.delivers_iff going, mem_inFlight_react reacted, before,
      handedOut_append_singleton, Course.accepted_of_react going reacted]

/-- **A job that is handed out was submitted, and is neither queued nor resolved.** -/
theorem handedOut_iff_elsewhere {occasions : List (Occasion ρ κ)}
    (going : (Course.of occasions).ending = none)
    (distinct : ((submitted (occasions.map Occasion.event)).map Job.id).Nodup) (id : JobId) :
    HandedOut occasions id ↔
      id ∈ (submitted (occasions.map Occasion.event)).map Job.id ∧
        id ∉ (Course.of occasions).dispatcher.ledger.queue.map Job.id ∧
        id ∉ (resolved (occasions.map Occasion.event)).map Job.id := by
  have accounts := course_accounts occasions going
  have conserved := accounts.conserved (course_held occasions going distinct)
  have apart := conserved.nodup_iff.mpr distinct
  rw [Ledger.unresolved, List.map_append] at conserved apart
  obtain ⟨held, -, unresolved⟩ := List.nodup_append.mp apart
  obtain ⟨-, -, unqueued⟩ := List.nodup_append.mp held
  rw [← course_inFlight_iff occasions going distinct, ← conserved.mem_iff]
  constructor
  · intro inFlight
    refine ⟨List.mem_append_left _ (List.mem_append_right _ inFlight), fun queued => ?_,
      fun done => ?_⟩
    · exact unqueued id queued id inFlight rfl
    · exact unresolved id (List.mem_append_right _ inFlight) id done rfl
  · rintro ⟨somewhere, unqueued, unresolved⟩
    have present := (List.mem_append.mp somewhere).resolve_right unresolved
    exact (List.mem_append.mp present).resolve_left unqueued

/-! ### Refusing a report -/

/-- **A report that is refused makes the dispatcher stop**: its ledger stays as it was, nothing is handed
out or logged, and all who wait are released. -/
theorem next_refused {course : Course ρ κ} (report : Report) (presence : ρ → Presence)
    (unknown : report.job.id ∉ course.dispatcher.ledger.inFlight.map Job.id) :
    course.next ⟨.report report, presence⟩ = {
      dispatcher := ⟨course.dispatcher.ledger, []⟩
      released := course.dispatcher.waiting
      ending := some (.aborted (.unknownJob report.job.id)) } := by
  rw [← Ledger.isInFlight_iff] at unknown
  have refused : course.dispatcher.ledger.apply report = .error (.unknownJob report.job.id) := by
    rw [Ledger.apply, if_neg unknown]
  exact handle_report_refused refused

/-- A dispatcher stops at a report with an error that names its job if and only if the job is not in
flight. -/
theorem next_report_aborts_iff {course : Course ρ κ} (report : Report) (presence : ρ → Presence) :
    (course.next ⟨.report report, presence⟩).ending =
        some (.aborted (.unknownJob report.job.id)) ↔
      report.job.id ∉ course.dispatcher.ledger.inFlight.map Job.id := by
  refine ⟨fun aborts known => ?_, fun unknown => by rw [next_refused report presence unknown]⟩
  rw [← Ledger.isInFlight_iff, ← Ledger.apply_isOk_iff] at known
  obtain ⟨ledger, applied⟩ := known
  rw [Course.next, handle_report_accepted applied] at aborts
  split at aborts <;> cases aborts

end Workyard.Dispatch
