/-
**What a dispatcher gives to its log.**

A dispatcher writes to its log in the turn in which it accepts a result, and goes on whatever the log
does. So what happens to a dispatcher does not depend on its log, every log is given the same entries,
and a log that does not fail holds as many of them as are counted.

* `Journal`: a dispatcher on its course, with what its log holds;
* `next_entry`: an occasion gives to the log what the report accepted on it brings;
* `course_counted`: the counters are those of the reports accepted, also when a dispatcher has stopped;
* `Journal.of_kept`: the log is given the results accepted, in order, and nothing else.
-/

import Workyard.Proofs.Dispatch.Reporting
import Workyard.Proofs.Dispatch.Results

namespace Workyard.Dispatch

variable {ρ κ σ : Type}

/-! ### Results accepted -/

/-- The command that a report says has succeeded. -/
def Report.succeeded? : Report → Option String
  | .ok job => some job.command
  | .fail _ _ | .repost _ => none

/-- The command that a report says has failed, with its output. -/
def Report.failure? : Report → Option (String × String)
  | .fail job output => some (job.command, output)
  | .ok _ | .repost _ => none

theorem filterMap_succeeded (reports : List Report) :
    (reports.filterMap Entry.ofReport?).filterMap Entry.ok? = reports.filterMap Report.succeeded? := by
  rw [List.filterMap_filterMap]
  refine List.filterMap_congr fun report _ => ?_
  cases report <;> rfl

theorem filterMap_failure (reports : List Report) :
    (reports.filterMap Entry.ofReport?).filterMap Entry.failed? = reports.filterMap Report.failure? := by
  rw [List.filterMap_filterMap]
  refine List.filterMap_congr fun report _ => ?_
  cases report <;> rfl

/-- **A log and a tally that agree with the reports accepted**: what the log has got since it held
`kept` is what succeeded and what failed, in order, and the tally counts it. -/
structure Agrees (view : σ → Kept) (kept : σ) (accepted : List Report) (now : σ) (tally : Tally) :
    Prop where
  ok : (view now).ok = (view kept).ok ++ accepted.filterMap Report.succeeded?
  failed : (view now).failed = (view kept).failed ++ accepted.filterMap Report.failure?
  counted : tally =
    ⟨(accepted.filterMap Report.succeeded?).length, (accepted.filterMap Report.failure?).length⟩

/-! ### One occasion -/

/-- A report that a dispatcher refuses is not accepted. -/
theorem Course.accepted_of_refused {course : Course ρ κ} {occasion : Occasion ρ κ}
    {error : DispatchError} (refused : course.dispatcher.ledger.react occasion.event = .error error) :
    course.accepted? occasion = none := by
  obtain ⟨event, presence⟩ := occasion
  cases event with
  | report report =>
    have applied : course.dispatcher.ledger.apply report = .error error := refused
    unfold accepted?
    split
    · rfl
    · simp [applied, Except.isOk, Except.toBool, Option.filter]
  | _ => cases refused

/-- **An occasion gives to the log what the report accepted on it brings.** -/
theorem next_entry {course : Course ρ κ} (going : course.ending = none) (occasion : Occasion ρ κ) :
    (course.next occasion).entry = (course.accepted? occasion).bind Entry.ofReport? := by
  cases course.next_turnsOut occasion with
  | refused error reacted same =>
    rw [same, Course.accepted_of_refused reacted]
    rfl
  | closes ledger reacted decisive complete same =>
    rw [Course.accepted_of_react going reacted]
    exact handle_entry reacted
  | goesOn ledger reacted incomplete goesOn released serves =>
    rw [Course.accepted_of_react going reacted]
    exact handle_entry reacted

/-- Writing what a report brings is giving the log the results among the reports accepted. -/
theorem Log.record_accepted (log : Log σ) (kept : σ) (accepted : Option Report) :
    log.record kept (accepted.bind Entry.ofReport?) =
      log.recordAll kept (accepted.toList.filterMap Entry.ofReport?) := by
  cases accepted with
  | none => rfl
  | some report => cases report <;> rfl

/-! ### Counters -/

/-- Counters depend on the reports among the events alone. -/
theorem Counts.of_reports {events others : List (Event ρ κ)} {ledger : Ledger}
    (counts : Counts events ledger) (same : reports others = reports events) :
    Counts others ledger := by
  obtain ⟨tally, reposted⟩ := counts
  rw [recorded, ← same] at tally
  rw [sentBack, ← same] at reposted
  exact ⟨tally, reposted⟩

theorem reports_map_report (accepted : List Report) :
    reports (accepted.map (Event.report : Report → Event ρ κ)) = accepted := by
  rw [reports, List.filterMap_map]
  exact List.filterMap_some

/-- The counters after an occasion are those of the reports accepted, if they were so before. -/
theorem next_counted {course : Course ρ κ} {accepted : List Report} (going : course.ending = none)
    (counts : Counts (accepted.map (Event.report : Report → Event ρ κ)) course.dispatcher.ledger)
    (occasion : Occasion ρ κ) :
    Counts ((accepted ++ (course.accepted? occasion).toList).map (Event.report : Report → Event ρ κ))
      (course.next occasion).dispatcher.ledger := by
  have sameReports (ledger : Ledger)
      (reacted : course.dispatcher.ledger.react occasion.event = .ok ledger) :
      reports ((accepted ++ (course.accepted? occasion).toList).map
          (Event.report : Report → Event ρ κ)) =
        reports (accepted.map (Event.report : Report → Event ρ κ) ++ [occasion.event]) := by
    rw [reports_map_report, reports_append, reports_map_report, Course.accepted_of_react going reacted]
    cases occasion.event <;> rfl
  cases course.next_turnsOut occasion with
  | refused error reacted same =>
    rw [same, Course.accepted_of_refused reacted, Option.toList_none, List.append_nil]
    exact counts
  | closes ledger reacted decisive complete same =>
    have now := (counts.react reacted).of_reports (sameReports ledger reacted)
    rw [same]
    exact ⟨now.tally, now.reposted⟩
  | goesOn ledger reacted incomplete goesOn released serves =>
    exact ((counts.react reacted).of_reports (sameReports ledger reacted)).serve serves

/-- **The counters are those of the reports accepted**, whether a dispatcher goes on, has closed or has
refused a report. -/
theorem course_counted (occasions : List (Occasion ρ κ)) :
    Counts ((acceptedReports occasions).map (Event.report : Report → Event ρ κ))
      (Course.of occasions).dispatcher.ledger := by
  induction occasions using List.reverseRecOn with
  | nil => exact ⟨rfl, rfl⟩
  | append_singleton occasions occasion hypothesis =>
    rw [Course.of_append_singleton, acceptedReports_append_singleton]
    cases ending : (Course.of occasions).ending with
    | none =>
      rw [Course.extend_of_going ending]
      exact next_counted ending hypothesis occasion
    | some stopped =>
      rw [Course.extend_of_stopped (by simp [ending]), Course.accepted?, ending, Option.toList_none,
        List.append_nil]
      exact hypothesis

theorem course_tally (occasions : List (Occasion ρ κ)) :
    (Course.of occasions).dispatcher.ledger.tally =
      ⟨((acceptedReports occasions).filterMap Report.succeeded?).length,
        ((acceptedReports occasions).filterMap Report.failure?).length⟩ := by
  rw [(course_counted occasions).tally, recorded, reports_map_report, filterMap_succeeded,
    filterMap_failure]

/-! ### The log -/

/-- A dispatcher on its course, with what its log holds. -/
structure Journal (σ ρ κ : Type) where
  course : Course ρ κ := {}
  kept : σ

namespace Journal

/-- A journal with one more occasion: what the turn gives to the log is written. -/
def extend (log : Log σ) (journal : Journal σ ρ κ) (occasion : Occasion ρ κ) : Journal σ ρ κ :=
  match journal.course.ending with
  | some _ => journal
  | none =>
    ⟨journal.course.extend occasion, log.record journal.kept (journal.course.next occasion).entry⟩

/-- The journal of a fresh dispatcher on these occasions, whose log holds `kept`. -/
def of (log : Log σ) (kept : σ) (occasions : List (Occasion ρ κ)) : Journal σ ρ κ :=
  occasions.foldl (extend log) { kept }

theorem of_append_singleton (log : Log σ) (kept : σ) (occasions : List (Occasion ρ κ))
    (occasion : Occasion ρ κ) :
    of log kept (occasions ++ [occasion]) = (of log kept occasions).extend log occasion := by
  simp [of]

/-- **A dispatcher takes the same course whatever its log does.** -/
theorem of_course (log : Log σ) (kept : σ) (occasions : List (Occasion ρ κ)) :
    (of log kept occasions).course = Course.of occasions := by
  induction occasions using List.reverseRecOn with
  | nil => rfl
  | append_singleton occasions occasion hypothesis =>
    rw [of_append_singleton, Course.of_append_singleton, extend, ← hypothesis]
    split
    · next stopped => rw [Course.extend_of_stopped (by simp [stopped])]
    · rfl

/-- **A log is given the results accepted**, in order, and nothing else. -/
theorem of_kept (log : Log σ) (kept : σ) (occasions : List (Occasion ρ κ)) :
    (of log kept occasions).kept =
      log.recordAll kept ((acceptedReports occasions).filterMap Entry.ofReport?) := by
  induction occasions using List.reverseRecOn with
  | nil => rfl
  | append_singleton occasions occasion hypothesis =>
    rw [of_append_singleton, acceptedReports_append_singleton, List.filterMap_append,
      Log.recordAll_append, ← hypothesis, extend, of_course]
    split
    · next stopped => simp [Course.accepted?, stopped, Log.recordAll]
    · next going =>
      rw [next_entry going, Log.record_accepted]

/-- **A log that does not fail agrees with the counters.** -/
theorem of_agrees {log : Log σ} {view : σ → Kept} (keeps : log.Keeps view) (kept : σ)
    (occasions : List (Occasion ρ κ)) :
    Agrees view kept (acceptedReports occasions) (of log kept occasions).kept
      (of log kept occasions).course.dispatcher.ledger.tally := by
  rw [of_kept, of_course]
  have holds := keeps.view_recordAll kept ((acceptedReports occasions).filterMap Entry.ofReport?)
  rw [filterMap_succeeded, filterMap_failure] at holds
  exact ⟨congrArg Kept.ok holds, congrArg Kept.failed holds, course_tally occasions⟩

end Journal

end Workyard.Dispatch
