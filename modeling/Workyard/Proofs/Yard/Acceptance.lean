/-
**What becomes of the commands accepted.**

A command is accepted when it is put into the channel. The dispatcher stops as soon as it is done
with the events that it has handled, and what is in the channel then is lost: a command that is sent
behind the end of input may be accepted and never run.

* `accepted_not_all_counted`: a dispatcher may close without having counted a command accepted;
* `run_submitted`: nothing is handed out, held or run that the dispatcher has not been told of;
* `accepted_of_closed`: it has counted those sent up to the event at which it closed, each once, and
  those behind it are never run.
-/

import Workyard.Proofs.Yard.Calls

namespace Workyard.Yard

open Dispatch
open scoped List

variable {σ : Type} {setting : Setting σ} {kept : σ} {steps : List (Step σ)}
  {yard after : Yard σ} {action : Action}

/-- A command is submitted while the end of input is on its way. -/
def lateSubmission : List Action := [.endOfInput, .submit "true", .process]

/-- The run in which it is. -/
def lateSubmissionRun : List (Step Unit) × Yard Unit :=
  (play plain lateSubmission [] { log := () }).get (by decide +kernel)

/-- **Not all commands accepted are counted** by a dispatcher that closes. -/
theorem accepted_not_all_counted :
    ¬ ∀ (steps : List (Step Unit)) (yard : Yard Unit) (tally : Tally), Run plain () steps yard →
      yard.board.ending = some (.closed tally) →
      tally.ok + tally.failed = (accepted plain steps).length := by
  intro counted
  have played : play plain lateSubmission [] { log := () } = some lateSubmissionRun :=
    (Option.some_get _).symm
  have closed : lateSubmissionRun.2.board.ending = some (.closed ⟨0, 0⟩) := by decide +kernel
  have one : accepted plain lateSubmissionRun.1 = [⟨"job-1", "true"⟩] := by decide +kernel
  have run : Run plain () lateSubmissionRun.1 lateSubmissionRun.2 := run_of_play .fresh played
  have same := counted _ _ _ run closed
  rw [one] at same
  cases same

/-- A yard whose dispatcher has closed follows from a course that closed at its last event. -/
theorem Follows.closed_split {tally : Tally} (follows : Follows steps yard)
    (closed : yard.board.ending = some (.closed tally)) :
    ∃ before last lost, occasions steps = before ++ [last] ∧ (Course.of before).ending = none ∧
      ((Course.of before).next last).ending = some (.closed tally) ∧
      sent steps = handled steps ++ lost := by
  cases follows with
  | going board course dispatcher sent =>
    rw [board] at closed
    cases closed
  | stopped ending lost board sent stopped =>
    obtain rfl : ending = .closed tally := Option.some.inj (board.symm.trans closed)
    cases stopped with
    | handling before last split going stops => exact ⟨before, last, lost, split, going, stops, sent⟩
    | deserted going stops nothing =>
      rw [Course.desert_closed_iff, going] at stops
      cases stops

theorem Follows.closesAt {tally : Tally} (follows : Follows steps yard)
    (closed : yard.board.ending = some (.closed tally)) :
    ∃ before last lost, occasions steps = before ++ [last] ∧ ClosesAt before last tally ∧
      sent steps = handled steps ++ lost := by
  obtain ⟨before, last, lost, split, going, stops, sent⟩ := follows.closed_split closed
  exact ⟨before, last, lost, split, closesAt_of_closed going stops, sent⟩

/-! ### What is run -/

/-- The jobs handed out to anybody, in order, each as often as it is handed out. -/
def handedOut (steps : List (Step σ)) : List Job :=
  (Course.of (occasions steps)).delivered.map Prod.snd

/-- The identifiers of the commands that the dispatcher has been told of. -/
def toldOf (steps : List (Step σ)) : List JobId := (submitted (handled steps)).map Job.id

theorem toldOf_subset (steps later : List (Step σ)) : toldOf steps ⊆ toldOf (steps ++ later) := by
  rw [toldOf, toldOf, handled_append, submitted_append, List.map_append]
  exact List.subset_append_left _ _

theorem handedOut_toldOf {job : Job} (member : job ∈ handedOut steps) : job.id ∈ toldOf steps := by
  obtain ⟨delivery, delivered, rfl⟩ := List.mem_map.mp member
  exact course_delivered (occasions steps) delivered

/-- A proxy calls its worker with the job that it holds. -/
theorem held_of_begun {step : Step σ} {job : Job} (begun : step.begun? = some job) :
    job ∈ step.before.held := by
  unfold Step.begun? at begun
  split at begun
  · obtain ⟨proxy, found, given⟩ := Option.bind_eq_some_iff.mp begun
    refine List.mem_filterMap.mpr ⟨proxy, List.mem_of_getElem? found, ?_⟩
    cases phase : proxy.phase with
    | handed handed =>
      rw [phase] at given
      exact given
    | _ =>
      rw [phase] at given
      cases given
  · cases begun

/-- What is held or run after a step, if whoever comes to hold a job gets one that is known. -/
theorem submitted_step {before : Yard σ}
    (known : ∀ job ∈ before.held ++ begun steps, job.id ∈ toldOf steps)
    (held : ∀ job ∈ after.held, job ∈ before.held ∨
      job.id ∈ toldOf (steps ++ [⟨before, action, after⟩])) :
    ∀ job ∈ after.held ++ begun (steps ++ [⟨before, action, after⟩]),
      job.id ∈ toldOf (steps ++ [⟨before, action, after⟩]) := by
  have earlier {job : Job} (member : job ∈ before.held ++ begun steps) :
      job.id ∈ toldOf (steps ++ [⟨before, action, after⟩]) :=
    toldOf_subset steps _ (known job member)
  intro job member
  rcases List.mem_append.mp member with holds | calls
  · rcases held job holds with before | told
    · exact earlier (List.mem_append_left _ before)
    · exact told
  · rw [begun, List.filterMap_append] at calls
    rcases List.mem_append.mp calls with before | now
    · exact earlier (List.mem_append_right _ before)
    · obtain ⟨step, isLast, begins⟩ := List.mem_filterMap.mp now
      obtain rfl := List.mem_singleton.mp isLast
      exact earlier (List.mem_append_left _ (held_of_begun begins))

/-- **Nothing is held or run that the dispatcher has not been told of**, by its identifier, whoever
reports what. -/
theorem run_submitted (run : Run setting kept steps yard) :
    ∀ job ∈ yard.held ++ begun steps, job.id ∈ toldOf steps := by
  induction run using Run.kind_induction with
  | fresh =>
    intro job member
    cases member
  | outside steps before after action _ isOutside possible known =>
    exact submitted_step known fun job holds => .inl (held_outside isOutside possible holds)
  | process steps before after run possible known =>
    obtain ⟨isOpen, event, rest, channel, -⟩ := process_eq_some possible
    obtain ⟨-, course, dispatcher, -⟩ := (run_follows run).of_isOpen isOpen
    refine submitted_step known fun job holds => ?_
    refine (((run_queued run isOpen).process_given channel possible).mem_held holds).imp_right ?_
    intro given
    obtain ⟨delivery, delivered, rfl⟩ := List.mem_map.mp given
    rw [toldOf, handled, occasions_process steps channel]
    refine next_delivered course ?_
    rw [Course.next, dispatcher]
    exact delivered
  | abandon steps before after run possible known =>
    obtain ⟨isOpen, -⟩ := abandon_eq_some possible
    refine submitted_step known fun job holds => ?_
    refine (((run_queued run isOpen).abandon_answers possible).mem_held holds).imp_right ?_
    intro given
    cases given

/-! ### What is counted -/

/-- **What a dispatcher that closed has counted.** Exactly those commands that were sent up to the
event at which it closed are resolved, each once, and counted. Nothing else is handed out or run: if
no identifier is accepted twice, those sent behind it are accepted and lost. There are none if nobody
submits a command behind an end of input. -/
theorem accepted_of_closed {tally : Tally} (run : Run setting kept steps yard)
    (closed : yard.board.ending = some (.closed tally)) :
    (∃ lost, sent steps = handled steps ++ lost ∧ .endOfInput ∈ handled steps ∧
      accepted setting steps = submitted (handled steps) ++ submitted lost ∧
      tally.ok + tally.failed = (submitted (handled steps)).length ∧
      (resolved (handled steps)).map Job.id ~ (submitted (handled steps)).map Job.id ∧
      (∀ job ∈ handedOut steps ++ begun steps,
        job.id ∈ (submitted (handled steps)).map Job.id) ∧
      (((accepted setting steps).map Job.id).Nodup →
        ∀ job ∈ submitted lost, job.id ∉ (handedOut steps ++ begun steps).map Job.id)) ∧
    ((∀ ahead behind, sent steps = ahead ++ .endOfInput :: behind → submitted behind = []) →
      tally.ok + tally.failed = (accepted setting steps).length ∧
      (resolved (handled steps)).map Job.id ~ (accepted setting steps).map Job.id) := by
  obtain ⟨before, last, lost, split, closesAt, sent⟩ := (run_follows run).closesAt closed
  have events : (before ++ [last]).map Occasion.event = handled steps := by rw [handled, split]
  obtain ⟨⟨ended, -⟩, -, -, completed, resolved, -, -⟩ := closesAt
  rw [events] at ended completed resolved
  have accepted : Yard.accepted setting steps = submitted (handled steps) ++ submitted lost := by
    rw [run_accepted run, sent, submitted_append]
  have handledOnly : ∀ job ∈ handedOut steps ++ begun steps,
      job.id ∈ (submitted (handled steps)).map Job.id := fun job member =>
    (List.mem_append.mp member).elim handedOut_toldOf
      fun calls => run_submitted run job (List.mem_append_right _ calls)
  refine ⟨⟨lost, sent, ended, accepted, completed, resolved, handledOnly, ?_⟩,
    fun nothingBehind => ?_⟩
  · intro distinct job isLost runs
    rw [accepted, List.map_append] at distinct
    obtain ⟨other, member, same⟩ := List.mem_map.mp runs
    have told : job.id ∈ (submitted (handled steps)).map Job.id := same ▸ handledOnly other member
    exact (List.nodup_append.mp distinct).2.2 job.id told job.id (List.mem_map_of_mem isLost) rfl
  -- what is lost was sent behind the end of input that was handled
  · have nothingLost : submitted lost = [] := by
      obtain ⟨ahead, behind, around⟩ := List.append_of_mem ended
      have late := nothingBehind ahead (behind ++ lost) (by rw [sent, around]; simp)
      rw [submitted_append] at late
      exact (List.append_eq_nil_iff.mp late).2
    rw [accepted, nothingLost, List.append_nil]
    exact ⟨completed, resolved⟩

/-- A job is done, and while the last report is on its way another command is submitted. -/
def afterthought : List Action :=
  [.startProxy "a" none, .connect 0 true, .submit "true", .advanceProxy 0, .process, .process,
    .advanceProxy 0, .callEnded 0 (.ok ()), .endOfInput, .advanceProxy 0, .submit "false", .process,
    .process]

/-- The run in which it is. -/
def afterthoughtRun : List (Step Unit) × Yard Unit :=
  (play plain afterthought [] { log := () }).get (by decide +kernel)

theorem accepted_of_closed_afterthought :
    Run plain () afterthoughtRun.1 afterthoughtRun.2 ∧
      afterthoughtRun.2.board.ending = some (.closed ⟨1, 0⟩) ∧
      accepted plain afterthoughtRun.1 = [⟨"job-1", "true"⟩, ⟨"job-2", "false"⟩] ∧
      (resolved (handled afterthoughtRun.1)).map Job.id ~
        (submitted (handled afterthoughtRun.1)).map Job.id ∧
      begun afterthoughtRun.1 = [⟨"job-1", "true"⟩] ∧
      "job-2" ∉ (handedOut afterthoughtRun.1 ++ begun afterthoughtRun.1).map Job.id := by
  have played : play plain afterthought [] { log := () } = some afterthoughtRun :=
    (Option.some_get _).symm
  have run : Run plain () afterthoughtRun.1 afterthoughtRun.2 := run_of_play .fresh played
  have closed : afterthoughtRun.2.board.ending = some (.closed ⟨1, 0⟩) := by decide +kernel
  have both : accepted plain afterthoughtRun.1 = [⟨"job-1", "true"⟩, ⟨"job-2", "false"⟩] := by
    decide +kernel
  have first : submitted (handled afterthoughtRun.1) = [⟨"job-1", "true"⟩] := by decide +kernel
  obtain ⟨⟨lost, -, -, split, -, resolved, -, unrun⟩, -⟩ := accepted_of_closed run closed
  have second : submitted lost = [⟨"job-2", "false"⟩] := by
    rw [both, first] at split
    exact (List.cons.inj split).2.symm
  have unrun := unrun (by rw [both]; decide) ⟨"job-2", "false"⟩ (by rw [second]; exact .head _)
  exact ⟨run, closed, both, resolved, by decide +kernel, unrun⟩

end Workyard.Yard
