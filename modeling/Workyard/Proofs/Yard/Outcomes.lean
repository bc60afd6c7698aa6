/-
**The results of a run do not depend on its course.**

If calls that are not lost come out as a fixed verdict on their command says, and no command is
submitted behind the end of input, then the results with which the dispatcher closes are those of the
commands: which workers there were, in which order jobs were handed out, what was lost and in which
order all this happened makes no difference.

* `run_log`: the log holds the results reported;
* `Concluded.recorded_perm`: the results reported are the verdicts on the commands;
* `results_of_closed`: what the dispatcher counts and what the log holds when it closes.
-/

import Workyard.Proofs.Yard.Attempts

namespace Workyard.Yard

open Dispatch
open scoped List

variable {σ : Type} {setting : Setting σ} {kept : σ} {steps : List (Step σ)}
  {yard after : Yard σ} {action : Action} {tally : Tally}

/-! ### What the log holds -/

/-- **The log holds the results reported**, in the order in which they were handled. -/
theorem run_log (run : Run setting kept steps yard)
    (unreported : ∀ step ∈ steps, step.action.isReport = false)
    (distinct : ((submitted (handled steps)).map Job.id).Nodup) :
    yard.log = setting.log.recordAll kept (recorded (handled steps)) := by
  induction run using Run.kind_induction with
  | fresh => rfl
  | outside steps before after action _ isOutside possible hypothesis =>
    rw [handled_outside steps isOutside, (act_appends isOutside possible).log]
    exact hypothesis (fun step member => unreported step (List.mem_append_left _ member))
      (distinct_of_append distinct)
  | process steps before after run possible hypothesis =>
    have earlier := distinct_of_append distinct
    have unreportedBefore : ∀ step ∈ steps, step.action.isReport = false :=
      fun step member => unreported step (List.mem_append_left _ member)
    obtain ⟨isOpen, event, rest, channel, same⟩ := process_eq_some possible
    obtain ⟨traced, -⟩ := run_traced run unreportedBefore earlier
    obtain ⟨ledger, reacted⟩ := (traced isOpen).accepts channel
    rw [same, take_log, handle_entry reacted, handled_process steps channel, recorded_append,
      recorded_singleton, Log.recordAll_append, ← hypothesis unreportedBefore earlier]
    exact Log.record_eq _ _ _
  | abandon steps before after _ possible hypothesis =>
    obtain ⟨-, -, same⟩ := abandon_eq_some possible
    rw [handled_abandon, same, take_log]
    exact hypothesis (fun step member => unreported step (List.mem_append_left _ member))
      (distinct_of_append distinct)

/-! ### Verdicts on commands -/

/-- The outcome of a call that is not lost, by the verdict on its command. -/
def Outcome.ofVerdict (verdict : Except String Unit) : Outcome := verdict.mapError .process

/-- The result of a job, by the verdict on its command. -/
def entryOf (verdict : String → Except String Unit) (command : String) : Entry :=
  match verdict command with
  | .ok () => .ok command
  | .error output => .failed command output

/-- The commands that succeed. -/
def succeeding (verdict : String → Except String Unit) (commands : List String) : List String :=
  commands.filter fun command => (verdict command).isOk

/-- The commands that fail, with their outputs. -/
def failing (verdict : String → Except String Unit) (commands : List String) :
    List (String × String) :=
  commands.filterMap fun command => match verdict command with
    | .ok () => none
    | .error output => some (command, output)

theorem filterMap_ok_entryOf (verdict : String → Except String Unit) (commands : List String) :
    (commands.map (entryOf verdict)).filterMap Entry.ok? = succeeding verdict commands := by
  rw [List.filterMap_map, succeeding, ← List.filterMap_eq_filter]
  refine List.filterMap_congr fun command _ => ?_
  cases given : verdict command <;>
    simp [entryOf, given, Option.guard, Entry.ok?, Except.isOk, Except.toBool]

theorem filterMap_failed_entryOf (verdict : String → Except String Unit) (commands : List String) :
    (commands.map (entryOf verdict)).filterMap Entry.failed? = failing verdict commands := by
  rw [List.filterMap_map, failing]
  refine List.filterMap_congr fun command _ => ?_
  simp only [Function.comp_apply, entryOf]
  cases verdict command <;> rfl

/-- A call that comes out by the verdict on its command, or is lost, leads to a report of that result
or of none. -/
theorem Call.report_entry {verdict : String → Except String Unit} {call : Call}
    (fixed : call.outcome.isLost = true ∨ call.outcome = .ofVerdict (verdict call.job.command)) :
    Entry.ofReport? call.report =
      call.report.resolved?.map fun job => entryOf verdict job.command := by
  obtain ⟨job, outcome⟩ := call
  rcases fixed with lost | same
  · rcases outcome with (reason | reason) | _
    · cases lost
    · rfl
    · cases lost
  · have same : outcome = .ofVerdict (verdict job.command) := same
    rw [same, Call.report]
    cases given : verdict job.command <;>
      simp [Outcome.ofVerdict, Except.mapError, Outcome.report, Entry.ofReport?, Report.resolved?,
        entryOf, given]

/-- **The results reported are the verdicts on the commands**, each once. -/
theorem Concluded.recorded_perm {verdict : String → Except String Unit}
    (concluded : Concluded steps yard tally)
    (fixed : ∀ call ∈ returned steps,
      call.outcome.isLost = true ∨ call.outcome = .ofVerdict (verdict call.job.command)) :
    recorded (handled steps) ~
      ((submitted (handled steps)).map Job.command).map (entryOf verdict) := by
  have entries : ∀ report ∈ (returned steps).map Call.report, Entry.ofReport? report =
      report.resolved?.map fun job => entryOf verdict job.command := by
    intro report member
    obtain ⟨call, came, same⟩ := List.mem_map.mp member
    exact same ▸ Call.report_entry (fixed call came)
  calc recorded (handled steps)
      ~ ((returned steps).map Call.report).filterMap Entry.ofReport? :=
        (concluded.reported.filterMap Entry.ofReport?).symm
    _ = (((returned steps).map Call.report).filterMap Report.resolved?).map
          (fun job => entryOf verdict job.command) := by
        rw [List.map_filterMap]
        exact List.filterMap_congr entries
    _ ~ (submitted (handled steps)).map (fun job => entryOf verdict job.command) :=
        ((concluded.reported.filterMap Report.resolved?).trans concluded.resolved).map _
    _ = ((submitted (handled steps)).map Job.command).map (entryOf verdict) := by
        rw [List.map_map]
        rfl

/-! ### The results -/

/-- Whether no command is submitted behind an end of input. -/
def SubmitsFirst (messages : List Message) : Prop :=
  messages.Pairwise fun earlier later => earlier matches .endOfInput → later.job? = none

instance : DecidablePred SubmitsFirst := fun messages =>
  inferInstanceAs (Decidable (messages.Pairwise fun earlier later =>
    earlier matches .endOfInput → later.job? = none))

/-- What is sent behind an end of input submits nothing. -/
theorem SubmitsFirst.submitted_eq_nil {front rest : List Message}
    (first : SubmitsFirst (front ++ rest)) (ended : .endOfInput ∈ front) : submitted rest = [] := by
  obtain ⟨-, -, behind⟩ := List.pairwise_append.mp first
  exact List.filterMap_eq_nil_iff.mpr fun message member => behind _ ended message member rfl

/-- **The results of a run do not depend on its course.** Let only proxies report, let a fixed verdict
on each command decide how a call with it comes out unless it is lost, and let no command be submitted
behind the end of input. When the dispatcher has closed, it has counted as many successes and failures
as there are among the commands accepted, and a log that does not fail holds exactly the commands that
succeed and those that fail, with their outputs, besides what it held before. -/
theorem results_of_closed (run : Run setting kept steps yard)
    (unreported : ∀ step ∈ steps, step.action.isReport = false)
    (distinct : ((accepted setting steps).map Job.id).Nodup)
    {verdict : String → Except String Unit}
    (fixed : ∀ call ∈ returned steps,
      call.outcome.isLost = true ∨ call.outcome = .ofVerdict (verdict call.job.command))
    (first : SubmitsFirst (sent steps)) {view : σ → Kept} (keeps : setting.log.Keeps view)
    (closed : yard.board.ending = some (.closed tally)) :
    let commands := (accepted setting steps).map Job.command
    tally = ⟨(succeeding verdict commands).length, (failing verdict commands).length⟩ ∧
      ∃ ok failed,
        view yard.log = ⟨(view kept).ok ++ ok, (view kept).failed ++ failed⟩ ∧
          ok ~ succeeding verdict commands ∧ failed ~ failing verdict commands := by
  intro commands
  obtain ⟨before, last, lost, split, going, stops, sent⟩ := (run_follows run).closed_split closed
  -- all commands accepted are handled before the dispatcher closes
  have ended : .endOfInput ∈ handled steps := by
    have finished := (closesAt_of_closed going stops).finished.1
    rwa [← split] at finished
  have nothingLost : submitted lost = [] := (sent ▸ first).submitted_eq_nil ended
  have accepted : Yard.accepted setting steps = submitted (handled steps) := by
    rw [run_accepted run, sent, submitted_append, nothingLost, List.append_nil]
  have distinctHandled : ((submitted (handled steps)).map Job.id).Nodup := accepted ▸ distinct
  have concluded := run_concluded run unreported distinctHandled closed
  -- so the results reported are the verdicts on these commands
  have results : recorded (handled steps) ~ commands.map (entryOf verdict) := by
    have results := concluded.recorded_perm fixed
    rwa [← accepted] at results
  have ok : (recorded (handled steps)).filterMap Entry.ok? ~ succeeding verdict commands :=
    filterMap_ok_entryOf verdict commands ▸ results.filterMap Entry.ok?
  have failed : (recorded (handled steps)).filterMap Entry.failed? ~ failing verdict commands :=
    filterMap_failed_entryOf verdict commands ▸ results.filterMap Entry.failed?
  refine ⟨?_, _, _, ?_, ok, failed⟩
  · rw [← concluded.tally, concluded.counts.tally, ok.length_eq, failed.length_eq]
  · rw [run_log run unreported distinctHandled]
    exact keeps.view_recordAll kept _

/-- A setting whose log keeps everything. -/
def keepsAll : Setting Kept := ⟨.memory, plain.identify⟩

/-- Of two commands one fails; the other is sent back once, after its worker is lost. -/
def mixedResults : List Action :=
  [.startProxy "a" none, .startProxy "b" none, .submit "true", .submit "false", .endOfInput,
    .connect 0 true, .connect 1 true, .advanceProxy 0, .advanceProxy 1, .process, .process, .process,
    .process, .process, .advanceProxy 0, .advanceProxy 1, .callEnded 1 (.error (.transport "lost")),
    .callEnded 0 (.error (.process "exit status: 1")), .advanceProxy 1, .process, .advanceProxy 0,
    .process, .advanceProxy 0, .process, .advanceProxy 0, .callEnded 0 (.ok ()), .advanceProxy 0,
    .process]

/-- The run in which they do. -/
def mixedResultsRun : List (Step Kept) × Yard Kept :=
  (play keepsAll mixedResults [] { log := {} }).get (by decide +kernel)

/-- The command "true" succeeds, and all others fail. -/
def onlyTrue (command : String) : Except String Unit :=
  if command = "true" then .ok () else .error "exit status: 1"

theorem results_of_closed_mixedResults :
    Run keepsAll {} mixedResultsRun.1 mixedResultsRun.2 ∧
      (∀ step ∈ mixedResultsRun.1, step.action.isReport = false) ∧
      ((accepted keepsAll mixedResultsRun.1).map Job.id).Nodup ∧
      (∀ call ∈ returned mixedResultsRun.1,
        call.outcome.isLost = true ∨ call.outcome = .ofVerdict (onlyTrue call.job.command)) ∧
      SubmitsFirst (sent mixedResultsRun.1) ∧
      mixedResultsRun.2.board.ending = some (.closed ⟨1, 1⟩) ∧
      ∃ ok failed, mixedResultsRun.2.log = ⟨[] ++ ok, [] ++ failed⟩ ∧
        ok ~ succeeding onlyTrue ["true", "false"] ∧
        failed ~ failing onlyTrue ["true", "false"] := by
  have played : play keepsAll mixedResults [] { log := {} } = some mixedResultsRun :=
    (Option.some_get _).symm
  have run : Run keepsAll {} mixedResultsRun.1 mixedResultsRun.2 := run_of_play .fresh played
  have unreported : ∀ step ∈ mixedResultsRun.1, step.action.isReport = false := by decide +kernel
  have distinct : ((accepted keepsAll mixedResultsRun.1).map Job.id).Nodup := by decide +kernel
  have fixed : ∀ call ∈ returned mixedResultsRun.1,
      call.outcome.isLost = true ∨ call.outcome = .ofVerdict (onlyTrue call.job.command) := by
    decide +kernel
  have first : SubmitsFirst (sent mixedResultsRun.1) := by decide +kernel
  have closed : mixedResultsRun.2.board.ending = some (.closed ⟨1, 1⟩) := by decide +kernel
  have commands : (accepted keepsAll mixedResultsRun.1).map Job.command = ["true", "false"] := by
    decide +kernel
  obtain ⟨-, results⟩ :=
    results_of_closed run unreported distinct fixed first Log.memory_keeps closed
  rw [commands] at results
  exact ⟨run, unreported, distinct, fixed, first, closed, results⟩

end Workyard.Yard
