/-
**In whose custody a job is.**

As long as nobody but proxies reports on jobs, each job that is handed out is with one proxy or one
caller or in one report on its way, whatever anybody does and in whatever order. So no report ever
names a job that the dispatcher does not know.

* `Traced`, `run_traced`: where the jobs handed out are in every run in which only proxies report;
* `Orderly`, `run_orderly`: what is more in runs in which only proxies ask for jobs;
* `inFlight_in_one_place`: each job handed out is with one proxy or in one report.
-/

import Workyard.Proofs.Yard.Requests

namespace Workyard.Yard

open Dispatch
open scoped List

variable {σ : Type}

/-! ### Where the jobs handed out are -/

/-- Whether an action is a report of one who is no proxy. -/
def Action.isReport : Action → Bool
  | .report _ => true
  | _ => false

/-- **Where jobs are if nobody but proxies reports on them**, as long as the dispatcher takes
events. -/
structure Traced (steps : List (Step σ)) (yard : Yard σ) : Prop where
  /-- What is handed out is with somebody who was given it or in a report. -/
  places : yard.dispatcher.ledger.inFlight ~ yard.held ++ yard.taken ++ yard.carried
  /-- Jobs are as they were submitted. -/
  known : ∀ job ∈ yard.dispatcher.ledger.queue ++ yard.dispatcher.ledger.inFlight,
    job ∈ submitted (handled steps)

namespace Traced

variable {setting : Setting σ} {steps : List (Step σ)} {yard after : Yard σ} {action : Action}

/-- A step that sends no report and by which nobody gets a job or loses one. -/
theorem keep (traced : Traced steps yard) (outside : action.isOutside = true)
    (appends : Appends setting yard action after) (held : after.held = yard.held)
    (taken : after.taken ~ yard.taken)
    (noReport : (yard.message? setting action).bind Event.report? = none) :
    Traced (steps ++ [⟨yard, action, after⟩]) after := by
  have carried : after.carried = yard.carried := by
    rw [Yard.carried, appends.channel, reports_append, reports, reports,
      filterMap_said_eq_nil noReport, List.append_nil]
    rfl
  refine ⟨?_, ?_⟩
  · rw [appends.dispatcher, held, carried]
    exact traced.places.trans ((taken.symm.append_left _).append_right _)
  · rw [appends.dispatcher, handled_outside steps outside]
    exact traced.known

/-- A step of a proxy. -/
theorem move {number : Nat} (traced : Traced steps yard) (isOpen : yard.isOpen = true)
    (outside : action.isOutside = true) (step : ProxyStep number yard after) :
    Traced (steps ++ [⟨yard, action, after⟩]) after := by
  obtain ⟨proxy, messages, phase, found, moves, same⟩ := step
  rw [isOpen] at moves
  have dispatcher : after.dispatcher = yard.dispatcher := same ▸ rfl
  have channel : after.channel = yard.channel ++ messages := same ▸ rfl
  have taken : after.taken = yard.taken := same ▸ rfl
  have replaced : after.proxies = yard.proxies.set number { proxy with phase } := same ▸ rfl
  have held := held_of_set found replaced
  -- what the proxy no longer holds is in its report
  have sent : (reports messages).map Report.job ++ after.held ~ yard.held := by
    rw [moves.held_eq, List.append_assoc] at held
    exact (List.perm_append_left_iff _).mp held
  have carried : after.carried = yard.carried ++ (reports messages).map Report.job := by
    rw [Yard.carried, Yard.carried, channel, reports_append, List.map_append]
  refine ⟨?_, ?_⟩
  · rw [dispatcher]
    calc yard.dispatcher.ledger.inFlight
        ~ yard.held ++ (yard.taken ++ yard.carried) := by
          rw [← List.append_assoc]
          exact traced.places
      _ ~ (reports messages).map Report.job ++ after.held ++ (yard.taken ++ yard.carried) :=
          sent.symm.append_right _
      _ ~ after.held ++ (yard.taken ++ yard.carried) ++ (reports messages).map Report.job := by
          rw [List.append_assoc]
          exact List.perm_append_comm
      _ = after.held ++ after.taken ++ after.carried := by
          rw [taken, carried]
          simp only [List.append_assoc]
  · rw [dispatcher, handled_outside steps outside]
    exact traced.known

/-- **A step that is not the dispatcher's leaves a trace of every job.** -/
theorem outside (traced : Traced steps yard) (isOpen : yard.isOpen = true)
    (isOutside : action.isOutside = true) (unreported : action.isReport = false)
    (possible : yard.act setting action = some after) :
    Traced (steps ++ [⟨yard, action, after⟩]) after := by
  have appends := act_appends isOutside possible
  cases act_involves possible with
  | nobody bystanding proxies callers =>
    obtain ⟨held, -⟩ := undisturbed (fun _ => newcomer_connecting) proxies callers
    refine traced.keep isOutside appends held (by rw [taken, callers]; rfl) ?_
    cases action with
    | report report => cases unreported
    | _ => first | rfl | cases bystanding
  | proxy acts step => exact traced.move isOpen isOutside step
  | request same =>
    rw [request_of_isOpen isOpen] at same
    subst same
    refine traced.keep rfl appends rfl ?_ rfl
    show (yard.callers ++ [Caller.waiting]).filterMap Caller.job? ~ _
    rw [List.filterMap_append]
    exact List.Perm.of_eq (List.append_nil _)
  | withdraw same =>
    subst same
    unfold Yard.withdraw at appends ⊢
    split
    · next waits =>
      rw [if_pos waits] at appends
      exact traced.keep rfl appends rfl (filterMap_set_perm Caller.job? waits _) rfl
    · next idle =>
      rw [if_neg idle] at appends
      exact traced.keep rfl appends rfl (List.Perm.refl _) rfl
  | process | abandon => cases isOutside

/-- What the oldest event does to the jobs handed out. -/
theorem react {event : Message} {rest : List Message} {ledger : Ledger}
    (traced : Traced steps yard) (distinct : yard.dispatcher.ledger.unresolved.Nodup)
    (channel : yard.channel = event :: rest)
    (reacted : yard.dispatcher.ledger.react event = .ok ledger) :
    ledger.inFlight ~ yard.held ++ yard.taken ++ (reports rest).map Report.job ∧
      ∀ job ∈ ledger.queue ++ ledger.inFlight,
        job ∈ yard.dispatcher.ledger.queue ++ yard.dispatcher.ledger.inFlight ∨
          job ∈ submitted [event] := by
  have places := traced.places
  rw [carried, channel] at places
  exact react_custody (Ledger.inFlight_nodup distinct) reacted places

/-- **Handling an event leaves a trace of every job** if the dispatcher goes on. -/
theorem process (traced : Traced steps yard) (queued : Queued yard) (follows : Follows steps yard)
    (distinct : ((submitted (handled (steps ++ [⟨yard, .process, after⟩]))).map Job.id).Nodup)
    (possible : yard.process setting.log = some after) (going : after.isOpen = true) :
    Traced (steps ++ [⟨yard, .process, after⟩]) after := by
  obtain ⟨event, rest, ledger, jobs, serving⟩ := queued.serving follows possible going
  obtain ⟨isOpen, -⟩ := process_eq_some possible
  obtain ⟨-, course, dispatcher, -⟩ := follows.of_isOpen isOpen
  -- identifiers do not repeat in the ledger, neither before the event nor after it
  have accounts := course_accounts (occasions steps) course
  rw [dispatcher] at accounts
  have distinctBefore := accounts.unresolved_nodup (distinct_of_append distinct)
  rw [handled_process steps serving.before] at distinct
  have distinctNow := (accounts.react serving.reacted).unresolved_nodup distinct
  obtain ⟨left, sources⟩ := traced.react distinctBefore serving.before serving.reacted
  refine ⟨?_, fun job member => ?_⟩
  · rw [carried, serving.channel]
    calc after.dispatcher.ledger.inFlight
        ~ jobs.map Prod.snd ++ ledger.inFlight := serving.serves.inFlight distinctNow
      _ ~ jobs.map Prod.snd ++ (yard.held ++ yard.taken ++ (reports rest).map Report.job) :=
          left.append_left _
      _ ~ after.held ++ after.taken ++ (reports rest).map Report.job := by
          rw [← List.append_assoc]
          exact serving.reached.symm.append_right _
  · rw [handled_process steps serving.before, submitted_append, List.mem_append]
    exact (sources job (serving.serves.mem_ledger distinctNow member)).imp (traced.known job) id

/-- **No report is refused.** -/
theorem accepts {event : Message} {rest : List Message} (traced : Traced steps yard)
    (channel : yard.channel = event :: rest) :
    ∃ ledger, yard.dispatcher.ledger.react event = .ok ledger := by
  cases event with
  | report report =>
    have member : report.job ∈ yard.dispatcher.ledger.inFlight := by
      rw [traced.places.mem_iff, carried, channel]
      exact List.mem_append_right _ List.mem_cons_self
    have known : yard.dispatcher.ledger.isInFlight report.job.id = true :=
      (Ledger.isInFlight_iff _ _).mpr (List.mem_map_of_mem member)
    exact (Ledger.apply_isOk_iff _ report).mpr known
  | submit job | request requester | endOfInput | stats asker => exact ⟨_, rfl⟩

/-- Handling an event closes the dispatcher if it makes it stop. -/
theorem process_closes (traced : Traced steps yard) (follows : Follows steps yard)
    (possible : yard.process setting.log = some after) {ending : Ending}
    (stopped : after.board.ending = some ending) :
    ∃ event rest ledger, yard.channel = event :: rest ∧
      yard.dispatcher.ledger.react event = .ok ledger ∧ ledger.isComplete = true ∧
      ending = .closed ledger.tally := by
  obtain ⟨isOpen, event, rest, channel, same⟩ := process_eq_some possible
  cases turned : (yard.dispatcher.handle yard.presence event).ending with
  | none =>
    obtain ⟨board, -⟩ := follows.of_isOpen isOpen
    obtain ⟨-, -, -, released, -⟩ := handle_of_going turned
    rw [take_of_going setting.log rest yard turned released] at same
    rw [same, deliver_board] at stopped
    exact absurd (stopped.symm.trans (congrArg Board.ending board)) nofun
  | some other =>
    obtain rfl : other = ending :=
      Option.some.inj ((follows.shows_ending isOpen turned same).symm.trans stopped)
    cases handle_turnsOut yard.presence yard.dispatcher event with
    | refused error reacted _ =>
      obtain ⟨ledger, accepted⟩ := traced.accepts channel
      exact absurd (reacted.symm.trans accepted) nofun
    | closes ledger reacted decisive complete equal =>
      rw [equal] at turned
      exact ⟨event, rest, ledger, channel, reacted, complete, (Option.some.inj turned).symm⟩
    | goesOn ledger reacted incomplete going released serves =>
      rw [going] at turned
      cases turned

end Traced

/-! ### Runs in which only proxies report -/

section

variable {setting : Setting σ} {kept : σ} {steps : List (Step σ)} {yard : Yard σ}

/-- **Each run in which only proxies report leaves a trace of every job** until the dispatcher stops,
and the dispatcher stops by closing or because nobody is left. -/
theorem run_traced (run : Run setting kept steps yard)
    (unreported : ∀ step ∈ steps, step.action.isReport = false)
    (distinct : ((submitted (handled steps)).map Job.id).Nodup) :
    (yard.isOpen = true → Traced steps yard) ∧
      ∀ error, yard.board.ending = some (.aborted error) →
        ∃ outstanding, error = .abandoned outstanding := by
  induction run using Run.kind_induction with
  | fresh => exact ⟨fun _ => ⟨List.Perm.refl _, by simp⟩, nofun⟩
  | outside steps before after action _ isOutside possible hypothesis =>
    obtain ⟨traced, aborted⟩ := hypothesis
      (fun step member => unreported step (List.mem_append_left _ member))
      (distinct_of_append distinct)
    have appends := act_appends isOutside possible
    refine ⟨fun isOpen => ?_, fun error shown => aborted error (appends.board ▸ shown)⟩
    rw [appends.isOpen_eq] at isOpen
    exact (traced isOpen).outside isOpen isOutside (unreported ⟨before, action, after⟩ (by simp))
      possible
  | process steps before after run possible hypothesis =>
    obtain ⟨traced, -⟩ := hypothesis
      (fun step member => unreported step (List.mem_append_left _ member))
      (distinct_of_append distinct)
    have follows := run_follows run
    obtain ⟨isOpen, -⟩ := process_eq_some possible
    refine ⟨(traced isOpen).process (run_queued run isOpen) follows distinct possible,
      fun error shown => ?_⟩
    obtain ⟨_, _, _, _, _, _, closed⟩ := (traced isOpen).process_closes follows possible shown
    cases closed
  | abandon steps before after run possible _ =>
    obtain ⟨isOpen, -, same⟩ := abandon_eq_some possible
    have published := (run_follows run).shows_ending isOpen rfl same
    refine ⟨fun isOpen => ?_, fun error shown => ?_⟩
    · rw [isOpen_eq_true_iff, published] at isOpen
      cases isOpen
    · rw [published] at shown
      cases shown
      exact ⟨_, rfl⟩

end

/-! ### Runs in which only proxies work -/

/-- Whether an action leaves it to proxies to ask for jobs and to report on them. -/
def Action.isProxied : Action → Bool
  | .request | .report _ => false
  | _ => true

theorem Action.isReport_of_isProxied {action : Action} (proxied : action.isProxied = true) :
    action.isReport = false := by
  cases action with
  | report report => cases proxied
  | _ => rfl

/-- **What a yard has that nobody but proxies works in**, as long as the dispatcher takes events. -/
structure Orderly (steps : List (Step σ)) (yard : Yard σ) : Prop where
  alone : yard.callers = []
  /-- What is handed out is in somebody's custody. -/
  custody : yard.dispatcher.ledger.inFlight ~ yard.custody
  /-- Jobs are as they were submitted. -/
  known : ∀ job ∈ yard.dispatcher.ledger.queue ++ yard.dispatcher.ledger.inFlight,
    job ∈ submitted (handled steps)
  /-- Nobody asks twice. -/
  once : yard.requests.Nodup
  /-- Those who wait for a job have asked, and the others have not. -/
  asked : ∀ requester, requester ∈ yard.requests ↔ yard.presence requester = .present

section

variable {setting : Setting σ} {kept : σ} {steps : List (Step σ)} {yard : Yard σ}

/-- Nobody but proxies asks for jobs where no caller does. -/
theorem run_alone (run : Run setting kept steps yard)
    (proxied : ∀ step ∈ steps, step.action.isProxied = true) : yard.callers = [] := by
  induction run with
  | fresh => rfl
  | @step steps before after action run possible hypothesis =>
    have alone := hypothesis fun step member => proxied step (List.mem_append_left _ member)
    cases act_involves possible with
    | nobody bystanding proxies callers => exact callers.trans alone
    | proxy acts step =>
      obtain ⟨proxy, messages, phase, found, moves, same⟩ := step
      exact (congrArg callers same).trans alone
    | request same => cases proxied ⟨before, .request, after⟩ (by simp)
    | withdraw same => simpa [Yard.withdraw, alone] using congrArg callers same
    | process possible =>
      obtain ⟨-, event, rest, -, same⟩ := process_eq_some possible
      have length := take_callers_length setting.log
        (before.dispatcher.handle before.presence event) rest before
      rw [← same, alone] at length
      exact List.eq_nil_of_length_eq_zero length
    | abandon possible =>
      obtain ⟨-, -, same⟩ := abandon_eq_some possible
      have length := take_callers_length setting.log before.dispatcher.abandon [] before
      rw [← same, alone] at length
      exact List.eq_nil_of_length_eq_zero length

/-- **A run in which only proxies work leads to an orderly yard or to one that has stopped**, and it
stops by closing or because nobody is left. -/
theorem run_orderly (run : Run setting kept steps yard)
    (proxied : ∀ step ∈ steps, step.action.isProxied = true)
    (distinct : ((submitted (handled steps)).map Job.id).Nodup) :
    (yard.isOpen = true → Orderly steps yard) ∧
      ∀ error, yard.board.ending = some (.aborted error) →
        ∃ outstanding, error = .abandoned outstanding := by
  have unreported : ∀ step ∈ steps, step.action.isReport = false := fun step member =>
    Action.isReport_of_isProxied (proxied step member)
  obtain ⟨traced, aborted⟩ := run_traced run unreported distinct
  refine ⟨fun isOpen => ?_, aborted⟩
  have alone := run_alone run proxied
  have queued := run_queued run isOpen
  have places := (traced isOpen).places
  have nothingTaken : yard.taken = [] := by rw [taken, alone]; rfl
  rw [nothingTaken, List.append_nil] at places
  refine ⟨alone, places, (traced isOpen).known, queued.once, fun requester =>
    ⟨fun member => ?_, queued.present requester⟩⟩
  cases requester with
  | proxy number => exact queued.proxies number member
  | caller number =>
    have inside := queued.callers number member
    rw [alone] at inside
    cases inside

/-- How many proxies and reports have a job of this identifier. -/
theorem countP_custody (yard : Yard σ) (id : JobId) :
    (yard.custody.map Job.id).count id =
      yard.proxies.countP (·.holds id) + (reports yard.channel).countP (·.job.id = id) := by
  have proxies : yard.held.countP (·.id = id) = yard.proxies.countP (·.holds id) := by
    rw [held, List.countP_filterMap]
    refine congrArg (List.countP · yard.proxies) (funext fun proxy => ?_)
    unfold Proxy.holds
    cases proxy.phase.held? <;> rfl
  rw [List.count, List.countP_map, custody, List.countP_append, carried, List.countP_map, ← proxies]
  rfl

/-- **Each job that is handed out is in one place.** As long as the dispatcher takes events, the
identifiers that it has marked as handed out are those of the jobs that a proxy holds or a report
carries, each of them is with one proxy or in one report, and all jobs carry the commands that they
were submitted with. The dispatcher never aborts because of a job that it does not know. -/
theorem inFlight_in_one_place (run : Run setting kept steps yard)
    (proxied : ∀ step ∈ steps, step.action.isProxied = true)
    (distinct : ((accepted setting steps).map Job.id).Nodup) :
    (yard.isOpen = true →
      (∀ id, yard.proxies.countP (·.holds id) + (reports yard.channel).countP (·.job.id = id) =
        if yard.dispatcher.ledger.isInFlight id then 1 else 0) ∧
      ∀ job ∈ yard.dispatcher.ledger.queue ++ yard.dispatcher.ledger.inFlight ++ yard.custody,
        job ∈ accepted setting steps) ∧
    ∀ id, yard.board.ending ≠ some (.aborted (.unknownJob id)) := by
  have follows := run_follows run
  obtain ⟨later, sent⟩ := follows.handled_first
  have handledFirst : (submitted (handled steps)).Sublist (accepted setting steps) := by
    rw [run_accepted run, sent, submitted_append]
    exact List.sublist_append_left _ _
  have distinctHandled := distinct.sublist (handledFirst.map Job.id)
  obtain ⟨orderly, aborted⟩ := run_orderly run proxied distinctHandled
  refine ⟨fun isOpen => ⟨fun id => ?_, fun job member => ?_⟩, fun id shown => ?_⟩
  · obtain ⟨-, course, dispatcher, -⟩ := follows.of_isOpen isOpen
    have once : (yard.custody.map Job.id).Nodup := by
      have unresolved := (course_accounts (occasions steps) course).unresolved_nodup distinctHandled
      rw [dispatcher] at unresolved
      exact ((orderly isOpen).custody.map Job.id).nodup_iff.mp (Ledger.inFlight_nodup unresolved)
    have marked : id ∈ yard.custody.map Job.id ↔ yard.dispatcher.ledger.isInFlight id = true := by
      rw [Ledger.isInFlight_iff, ((orderly isOpen).custody.map Job.id).mem_iff]
    rw [← countP_custody, once.count]
    exact if_congr marked rfl rfl
  · refine handledFirst.subset ((orderly isOpen).known job ?_)
    rcases List.mem_append.mp member with inside | inside
    · exact inside
    · exact List.mem_append_right _ ((orderly isOpen).custody.mem_iff.mpr inside)
  · obtain ⟨outstanding, other⟩ := aborted _ shown
    cases other

end

/-- The first of two proxies loses its worker while a job runs and sends the job back. -/
def disconnection : List Action :=
  [.startProxy "a" none, .startProxy "b" none, .submit "true", .connect 0 true, .advanceProxy 0,
    .process, .process, .submit "false", .advanceProxy 0, .callEnded 0 (.error (.transport "lost")),
    .endOfInput, .advanceProxy 0]

/-- The run in which it does. -/
def disconnectionRun : List (Step Unit) × Yard Unit :=
  (play plain disconnection [] { log := () }).get (by decide +kernel)

theorem inFlight_in_one_place_disconnection :
    Run plain () disconnectionRun.1 disconnectionRun.2 ∧
      (∀ step ∈ disconnectionRun.1, step.action.isProxied = true) ∧
      ((accepted plain disconnectionRun.1).map Job.id).Nodup ∧ disconnectionRun.2.isOpen = true ∧
      disconnectionRun.2.dispatcher.ledger.isInFlight "job-1" = true ∧
      disconnectionRun.2.proxies.countP (·.holds "job-1") +
        (reports disconnectionRun.2.channel).countP (·.job.id = "job-1") = 1 := by
  have played : play plain disconnection [] { log := () } = some disconnectionRun :=
    (Option.some_get _).symm
  have run : Run plain () disconnectionRun.1 disconnectionRun.2 := run_of_play .fresh played
  have proxied : ∀ step ∈ disconnectionRun.1, step.action.isProxied = true := by decide +kernel
  have distinct : ((accepted plain disconnectionRun.1).map Job.id).Nodup := by decide +kernel
  have isOpen : disconnectionRun.2.isOpen = true := by decide +kernel
  have marked : disconnectionRun.2.dispatcher.ledger.isInFlight "job-1" = true := by decide +kernel
  have placed := (inFlight_in_one_place run proxied distinct).1 isOpen
  exact ⟨run, proxied, distinct, isOpen, marked, (placed.1 "job-1").trans (if_pos marked)⟩

end Workyard.Yard
