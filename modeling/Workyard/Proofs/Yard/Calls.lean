/-
**Calls of workers.**

A proxy that has been given a job calls its worker with it, and when the call comes out it reports.
Nobody else has anything to do with calls. As long as only proxies report, each call comes out at
most once, each outcome is reported once, and no job is called again once a call has given a result.

* `begun`, `returned`: the calls that a run begins and those that come out;
* `step_works`: what a step has to do with calls;
* `run_calls`: the accounts of calls, in every run.
-/

import Workyard.Proofs.Yard.Keeping

namespace Workyard.Yard

open Dispatch
open scoped List

variable {σ α : Type} {setting : Setting σ} {kept : σ} {steps : List (Step σ)}
  {yard after : Yard σ} {action : Action}

/-! ### Calls in a run -/

/-- Whether a call was lost, so that its job is sent back. -/
def Outcome.isLost : Outcome → Bool
  | .error (.transport _) => true
  | _ => false

/-- A call that takes too long is lost. -/
@[simp]
theorem Outcome.isLost_late (limit : Nat) : (Outcome.late limit).isLost = true := rfl

/-- A call that has come out. -/
structure Call where
  job : Job
  outcome : Outcome
deriving DecidableEq

/-- The report that a call leads to. -/
def Call.report (call : Call) : Report := call.outcome.report call.job

namespace Phase

/-- The job that a proxy has been given and not looked at. -/
def given? : Phase → Option Job
  | .handed job => job
  | _ => none

/-- The job that the worker of a proxy runs. -/
def calling? : Phase → Option Job
  | .calling job => some job
  | _ => none

/-- The report that a proxy is about to send. -/
def reporting? : Phase → Option Report
  | .reporting report => some report
  | _ => none

end Phase

namespace Step

/-- The job with which a proxy calls its worker in a step. -/
def begun? (step : Step σ) : Option Job :=
  match step.action with
  | .advanceProxy number => step.before.proxies[number]?.bind (·.phase.given?)
  | _ => none

/-- The call that comes out in a step. -/
def returned? (step : Step σ) : Option Call :=
  match step.action with
  | .callEnded number outcome =>
    (step.before.proxies[number]?.bind (·.phase.calling?)).map (⟨·, outcome⟩)
  | _ => none

end Step

/-- The jobs with which proxies call their workers, in order, each as often as it is called. -/
def begun (steps : List (Step σ)) : List Job := steps.filterMap Step.begun?

/-- The calls that come out, in order. -/
def returned (steps : List (Step σ)) : List Call := steps.filterMap Step.returned?

/-- What can be seen of the phases of proxies. -/
def seen (view : Phase → Option α) (yard : Yard σ) : List α :=
  yard.proxies.filterMap fun proxy => view proxy.phase

/-- The jobs that workers run. -/
def calling (yard : Yard σ) : List Job := yard.seen Phase.calling?

/-- The reports that proxies are about to send. -/
def reporting (yard : Yard σ) : List Report := yard.seen Phase.reporting?

/-- The ways in which proxies have ended. -/
def exits (yard : Yard σ) : List Exit := yard.seen Phase.exit?

/-- What is held has been given, is called or is about to be reported. -/
theorem held_perm (yard : Yard σ) :
    yard.held ~ yard.seen Phase.given? ++ (yard.calling ++ yard.reporting.map Report.job) := by
  unfold held calling reporting seen
  induction yard.proxies with
  | nil => exact List.Perm.refl _
  | cons proxy proxies hypothesis =>
    cases phase : proxy.phase with
    | handed job =>
      cases job with
      | none => simpa [phase, Phase.held?, Phase.given?, Phase.calling?, Phase.reporting?]
      | some job => simpa [phase, Phase.held?, Phase.given?, Phase.calling?, Phase.reporting?]
    | calling job =>
      simp only [List.filterMap_cons, phase, Phase.held?, Phase.given?, Phase.calling?,
        Phase.reporting?]
      exact (hypothesis.cons job).trans List.perm_middle.symm
    | reporting report =>
      simp only [List.filterMap_cons, phase, Phase.held?, Phase.given?, Phase.calling?,
        Phase.reporting?, List.map_cons]
      rw [← List.append_assoc] at hypothesis ⊢
      exact (hypothesis.cons report.job).trans List.perm_middle.symm
    | connecting | idle | waiting | ended exit =>
      simpa [phase, Phase.held?, Phase.given?, Phase.calling?, Phase.reporting?]

/-! ### What a step has to do with calls -/

/-- A step of a proxy, with the call that it begins or ends. -/
structure Works (step : Step σ) (number : Nat) (proxy : Proxy) (messages : List Message)
    (next : Phase) : Prop where
  found : step.before.proxies[number]? = some proxy
  moves : proxy.phase.Moves number step.before.isOpen messages next
  replaced : step.after.proxies = step.before.proxies.set number { proxy with phase := next }
  sent : step.sent = messages
  begun : step.begun? = proxy.phase.given?
  returned : step.returned?.map Call.job = proxy.phase.calling?
  reporting : next.reporting? = step.returned?.map Call.report

/-- A step that has nothing to do with calls. -/
structure Idles (step : Step σ) : Prop where
  begun : step.begun? = none
  returned : step.returned? = none
  reports : reports step.sent = []

/-- What a step has to do with calls. -/
inductive Tells (step : Step σ) : Prop
  /-- Nothing; there may be a new proxy. -/
  | nobody (idles : Idles step)
    (proxies : step.after.proxies =
      step.before.proxies ++ (step.before.newcomer? step.action).toList)
  /-- Nothing; some proxies that have asked for a job may be answered. -/
  | dispatcher (idles : Idles step) (newcomer : step.before.newcomer? step.action = none)
    (given : List Job) (answers : Answers given step.before step.after)
  /-- A proxy takes a step. -/
  | worker (newcomer : step.before.newcomer? step.action = none) {number : Nat} {proxy : Proxy}
    {messages : List Message} {next : Phase} (works : Works step number proxy messages next)

/-- A call comes out in a step of its proxy. -/
theorem callEnded_works {number : Nat} {outcome : Outcome}
    (possible : yard.callEnded number outcome = some after) :
    ∃ proxy next, Works ⟨yard, .callEnded number outcome, after⟩ number proxy [] next := by
  obtain ⟨proxy, found, rest⟩ := Option.bind_eq_some_iff.mp possible
  split at rest
  · next job phase =>
    cases rest
    refine ⟨proxy, .reporting (outcome.report job), found, phase ▸ .returns job outcome, rfl,
      List.drop_length, ?_, ?_, ?_⟩
    · rw [phase]
      rfl
    · simp [Step.returned?, found, phase, Phase.calling?]
    · simp [Step.returned?, found, phase, Phase.calling?, Phase.reporting?, Call.report]
  · cases rest

/-- A step of a proxy other than the end of a call. -/
theorem ProxyStep.works {number : Nat} (step : ProxyStep number yard after)
    (idle : ∀ proxy, yard.proxies[number]? = some proxy → proxy.phase.calling? = none)
    (silent : (Step.mk yard action after).returned? = none)
    (begun : ∀ proxy, yard.proxies[number]? = some proxy →
      (Step.mk yard action after).begun? = proxy.phase.given?)
    (sends : (Step.mk yard action after).sent = after.channel.drop yard.channel.length) :
    ∃ proxy messages next, Works ⟨yard, action, after⟩ number proxy messages next := by
  obtain ⟨proxy, messages, next, found, moves, same⟩ := step
  have noReport : next.reporting? = none := by
    have idle := idle proxy found
    generalize proxy.phase = phase at idle moves
    cases moves with
    | connects success => cases success <;> rfl
    | asks taken | turnedAway shut | unheard report shut => rfl
    | collects job => cases job <;> rfl
    | returns job outcome => cases idle
    | reports report taken => cases report <;> rfl
  refine ⟨proxy, messages, next, found, moves, same ▸ rfl, ?_, begun proxy found, ?_, ?_⟩
  · rw [sends, same]
    exact List.drop_left
  · rw [silent, idle proxy found]
    rfl
  · rw [silent, noReport]
    rfl

theorem connect_works {number : Nat} {success : Bool}
    (possible : yard.connect number success = some after) :
    ∃ proxy messages next,
      Works ⟨yard, .connect number success, after⟩ number proxy messages next := by
  obtain ⟨proxy, found, rest⟩ := Option.bind_eq_some_iff.mp possible
  split at rest
  · next phase =>
    refine (connect_proxyStep possible).works (fun other known => ?_) rfl (fun other known => ?_) rfl
    all_goals
      obtain rfl := Option.some.inj (found.symm.trans known)
      rw [phase]
      rfl
  · cases rest

theorem advanceProxy_works {number : Nat} (possible : yard.advanceProxy number = some after) :
    ∃ proxy messages next,
      Works ⟨yard, .advanceProxy number, after⟩ number proxy messages next := by
  refine (advanceProxy_proxyStep possible).works (fun proxy found => ?_) rfl (fun proxy found => ?_)
    rfl
  · -- one whose worker runs a job does nothing of its own
    cases phase : proxy.phase with
    | calling job => simp [advanceProxy, found, phase] at possible
    | _ => rfl
  · simp [Step.begun?, found]

/-- A step that is no proxy's sends no report, unless it is one. -/
theorem reports_sent_eq_nil (isOutside : action.isOutside = true)
    (possible : yard.act setting action = some after)
    (noReport : (yard.message? setting action).bind Event.report? = none) :
    reports (Step.mk yard action after).sent = [] := by
  have said := (act_appends isOutside possible).sent_eq isOutside
  rw [sent, List.flatMap_singleton] at said
  rw [said]
  exact filterMap_said_eq_nil noReport

/-- **What a step of a run has to do with calls**, if it is not a report of someone else. -/
theorem step_works (run : Run setting kept steps yard)
    (unreported : action.isReport = false)
    (possible : yard.act setting action = some after) : Tells ⟨yard, action, after⟩ := by
  have nobodyNew : yard.proxies = yard.proxies ++ [] := (List.append_nil _).symm
  cases act_involves possible with
  | nobody bystanding proxies callers =>
    refine .nobody ?_ proxies
    cases action with
    | report report => cases unreported
    | process | abandon | request | withdraw caller | connect number success
    | callEnded number outcome | advanceProxy number => cases bystanding
    | _ => exact ⟨rfl, rfl, reports_sent_eq_nil rfl possible rfl⟩
  | proxy acts step =>
    cases action with
    | connect number success =>
      obtain ⟨proxy, messages, next, works⟩ := connect_works possible
      exact .worker rfl works
    | callEnded number outcome =>
      obtain ⟨proxy, next, works⟩ := callEnded_works possible
      exact .worker rfl works
    | advanceProxy number =>
      obtain ⟨proxy, messages, next, works⟩ := advanceProxy_works possible
      exact .worker rfl works
    | _ => cases acts
  | request same =>
    refine .nobody ⟨rfl, rfl, reports_sent_eq_nil rfl possible rfl⟩ (Eq.trans ?_ nobodyNew)
    rw [same, Yard.request]
    split <;> rfl
  | withdraw same =>
    refine .nobody ⟨rfl, rfl, reports_sent_eq_nil rfl possible rfl⟩ (Eq.trans ?_ nobodyNew)
    rw [same, Yard.withdraw]
    split <;> rfl
  | process possible =>
    obtain ⟨isOpen, -⟩ := process_eq_some possible
    obtain ⟨given, answers, -⟩ :=
      (run_queued run isOpen).process_answers (run_follows run) possible
    exact .dispatcher ⟨rfl, rfl, rfl⟩ rfl given answers
  | abandon possible =>
    obtain ⟨isOpen, -⟩ := abandon_eq_some possible
    exact .dispatcher ⟨rfl, rfl, rfl⟩ rfl [] ((run_queued run isOpen).abandon_answers possible)

/-! ### What changes by a step -/

/-- Whether nothing is seen of a proxy that has begun nothing or has asked for a job. -/
structure Blank (view : Phase → Option α) : Prop where
  connecting : view .connecting = none
  waiting : view .waiting = none
  handed : ∀ job, view (.handed job) = none

theorem seen_answers {view : Phase → Option α} (blank : Blank view) {given : List Job}
    (answers : Answers given yard after) : after.seen view = yard.seen view := by
  have pending : ∀ phase : Phase, phase.isPending = true → view phase = none := by
    intro phase pending
    cases phase with
    | waiting => exact blank.waiting
    | handed job => exact blank.handed job
    | _ => cases pending
  have same := answers.map_eq fun proxy answered (told : proxy.Answered given answered) => by
    show view answered.phase = view proxy.phase
    cases told with
    | untouched => rfl
    | told job asked among => rw [blank.handed, pending _ asked]
  have compose : ∀ yard : Yard σ, yard.seen view =
      (yard.proxies.map fun proxy => view proxy.phase).filterMap id :=
    fun yard => by rw [List.filterMap_map]; rfl
  rw [compose, compose, same]

theorem seen_newcomer {view : Phase → Option α} (blank : Blank view) {newcomer : Option Proxy}
    (connecting : ∀ proxy, newcomer = some proxy → proxy.phase = .connecting)
    (proxies : after.proxies = yard.proxies ++ newcomer.toList) :
    after.seen view = yard.seen view := by
  rw [seen, proxies]
  cases newcomer with
  | none => rw [Option.toList_none, List.append_nil]; rfl
  | some proxy => simp [seen, connecting proxy rfl, blank.connecting]

/-- What is seen of the proxies changes by steps of proxies alone. -/
theorem Works.seen {step : Step σ} {number : Nat} {proxy : Proxy} {messages : List Message}
    {next : Phase} (works : Works step number proxy messages next) (view : Phase → Option α) :
    (view proxy.phase).toList ++ step.after.seen view ~
      (view next).toList ++ step.before.seen view := by
  rw [Yard.seen, works.replaced]
  exact filterMap_set_perm (fun proxy : Proxy => view proxy.phase) works.found _

/-- A step either has nothing to do with calls and changes nothing that is seen of proxies at work, or
is a step of one proxy. -/
theorem Tells.idles_or_works {step : Step σ} (tells : Tells step) :
    (Idles step ∧ ∀ {α : Type} {view : Phase → Option α}, Blank view →
      step.after.seen view = step.before.seen view) ∨
    ∃ number proxy messages next, Works step number proxy messages next := by
  cases tells with
  | nobody idles proxies =>
    exact .inl ⟨idles, fun blank => seen_newcomer blank (fun _ => newcomer_connecting) proxies⟩
  | dispatcher idles newcomer given answers =>
    exact .inl ⟨idles, fun blank => seen_answers blank answers⟩
  | worker newcomer works => exact .inr ⟨_, _, _, _, works⟩

namespace Phase.Moves

variable {number : Nat} {isOpen : Bool} {phase next : Phase} {messages : List Message}

/-- A worker is called with the job that was given. -/
theorem calling_eq (moves : phase.Moves number isOpen messages next) :
    next.calling? = phase.given? := by
  cases moves with
  | connects success => cases success <;> rfl
  | collects job => cases job <;> rfl
  | reports report taken => cases report <;> rfl
  | asks taken | turnedAway shut | returns job outcome | unheard report shut => rfl

/-- The reports that are sent are those that proxies were about to send. -/
theorem reports_eq (moves : phase.Moves number isOpen messages next)
    (heard : isOpen = false → phase.held? = none) :
    Dispatch.reports messages = phase.reporting?.toList := by
  cases moves with
  | unheard report shut => cases heard shut
  | asks taken | turnedAway shut | connects success | collects job | returns job outcome
  | reports report taken => rfl

/-- A proxy ends disconnected exactly when it sends a job back. -/
theorem disconnected_eq (moves : phase.Moves number isOpen messages next) :
    next.exit?.toList.count .disconnected = (sentBack messages).length := by
  cases moves with
  | connects success => cases success <;> rfl
  | collects job => cases job <;> rfl
  | reports report taken => cases report <;> rfl
  | asks taken | turnedAway shut | returns job outcome | unheard report shut => rfl

/-- A proxy that has ended takes no step. -/
theorem running (moves : phase.Moves number isOpen messages next) : phase.exit? = none := by
  cases moves <;> rfl

end Phase.Moves

/-! ### The accounts of calls -/

@[simp]
theorem Call.report_job (call : Call) : call.report.job = call.job := by
  obtain ⟨job, outcome⟩ := call
  rcases outcome with (reason | reason) | _ <;> rfl

/-- A call that was not lost leads to a report that resolves its job. -/
theorem Call.report_resolved (call : Call) :
    call.report.resolved? = if call.outcome.isLost then none else some call.job := by
  obtain ⟨job, outcome⟩ := call
  rcases outcome with (reason | reason) | _ <;> rfl

/-- A call that was lost leads to a report that sends its job back. -/
theorem Call.report_sentBack (call : Call) :
    call.report.sentBack? = if call.outcome.isLost then some call.job else none := by
  obtain ⟨job, outcome⟩ := call
  rcases outcome with (reason | reason) | _ <;> rfl

/-- Whether no call follows on a job that another call has given a result for. -/
def Conclusive (calls : List Call) : Prop :=
  calls.Pairwise fun earlier later => earlier.outcome.isLost = false → earlier.job.id ≠ later.job.id

/-- **The accounts of calls.** -/
structure CallAccounts (steps : List (Step σ)) (yard : Yard σ) : Prop where
  /-- A call that has begun has come out, or its worker runs the job. -/
  begun : begun steps ~ (returned steps).map Call.job ++ yard.calling
  /-- A call that has come out is reported, or its proxy is about to report it. -/
  reported : (returned steps).map Call.report ~ reports (sent steps) ++ yard.reporting
  conclusive : Conclusive (returned steps)
  known : ∀ call ∈ returned steps, call.job ∈ submitted (handled steps)
  /-- A proxy ends disconnected exactly when it has sent a job back. -/
  disconnected : yard.exits.count .disconnected = (sentBack (sent steps)).length

/-- What is new on one side of an account is carried over to the other. -/
theorem carry_perm {β : Type} {total done left now added moved : List β} (account : total ~ done ++ left)
    (step : moved ++ now ~ added ++ left) : total ++ added ~ done ++ moved ++ now := by
  calc total ++ added ~ done ++ left ++ added := account.append_right _
    _ ~ done ++ (added ++ left) := by
      rw [List.append_assoc]
      exact List.perm_append_comm.append_left _
    _ ~ done ++ (moved ++ now) := step.symm.append_left _
    _ = done ++ moved ++ now := (List.append_assoc _ _ _).symm

namespace CallAccounts

/-- A step that has nothing to do with calls. -/
theorem idle {step : Step σ} (accounts : CallAccounts steps step.before) (idles : Idles step)
    (same : ∀ {α : Type} {view : Phase → Option α}, Blank view →
      step.after.seen view = step.before.seen view) :
    CallAccounts (steps ++ [step]) step.after := by
  have begunSame : Yard.begun (steps ++ [step]) = Yard.begun steps := by
    simp [Yard.begun, idles.begun]
  have returnedSame : returned (steps ++ [step]) = returned steps := by
    simp [returned, idles.returned]
  have sentOne : sent [step] = step.sent := List.flatMap_singleton _ _
  refine ⟨?_, ?_, ?_, ?_, ?_⟩
  · rw [begunSame, returnedSame, calling, same ⟨rfl, rfl, fun _ => rfl⟩]
    exact accounts.begun
  · rw [returnedSame, sent_append, reports_append, sentOne, idles.reports, List.append_nil,
      reporting, same ⟨rfl, rfl, fun _ => rfl⟩]
    exact accounts.reported
  · rw [returnedSame]
    exact accounts.conclusive
  · rw [returnedSame, handled_append, submitted_append]
    exact fun call member => List.mem_append_left _ (accounts.known call member)
  · rw [sent_append, sentBack_append, sentOne, sentBack, sentBack, idles.reports,
      List.filterMap_nil, List.append_nil, exits, same ⟨rfl, rfl, fun _ => rfl⟩]
    exact accounts.disconnected

/-- A call that comes out is on a job that no call has given a result for. -/
theorem unresolved {call : Call} (accounts : CallAccounts steps yard) (keeping : Keeping steps yard)
    (runs : call.job ∈ yard.calling) :
    ∀ earlier ∈ returned steps, earlier.outcome.isLost = false → earlier.job.id ≠ call.job.id := by
  intro earlier member given same
  have held : call.job ∈ yard.held := by
    rw [(held_perm yard).mem_iff]
    exact List.mem_append_right _ (List.mem_append_left _ runs)
  -- the earlier report is sent, or a proxy is about to send it
  have reported := accounts.reported.mem_iff.mp (List.mem_map_of_mem member)
  rcases List.mem_append.mp reported with sent | pending
  · refine keeping.unresolved call.job held ?_
    rw [← same]
    refine List.mem_map_of_mem (List.mem_filterMap.mpr ⟨earlier.report, sent, ?_⟩)
    rw [earlier.report_resolved, given]
    rfl
  · have apart := ((held_perm yard).map Job.id).nodup_iff.mp keeping.apart
    rw [List.map_append, List.map_append] at apart
    obtain ⟨-, apart, -⟩ := List.nodup_append.mp apart
    obtain ⟨-, -, disjoint⟩ := List.nodup_append.mp apart
    refine disjoint _ (List.mem_map_of_mem runs) earlier.job.id ?_ same.symm
    exact List.mem_map_of_mem (List.mem_map.mpr ⟨_, pending, earlier.report_job⟩)

/-- A step of a proxy. -/
theorem work {step : Step σ} {number : Nat} {proxy : Proxy} {messages : List Message} {next : Phase}
    (accounts : CallAccounts steps step.before) (keeping : Keeping steps step.before)
    (heard : step.before.isOpen = false → step.before.held = [])
    (works : Works step number proxy messages next) :
    CallAccounts (steps ++ [step]) step.after := by
  have begunNow : Yard.begun (steps ++ [step]) = Yard.begun steps ++ step.begun?.toList := by
    rw [Yard.begun, List.filterMap_append]
    exact congrArg _ (filterMap_cons_eq _ _ _ |>.trans (List.append_nil _))
  have returnedNow : returned (steps ++ [step]) = returned steps ++ step.returned?.toList := by
    rw [returned, List.filterMap_append]
    exact congrArg _ (filterMap_cons_eq _ _ _ |>.trans (List.append_nil _))
  have sentNow : sent (steps ++ [step]) = sent steps ++ messages := by
    rw [sent_append, sent, sent, List.flatMap_singleton, works.sent]
  have calledBefore : (step.returned?.toList).map Call.job = proxy.phase.calling?.toList := by
    rw [← works.returned]
    cases step.returned? <;> rfl
  have reportedNext : next.reporting?.toList = (step.returned?.toList).map Call.report := by
    rw [works.reporting]
    cases step.returned? <;> rfl
  have sentReports : reports messages = proxy.phase.reporting?.toList :=
    works.moves.reports_eq fun shut =>
      List.filterMap_eq_nil_iff.mp (heard shut) proxy (List.mem_of_getElem? works.found)
  refine ⟨?_, ?_, ?_, ?_, ?_⟩
  · have moved := works.seen Phase.calling?
    rw [works.moves.calling_eq, ← calledBefore, ← works.begun] at moved
    rw [begunNow, returnedNow, List.map_append]
    exact carry_perm accounts.begun moved
  · have moved := works.seen Phase.reporting?
    rw [reportedNext, ← sentReports] at moved
    rw [returnedNow, List.map_append, sentNow, reports_append]
    exact carry_perm accounts.reported moved
  · rw [returnedNow]
    refine List.pairwise_append.mpr ⟨accounts.conclusive, ?_, fun earlier member call added => ?_⟩
    · cases step.returned? with
      | none => exact List.Pairwise.nil
      | some call => exact List.pairwise_singleton _ _
    · refine accounts.unresolved keeping ?_ earlier member
      have runs : call.job ∈ proxy.phase.calling?.toList := by
        rw [← calledBefore]
        exact List.mem_map_of_mem added
      exact List.mem_filterMap.mpr
        ⟨proxy, List.mem_of_getElem? works.found, Option.mem_toList.mp runs⟩
  · rw [returnedNow, handled_append, submitted_append]
    intro call member
    refine List.mem_append_left _ ?_
    rcases List.mem_append.mp member with earlier | added
    · exact accounts.known call earlier
    · refine keeping.known call.job ?_
      have runs : call.job ∈ proxy.phase.calling?.toList := by
        rw [← calledBefore]
        exact List.mem_map_of_mem added
      rw [(held_perm step.before).mem_iff]
      refine List.mem_append_right _ (List.mem_append_left _ ?_)
      exact List.mem_filterMap.mpr
        ⟨proxy, List.mem_of_getElem? works.found, Option.mem_toList.mp runs⟩
  · have moved := (works.seen Phase.exit?).count_eq .disconnected
    rw [works.moves.running, List.count_append, List.count_append,
      works.moves.disconnected_eq] at moved
    have before := accounts.disconnected
    rw [sentNow, sentBack_append, List.length_append]
    simp only [Option.toList_none, List.count_nil] at moved
    unfold exits at before ⊢
    omega

end CallAccounts

/-- **The accounts of calls hold in every run** in which only proxies report. -/
theorem run_calls (run : Run setting kept steps yard)
    (unreported : ∀ step ∈ steps, step.action.isReport = false)
    (distinct : ((submitted (handled steps)).map Job.id).Nodup) : CallAccounts steps yard := by
  induction run with
  | fresh => exact ⟨List.Perm.refl _, List.Perm.refl _, List.Pairwise.nil, nofun, rfl⟩
  | @step steps before after action run possible hypothesis =>
    have unreportedBefore : ∀ step ∈ steps, step.action.isReport = false :=
      fun step member => unreported step (List.mem_append_left _ member)
    have earlier := distinct_of_append distinct
    have accounts := hypothesis unreportedBefore earlier
    have tells := step_works run (unreported ⟨before, action, after⟩ (by simp)) possible
    rcases tells.idles_or_works with ⟨idles, same⟩ | ⟨number, proxy, messages, next, works⟩
    · exact accounts.idle idles same
    · exact accounts.work (run_keeping run unreportedBefore earlier)
        (fun shut => (run_stopped run unreportedBefore earlier shut).held) works

end Workyard.Yard
