/-
**Final failures and lost calls are told apart.**

A worker answers a command that did not succeed with an error under a number of its own. A client
takes an error under that number as the end of the command and any other failure of a call as the
loss of the worker. So a proxy reports as failed what was run and failed, whatever it was, and sends
back what may not have been run.

* `reports_iff`: what a proxy reports is settled when its call comes out;
* `execute_of_reply`, `execute_of_failure`: what a client makes of an answer and of a failed call;
* `ofFailure_code_eq_processFailed_iff`: only a failed command is answered under that number;
* `failed_or_lost`: how a proxy reports on a command that was run, and on a call that failed.
-/

import Workyard.Client.Worker
import Workyard.Proofs.Yard.Steps
import Workyard.Rpc.Worker

namespace Workyard

variable {σ τ : Type}

/-! ### What a proxy reports -/

namespace Yard

/-- A proxy whose call comes out this way reports so and goes to this phase, when it gets round to it
while the dispatcher takes events. -/
def Reports (yard : Yard σ) (number : Nat) (outcome : Outcome) (report : Report) (next : Phase) :
    Prop :=
  ∃ returned, yard.callEnded number outcome = some returned ∧ returned.channel = yard.channel ∧
    ∀ later : Yard σ, later.isOpen = true → later.proxies[number]? = returned.proxies[number]? →
      ∃ after, later.advanceProxy number = some after ∧
        after.channel = later.channel ++ [.report report] ∧
        after.proxies[number]?.map Proxy.phase = some next

section Reports

variable {yard : Yard σ} {number : Nat} {proxy : Proxy} {job : Job}

theorem setPhase_self (found : yard.proxies[number]? = some proxy) (phase : Phase) :
    (yard.setPhase number proxy phase).proxies[number]? = some { proxy with phase } := by
  obtain ⟨inside, -⟩ := List.getElem?_eq_some_iff.mp found
  exact List.getElem?_set_self inside

/-- A proxy that has come to report does so if the dispatcher takes events. -/
theorem advanceProxy_reporting {report : Report} (isOpen : yard.isOpen = true)
    (found : yard.proxies[number]? = some proxy) (reporting : proxy.phase = .reporting report) :
    ∃ after, yard.advanceProxy number = some after ∧
      after.channel = yard.channel ++ [.report report] ∧
      after.proxies[number]?.map Proxy.phase = some (.reported report true) := by
  have stillFound : (yard.push (.report report)).proxies[number]? = some proxy := found
  refine ⟨(yard.push (.report report)).setPhase number proxy (.reported report true), ?_, rfl, ?_⟩
  · unfold advanceProxy
    rw [found, Option.bind_eq_bind, Option.bind_some, reporting]
    simp only [Yard.report, send_of_isOpen _ isOpen]
  · rw [setPhase_self stillFound]
    rfl

/-- **What a proxy reports is settled when its call comes out.** -/
theorem reports_iff (found : yard.proxies[number]? = some proxy)
    (calling : proxy.phase = .calling job) (outcome : Outcome) (report : Report) (next : Phase) :
    yard.Reports number outcome report next ↔
      report = outcome.report job ∧ next = .reported (outcome.report job) true := by
  have comesOut : yard.callEnded number outcome =
      some (yard.setPhase number proxy (.reporting (outcome.report job))) := by
    unfold callEnded
    rw [found, Option.bind_eq_bind, Option.bind_some, calling]
  constructor
  · rintro ⟨returned, possible, -, reports⟩
    obtain rfl := Option.some.inj (comesOut.symm.trans possible)
    -- some yard in which the proxy stands like that has a dispatcher that takes events
    obtain ⟨later, isOpen, same⟩ : ∃ later : Yard σ, later.isOpen = true ∧ later.proxies =
        (yard.setPhase number proxy (.reporting (outcome.report job))).proxies :=
      ⟨{ yard.setPhase number proxy (.reporting (outcome.report job)) with board := {} }, rfl, rfl⟩
    obtain ⟨after, advanced, sent, phase⟩ := reports later isOpen (by rw [same])
    have stands : later.proxies[number]? =
        some { proxy with phase := .reporting (outcome.report job) } := by
      rw [same]
      exact setPhase_self found _
    obtain ⟨other, advancedToo, sentToo, phaseToo⟩ := advanceProxy_reporting isOpen stands rfl
    obtain rfl := Option.some.inj (advanced.symm.trans advancedToo)
    have sameReport := List.append_cancel_left (sent.symm.trans sentToo)
    exact ⟨by simpa using sameReport, Option.some.inj (phase.symm.trans phaseToo)⟩
  · rintro ⟨rfl, rfl⟩
    refine ⟨_, comesOut, rfl, fun later isOpen stands => ?_⟩
    rw [setPhase_self found] at stands
    exact advanceProxy_reporting isOpen stands rfl

end Reports

end Yard

/-! ### What a client makes of an answer -/

namespace Client

/-- What a link that leaves answers as they are brings back of a worker's. -/
def carried : Except Rpc.Error Unit → Except LinkFailure String
  | .ok () => .ok Json.null.compact
  | .error error => .error (.refused error.code error.message)

/-- A command that was run comes out as the worker says. -/
theorem execute_of_reply {link : Link τ} {state : τ} {command : String}
    {result : Except ExecFailure Success}
    (arrives : (link.send state ⟨.execute, command⟩).2 = carried (Rpc.Worker.reply result)) :
    (Worker.execute link command state).2 =
      (Rpc.Worker.reply result).mapError fun error => .process error.message := by
  have answered : (link.request scanNothing ⟨.execute, command⟩ state).2 =
      match carried (Rpc.Worker.reply result) with
      | .ok text => (Json.scanText scanNothing text).mapError .unreadable
      | .error failure => .error failure := by
    rw [← arrives]
    unfold Link.request
    rcases link.send state ⟨.execute, command⟩ with ⟨after, text | failure⟩ <;> rfl
  show ((link.request scanNothing ⟨.execute, command⟩ state).2).mapError _ = _
  rw [answered]
  cases result with
  | ok success =>
    have nothing : Json.scanText scanNothing Json.null.compact = .ok () := by rfl
    simp only [Rpc.Worker.reply, carried, nothing]
    rfl
  | error failure => rfl

/-- A call that fails in any other way than under the number for failed commands is lost. -/
theorem execute_of_failure {link : Link τ} {state : τ} {command : String} {failure : LinkFailure}
    (fails : (link.request scanNothing ⟨.execute, command⟩ state).2 = .error failure)
    (other : ∀ message, failure ≠ .refused Rpc.Error.processFailed message) :
    ∃ reason, (Worker.execute link command state).2 = .error (.transport reason) := by
  have judged : (Worker.execute link command state).2 = .error failure.callFailure := by
    show ((link.request scanNothing ⟨.execute, command⟩ state).2).mapError _ = _
    rw [fails]
    rfl
  rw [judged]
  cases failure with
  | refused code message =>
    -- the number that the client knows is the one that the worker uses
    have different : code ≠ LinkFailure.processFailed := fun same =>
      other message (congrArg (LinkFailure.refused · message) same)
    exact ⟨_, congrArg Except.error (if_neg different)⟩
  | lost words | timedOut | restartNeeded | unreadable fault | other words => exact ⟨_, rfl⟩

end Client

/-! ### What a service answers -/

namespace Rpc.Error

/-- **Only a failed command is answered under the number for failed commands.** -/
theorem ofFailure_code_eq_processFailed_iff (failure : Failure) :
    (ofFailure failure).code = processFailed ↔ ∃ cause, failure = .execution cause := by
  obtain ⟨notInvalid, notConflict, notSystem, notInternal⟩ : invalid ≠ processFailed ∧
      conflict ≠ processFailed ∧ system ≠ processFailed ∧ internal ≠ processFailed := by decide
  constructor
  · intro numbered
    cases failure with
    | execution cause => exact ⟨cause, rfl⟩
    | dispatch error =>
      cases error with
      | closed => exact absurd numbered notConflict
      | unknownJob id | abandoned outstanding => exact absurd numbered notInvalid
    | validation words | serialization fault | source fault => exact absurd numbered notInvalid
    | io fault | call failure | transport words => exact absurd numbered notSystem
    | config words | internal words => exact absurd numbered notInternal
  · rintro ⟨cause, rfl⟩
    rfl

/-- No failure of a client is that of a command. -/
theorem toFailure_ne_execution (failure : Client.ClientFailure) (cause : ExecFailure) :
    failure.toFailure ≠ .execution cause := by
  cases failure <;> nofun

end Rpc.Error

/-! ### Failed commands and lost calls -/

open Client Yard

/-- **What was run and failed is reported as failed, what may not have been run is sent back.** If
the answer of the worker arrives, the proxy reports success exactly if the command succeeded, and for
every failure of the command it reports the message of the error that the worker answered. If the
call fails in any other way, it sends the job back and ends. A service answers no other failure under
the number for failed commands, whatever failure of a client it may come from. -/
theorem failed_or_lost (link : Link τ) (state : τ) {yard : Yard σ} {number : Nat} {proxy : Proxy}
    {job : Job} (found : yard.proxies[number]? = some proxy) (calling : proxy.phase = .calling job) :
    let outcome := (Client.Worker.execute link job.command state).2
    (∀ result : Except ExecFailure Success,
      (link.send state ⟨.execute, job.command⟩).2 = carried (Rpc.Worker.reply result) →
      ((∃ next, yard.Reports number outcome (.ok job) next) ↔ ∃ success, result = .ok success) ∧
      (∀ success, result = .ok success → yard.Reports number outcome (.ok job) .idle) ∧
      ∀ failure, result = .error failure → ∃ error, Rpc.Worker.reply result = .error error ∧
        ∀ report next, yard.Reports number outcome report next ↔
          report = .fail job error.message ∧ next = .idle) ∧
    (∀ failure : LinkFailure,
      (link.request scanNothing ⟨.execute, job.command⟩ state).2 = .error failure →
      (∀ message, failure ≠ .refused Rpc.Error.processFailed message) →
      ∀ report next, yard.Reports number outcome report next ↔
        report = .repost job ∧ next = .ended .disconnected) ∧
    (∀ failure : Failure, (Rpc.Error.ofFailure failure).code = Rpc.Error.processFailed ↔
      ∃ cause, failure = .execution cause) ∧
    ∀ failure : LinkFailure, (Rpc.Error.ofFailure (ClientFailure.ofLink failure).toFailure).code ≠
      Rpc.Error.processFailed := by
  intro outcome
  have reports := reports_iff found calling outcome
  refine ⟨fun result arrives => ?_, fun failure fails other => ?_,
    Rpc.Error.ofFailure_code_eq_processFailed_iff, fun failure numbered => ?_⟩
  · have comesOut : outcome = _ := execute_of_reply arrives
    cases result with
    | ok success =>
      have succeeds : outcome = .ok () := comesOut
      rw [succeeds] at reports ⊢
      have idle : yard.Reports number (.ok ()) (.ok job) .idle := (reports _ _).mpr ⟨rfl, rfl⟩
      exact ⟨⟨fun _ => ⟨success, rfl⟩, fun _ => ⟨_, idle⟩⟩, fun _ _ => idle, nofun⟩
    | error failure =>
      have fails : outcome = .error (.process (Rpc.Error.ofExecution
        (failure.truncated maxFailureOutput)).message) := comesOut
      rw [fails] at reports ⊢
      refine ⟨⟨?_, nofun⟩, nofun, fun _ _ => ⟨_, rfl, reports⟩⟩
      rintro ⟨next, succeeded⟩
      cases ((reports _ _).mp succeeded).1
  · obtain ⟨reason, lost⟩ := execute_of_failure fails other
    have isLost : outcome = .error (.transport reason) := lost
    rw [isLost] at reports ⊢
    exact reports
  · obtain ⟨cause, same⟩ := (Rpc.Error.ofFailure_code_eq_processFailed_iff _).mp numbered
    exact Rpc.Error.toFailure_ne_execution _ cause same

/-- A proxy with a call under way. -/
def oneCall : Yard Unit :=
  { proxies := [{ address := "a", phase := .calling ⟨"job-1", "false"⟩ }], log := () }

/-- A link to a worker on which every command fails. -/
def failingLink : Link Unit :=
  ⟨fun _ _ => ((), carried (Rpc.Worker.reply (.error (.exited (some 1) "no"))))⟩

theorem failed_or_lost_exitStatus :
    (oneCall.proxies[0]?.map Proxy.phase = some (.calling ⟨"job-1", "false"⟩)) ∧
      (∀ report next,
        oneCall.Reports 0 (Client.Worker.execute failingLink "false" ()).2 report next ↔
          report = .fail ⟨"job-1", "false"⟩ "exit status 1: [no]" ∧ next = .idle) ∧
      ∀ report next,
        oneCall.Reports 0
          (Client.Worker.execute (Link.severed (.os .networkUnreachable)) "false" ()).2 report next ↔
          report = .repost ⟨"job-1", "false"⟩ ∧ next = .ended .disconnected := by
  have found : oneCall.proxies[0]? =
      some { address := "a", phase := .calling ⟨"job-1", "false"⟩ } := rfl
  obtain ⟨answered, -⟩ := failed_or_lost failingLink () found rfl
  obtain ⟨-, -, failed⟩ := answered (.error (.exited (some 1) "no")) rfl
  obtain ⟨error, replied, reports⟩ := failed _ rfl
  have message : error.message = "exit status 1: [no]" := by
    cases replied
    rfl
  obtain ⟨-, lost, -⟩ := failed_or_lost (Link.severed (.os .networkUnreachable)) () found rfl
  exact ⟨rfl, message ▸ reports, lost (.lost _) rfl nofun⟩

end Workyard
