/-
**How a proxy deals with those around it.**

Whatever the one who connects it, the dispatcher and the worker do, a proxy connects once and then goes
through rounds: it asks for a job, has the worker run the command of the job that it is given, and
reports on this job. A round in which the call is lost is the last one.

* `Deal`, `Step.dealt`: what passes between a proxy and those around it;
* `Surrounded`: a proxy on its own, while all around it anything may happen;
* `Protocol`: what may have passed when a proxy is in a phase;
* `Surrounded.protocol`: nothing else has;
* `proxy_conduct`: what follows for requests, lost calls and the ways in which a proxy ends;
* `run_surrounded`: the proxies of every run are surrounded;
* `Step.sent_dealt`, `run_sentBy`: what a proxy deals with the dispatcher is what it sends.
-/

import Workyard.Proofs.Yard.Answers
import Workyard.Proofs.Yard.Calls
import Workyard.Proofs.Yard.Refusal

namespace Workyard.Yard

open Dispatch

variable {σ : Type} {setting : Setting σ} {kept : σ} {steps : List (Step σ)} {yard after : Yard σ}
  {action : Action} {number : Nat} {deals more : List Deal} {phase next : Phase}

/-! ### Deals -/

/-- What passes between a proxy and those around it. -/
inductive Deal where
  /-- It has itself connected to its worker. -/
  | connect
  | connected (success : Bool)
  /-- It asks the dispatcher for a job. -/
  | request
  | given (job : Option Job)
  /-- It has the worker run a command. -/
  | execute (command : String)
  | returned (outcome : Outcome)
  /-- It sends a report, which is taken or not. -/
  | report (report : Report) (taken : Bool)
deriving DecidableEq

/-- What a proxy in a phase deals by an action of its own. -/
def Phase.dealt (yard : Yard σ) : Phase → Action → List Deal
  | .connecting, .connect _ success => [.connected success]
  | .idle, .advanceProxy _ => [.request]
  | .handed (some job), .advanceProxy _ => [.given (some job), .execute job.command]
  | .handed none, .advanceProxy _ => [.given none]
  | .calling _, .callEnded _ outcome => [.returned outcome]
  | .reporting report, .advanceProxy _ => [.report report ((yard.report report).2 matches .ok _)]
  | _, _ => []

/-- What a proxy deals in a step. -/
def Step.dealt (number : Nat) (step : Step σ) : List Deal :=
  if step.action.proxy? = some number then
    (step.before.proxies[number]?.map fun proxy => proxy.phase.dealt step.before step.action).getD []
  else []

/-- **A proxy on its own, while all around it anything may happen.** It has begun to connect and deals by
its own actions; between them everything else may change in any way, and when it waits for a job any
answer may come. -/
inductive Surrounded (setting : Setting σ) (number : Nat) : List Deal → Yard σ → Prop
  | starts {yard : Yard σ} {proxy : Proxy} (found : yard.proxies[number]? = some proxy)
    (connecting : proxy.phase = .connecting) : Surrounded setting number [.connect] yard
  | acts {deals : List Deal} {before after : Yard σ} {action : Action}
    (surrounded : Surrounded setting number deals before) (own : action.proxy? = some number)
    (possible : before.act setting action = some after) :
    Surrounded setting number (deals ++ Step.dealt number ⟨before, action, after⟩) after
  | around {deals : List Deal} {before after : Yard σ}
    (surrounded : Surrounded setting number deals before)
    (same : after.proxies[number]? = before.proxies[number]?) : Surrounded setting number deals after
  | answered {deals : List Deal} {before after : Yard σ} {proxy : Proxy} {job : Option Job}
    (surrounded : Surrounded setting number deals before)
    (found : before.proxies[number]? = some proxy) (waits : proxy.phase = .waiting)
    (told : after.proxies[number]? = some { proxy with phase := .handed job }) :
    Surrounded setting number deals after

/-! ### One deal after another -/

/-- What a proxy deals when it goes from one phase to the next. -/
inductive Dealing : Phase → List Deal → Phase → Prop
  | connects (success : Bool) : Dealing .connecting [.connected success] (.connected success)
  | asks : Dealing .idle [.request] .waiting
  | turnedAway : Dealing .idle [.request] (.handed none)
  | calls (job : Job) :
    Dealing (.handed (some job)) [.given (some job), .execute job.command] (.calling job)
  | drains : Dealing (.handed none) [.given none] (.ended .drained)
  | returns (job : Job) (outcome : Outcome) :
    Dealing (.calling job) [.returned outcome] (.reporting (outcome.report job))
  | reports (report : Report) (taken : Bool) :
    Dealing (.reporting report) [.report report taken] (.reported report taken)

/-- A proxy that has ended deals nothing any more. -/
theorem Dealing.running (dealing : Dealing phase more next) : phase.exit? = none := by
  cases dealing <;> rfl

theorem Step.dealt_of_found {proxy : Proxy} (own : action.proxy? = some number)
    (found : yard.proxies[number]? = some proxy) (after : Yard σ) :
    Step.dealt number ⟨yard, action, after⟩ = proxy.phase.dealt yard action := by
  simp only [dealt, own, found, if_true, Option.map_some, Option.getD_some]

/-- What an action makes of a proxy is what it makes of the one found. -/
theorem of_bind_proxy {β : Type} {step : Proxy → Option β} {result : β} {proxy : Proxy}
    (found : yard.proxies[number]? = some proxy)
    (possible : yard.proxies[number]?.bind step = some result) : step proxy = some result := by
  rwa [found] at possible

/-- A proxy that takes a step deals what belongs to its phases. -/
theorem act_dealing {proxy : Proxy} (own : action.proxy? = some number)
    (possible : yard.act setting action = some after) (found : yard.proxies[number]? = some proxy) :
    ∃ next, after.proxies[number]? = some { proxy with phase := next } ∧
      Dealing proxy.phase (Step.dealt number ⟨yard, action, after⟩) next := by
  rw [Step.dealt_of_found own found]
  obtain ⟨inside, -⟩ := List.getElem?_eq_some_iff.mp found
  have replaced (next : Phase) :
      (yard.proxies.set number { proxy with phase := next })[number]? =
        some { proxy with phase := next } := List.getElem?_set_self inside
  cases action with
  | connect number success =>
    obtain rfl := Option.some.inj own
    have rest := of_bind_proxy found possible
    split at rest
    · next connecting =>
      cases rest
      rw [connecting]
      exact ⟨_, replaced _, .connects success⟩
    · cases rest
  | callEnded number outcome =>
    obtain rfl := Option.some.inj own
    have rest := of_bind_proxy found possible
    split at rest
    · next job calling =>
      cases rest
      rw [calling]
      exact ⟨_, replaced _, .returns job outcome⟩
    · cases rest
  | advanceProxy number =>
    obtain rfl := Option.some.inj own
    have rest := of_bind_proxy found possible
    split at rest
    · next idle =>
      rw [idle]
      split at rest <;> cases rest
      · exact ⟨_, replaced _, .asks⟩
      · exact ⟨_, replaced _, .turnedAway⟩
    · next job handed =>
      cases rest
      rw [handed]
      cases job with
      | none => exact ⟨_, replaced _, .drains⟩
      | some job => exact ⟨_, replaced _, .calls job⟩
    · next report reporting =>
      rw [reporting]
      refine ⟨_, ?_, .reports report _⟩
      by_cases isOpen : yard.isOpen = true
      · simp only [Yard.report, send_of_isOpen _ isOpen, Option.some.injEq] at rest ⊢
        exact rest ▸ replaced _
      · simp only [Yard.report, send_of_shut _ isOpen, Option.some.injEq] at rest ⊢
        exact rest ▸ replaced _
    · cases rest
  | _ => cases own

/-! ### What a proxy sends -/

/-- The message that a deal with a dispatcher puts into its channel. -/
def Deal.message? (number : Nat) : Deal → Option Message
  | .request => some (.request (.proxy number))
  | .report sent true => some (.report sent)
  | _ => none

/-- A report is taken by a dispatcher that takes events. -/
theorem Phase.taken_of_dealt (isOpen : yard.isOpen = true) {report : Report} {taken : Bool}
    (member : .report report taken ∈ phase.dealt yard action) : taken = true := by
  unfold dealt at member
  split at member <;> simp at member
  obtain ⟨rfl, rfl⟩ := member
  rw [Yard.report, send_of_isOpen _ isOpen]

theorem isOutside_of_proxy (own : action.proxy? = some number) : action.isOutside = true := by
  cases action with
  | process | abandon => cases own
  | _ => rfl

theorem message_of_proxy (own : action.proxy? = some number) :
    yard.message? setting action = yard.proxies[number]?.bind (·.phase.message? number) := by
  cases action with
  | connect number _ | callEnded number _ | advanceProxy number =>
    cases own
    rfl
  | _ => cases own

/-- **A proxy sends what it deals**: a step puts the requests and reports of its deals into the channel
and nothing else, as long as the dispatcher takes events. -/
theorem Step.sent_dealt (own : action.proxy? = some number)
    (possible : yard.act setting action = some after) :
    (Step.mk yard action after).sent = if yard.isOpen = true then
      (Step.dealt number ⟨yard, action, after⟩).filterMap (Deal.message? number) else [] := by
  have outside := isOutside_of_proxy own
  have said := (act_appends outside possible).sent_eq outside
  rw [Yard.sent, List.flatMap_singleton] at said
  rw [said]
  by_cases isOpen : yard.isOpen = true
  · rw [if_pos isOpen, said_of_isOpen isOpen, message_of_proxy own]
    cases found : yard.proxies[number]? with
    | none => simp [dealt, found]
    | some proxy =>
      obtain ⟨next, -, dealing⟩ := act_dealing own possible found
      rw [dealt_of_found own found] at dealing ⊢
      have taken {report : Report} {taken : Bool}
          (member : .report report taken ∈ proxy.phase.dealt yard action) : taken = true :=
        Phase.taken_of_dealt isOpen member
      generalize proxy.phase.dealt yard action = deals at taken dealing
      rw [Option.bind_some]
      generalize proxy.phase = phase at dealing
      cases dealing with
      | reports report heard =>
        obtain rfl := taken List.mem_cons_self
        rfl
      | _ => rfl
  · rw [if_neg isOpen, said_of_shut isOpen]

/-! ### The protocol -/

/-- A round that is not the last. -/
def round (job : Job) (outcome : Outcome) : List Deal :=
  [.request, .given (some job), .execute job.command, .returned outcome,
    .report (outcome.report job) true]

/-- A proxy has connected and gone through rounds in which no call was lost. -/
inductive Rounds : List Deal → Prop
  | start : Rounds [.connect, .connected true]
  | more {deals : List Deal} {outcome : Outcome} (rounds : Rounds deals) (job : Job)
    (here : outcome.isLost = false) : Rounds (deals ++ round job outcome)

/-- **What may have passed when a proxy is in a phase.** -/
inductive Protocol : List Deal → Phase → Prop
  | connecting : Protocol [.connect] .connecting
  | unreachable : Protocol [.connect, .connected false] (.ended .connectFailed)
  | idle {deals : List Deal} (rounds : Rounds deals) : Protocol deals .idle
  | waiting {deals : List Deal} (rounds : Rounds deals) : Protocol (deals ++ [.request]) .waiting
  | handed {deals : List Deal} (rounds : Rounds deals) (job : Option Job) :
    Protocol (deals ++ [.request]) (.handed job)
  | dismissed {deals : List Deal} (rounds : Rounds deals) :
    Protocol (deals ++ [.request, .given none]) (.ended .drained)
  | calling {deals : List Deal} (rounds : Rounds deals) (job : Job) :
    Protocol (deals ++ [.request, .given (some job), .execute job.command]) (.calling job)
  | reporting {deals : List Deal} (rounds : Rounds deals) (job : Job) (outcome : Outcome) :
    Protocol (deals ++ [.request, .given (some job), .execute job.command, .returned outcome])
      (.reporting (outcome.report job))
  | unheard {deals : List Deal} (rounds : Rounds deals) (job : Job) (outcome : Outcome) :
    Protocol (deals ++ [.request, .given (some job), .execute job.command, .returned outcome,
      .report (outcome.report job) false]) (.ended .drained)
  | lost {deals : List Deal} {outcome : Outcome} (rounds : Rounds deals) (job : Job)
    (lost : outcome.isLost = true) :
    Protocol (deals ++ round job outcome) (.ended .disconnected)

/-- **The protocol is kept by every deal.** -/
theorem Protocol.dealing (protocol : Protocol deals phase) (dealing : Dealing phase more next) :
    Protocol (deals ++ more) next := by
  cases dealing with
  | connects success =>
    cases protocol
    cases success with
    | true => exact .idle .start
    | false => exact .unreachable
  | asks =>
    cases protocol with
    | idle rounds => exact .waiting rounds
  | turnedAway =>
    cases protocol with
    | idle rounds => exact .handed rounds none
  | calls job =>
    cases protocol with
    | handed rounds =>
      rw [List.append_assoc]
      exact .calling rounds job
  | drains =>
    cases protocol with
    | handed rounds =>
      rw [List.append_assoc]
      exact .dismissed rounds
  | returns job outcome =>
    cases protocol with
    | calling rounds =>
      rw [List.append_assoc]
      exact .reporting rounds job outcome
  | reports report taken =>
    cases protocol with
    | reporting rounds job outcome =>
      rw [List.append_assoc]
      cases taken with
      | false => exact .unheard rounds job outcome
      | true =>
        cases lost : outcome.isLost with
        | true =>
          rcases outcome with (reason | reason) | _
          · cases lost
          · exact .lost rounds job lost
          · cases lost
        | false =>
          rcases outcome with (reason | reason) | _
          · exact .idle (rounds.more job lost)
          · cases lost
          · exact .idle (rounds.more job lost)

/-- **A proxy keeps the protocol whatever happens around it.** -/
theorem Surrounded.protocol (surrounded : Surrounded setting number deals yard) :
    ∃ proxy, yard.proxies[number]? = some proxy ∧ Protocol deals proxy.phase := by
  induction surrounded with
  | starts found connecting => exact ⟨_, found, connecting ▸ .connecting⟩
  | acts _ own possible hypothesis =>
    obtain ⟨proxy, found, protocol⟩ := hypothesis
    obtain ⟨next, now, dealing⟩ := act_dealing own possible found
    exact ⟨_, now, protocol.dealing dealing⟩
  | around _ same hypothesis =>
    obtain ⟨proxy, found, protocol⟩ := hypothesis
    exact ⟨proxy, same.trans found, protocol⟩
  | answered _ found waits told hypothesis =>
    obtain ⟨proxy, known, protocol⟩ := hypothesis
    obtain rfl := Option.some.inj (known.symm.trans found)
    rw [waits] at protocol
    refine ⟨_, told, ?_⟩
    cases protocol with
    | waiting rounds => exact .handed rounds _

/-! ### What has passed before and after -/

theorem Outcome.report_of_isLost {outcome : Outcome} (lost : outcome.isLost = true) (job : Job) :
    outcome.report job = .repost job := by
  rcases outcome with (reason | reason) | _
  · cases lost
  · rfl
  · cases lost

/-- The report that is sent, and whether it is taken. -/
def Deal.report? : Deal → Option (Report × Bool)
  | .report sent taken => some (sent, taken)
  | _ => none

/-- The last report that a proxy sent, and whether it was taken. -/
def lastReport? (deals : List Deal) : Option (Report × Bool) := (deals.filterMap Deal.report?).getLast?

theorem lastReport_append (deals more : List Deal) :
    lastReport? (deals ++ more) = (lastReport? more).or (lastReport? deals) := by
  rw [lastReport?, List.filterMap_append, List.getLast?_append]
  rfl

theorem lastReport_of_silent (silent : lastReport? more = none) :
    lastReport? (deals ++ more) = lastReport? deals := by
  rw [lastReport_append, silent, Option.none_or]

/-- A deal that is not among the later ones but for the first is this one or an earlier one. -/
theorem split_of_fresh {front tail before later : List Deal} {head deal : Deal} (fresh : deal ∉ tail)
    (split : front ++ head :: tail = before ++ deal :: later) :
    before = front ∨ ∃ middle, front = before ++ deal :: middle := by
  rcases List.append_eq_append_iff.mp split with ⟨between, rfl, rest⟩ | ⟨between, rfl, rest⟩
  · cases between with
    | nil => exact .inl (List.append_nil _)
    | cons first between =>
      have member : deal ∈ tail := by
        rw [(List.cons.inj rest).2]
        simp
      exact absurd member fresh
  · cases between with
    | nil => exact .inl (List.append_nil _).symm
    | cons first between =>
      obtain ⟨rfl, -⟩ := List.cons.inj rest
      exact .inr ⟨between, rfl⟩

namespace Rounds

/-- What comes before a request is rounds, too. -/
theorem of_request (rounds : Rounds deals) {before later : List Deal}
    (split : deals = before ++ .request :: later) : Rounds before := by
  induction rounds generalizing later with
  | start =>
    have member : Deal.request ∈ [Deal.connect, .connected true] := by
      rw [split]
      simp
    simp at member
  | more rounds job here hypothesis =>
    rcases split_of_fresh (by simp) split with rfl | ⟨middle, same⟩
    · exact rounds
    · exact hypothesis same

/-- No call was lost. -/
theorem kept_of_returned (rounds : Rounds deals) {outcome : Outcome}
    (member : .returned outcome ∈ deals) : outcome.isLost = false := by
  induction rounds with
  | start => simp at member
  | more rounds job here hypothesis =>
    rcases List.mem_append.mp member with earlier | now
    · exact hypothesis earlier
    · simp only [round, List.mem_cons, Deal.returned.injEq, reduceCtorEq, List.not_mem_nil, false_or,
        or_false] at now
      exact now ▸ here

/-- No job was sent back. -/
theorem lastReport_ne (rounds : Rounds deals) (job : Job) (taken : Bool) :
    lastReport? deals ≠ some (.repost job, taken) := by
  induction rounds with
  | start => nofun
  | @more deals outcome rounds other here _ =>
    rw [lastReport_append]
    rcases outcome with (reason | reason) | _
    · nofun
    · cases here
    · nofun

/-- The worker was reached. -/
theorem not_failed (rounds : Rounds deals) : .connected false ∉ deals := by
  induction rounds with
  | start => simp
  | more rounds job here hypothesis => simp [round, hypothesis]

/-- The last deal is no refusal of any kind. -/
theorem getLast_ne (rounds : Rounds deals) :
    deals.getLast? ≠ some (.given none) ∧ ∀ report, deals.getLast? ≠ some (.report report false) := by
  cases rounds with
  | start => simp
  | more rounds job here => simp [round]

/-- Deals that hold a lost call are not rounds and what holds none. -/
theorem not_lost (rounds : Rounds deals) {outcome : Outcome} (lost : outcome.isLost = true)
    {tail : List Deal} (absent : .returned outcome ∉ tail) : .returned outcome ∉ deals ++ tail := by
  intro member
  have kept := rounds.kept_of_returned ((List.mem_append.mp member).resolve_right absent)
  rw [lost] at kept
  cases kept

/-- A lost call behind rounds is the one of the round that follows. -/
theorem of_lost (rounds : Rounds deals) {job : Job} {other outcome : Outcome}
    {before later tail : List Deal} (lost : outcome.isLost = true)
    (absent : .returned outcome ∉ tail)
    (split : deals ++ .request :: .given (some job) :: .execute job.command :: .returned other :: tail =
      before ++ .returned outcome :: later) : other = outcome ∧ later = tail := by
  have front : .returned outcome ∉ deals ++ [.request, .given (some job), .execute job.command] :=
    rounds.not_lost lost (by simp)
  have split : (deals ++ [.request, .given (some job), .execute job.command]) ++
      .returned other :: tail = before ++ .returned outcome :: later := by
    rw [← split, List.append_assoc]
    rfl
  obtain ⟨-, same, rest⟩ := (List.append_cons_inj_of_notMem front absent).mp split
  exact ⟨Deal.returned.inj same, rest.symm⟩

end Rounds

namespace Protocol

/-- **What comes before a request** is the connection and complete rounds. -/
theorem of_request (protocol : Protocol deals phase) {before later : List Deal}
    (split : deals = before ++ .request :: later) : Rounds before := by
  cases protocol with
  | connecting | unreachable =>
    have member : Deal.request ∈ before ++ .request :: later := by simp
    rw [← split] at member
    simp at member
  | idle rounds => exact rounds.of_request split
  | waiting rounds | handed rounds | dismissed rounds | calling rounds | reporting rounds
  | unheard rounds | lost rounds =>
    rcases split_of_fresh (by simp) split with rfl | ⟨middle, same⟩
    · exact rounds
    · exact rounds.of_request same

/-- **What comes after a lost call** is at most the report that sends the job back. -/
theorem of_lost (protocol : Protocol deals phase) {before later : List Deal} {outcome : Outcome}
    (split : deals = before ++ .returned outcome :: later) (lost : outcome.isLost = true) :
    later = [] ∨ ∃ job taken, later = [.report (.repost job) taken] := by
  have member : .returned outcome ∈ deals := by
    rw [split]
    simp
  cases protocol with
  | connecting | unreachable => simp at member
  | idle rounds =>
    rw [← List.append_nil deals] at member
    exact absurd member (rounds.not_lost lost (by simp))
  | waiting rounds | handed rounds | dismissed rounds | calling rounds =>
    exact absurd member (rounds.not_lost lost (by simp))
  | reporting rounds => exact .inl (rounds.of_lost lost (by simp) split).2
  | unheard rounds job other =>
    obtain ⟨rfl, rfl⟩ := rounds.of_lost lost (by simp) split
    exact .inr ⟨job, false, by rw [Outcome.report_of_isLost lost]⟩
  | lost rounds job =>
    obtain ⟨rfl, rfl⟩ := rounds.of_lost lost (by simp) split
    exact .inr ⟨job, true, by rw [Outcome.report_of_isLost lost]⟩

/-- **A proxy ends without having worked** if and only if its worker was not reached. -/
theorem connectFailed_iff (protocol : Protocol deals phase) :
    phase = .ended .connectFailed ↔ .connected false ∈ deals := by
  cases protocol with
  | connecting | unreachable => simp
  | idle rounds | waiting rounds | handed rounds | dismissed rounds | calling rounds
  | reporting rounds | unheard rounds => simp [rounds.not_failed]
  | lost rounds => simp [round, rounds.not_failed]

/-- **A proxy gives its worker up** if and only if its last report has sent a job back. -/
theorem disconnected_iff (protocol : Protocol deals phase) :
    phase = .ended .disconnected ↔ ∃ job, lastReport? deals = some (.repost job, true) := by
  cases protocol with
  | connecting | unreachable => exact ⟨nofun, nofun⟩
  | idle rounds => simp [rounds.lastReport_ne]
  | waiting rounds | handed rounds | dismissed rounds | calling rounds | reporting rounds =>
    rw [lastReport_of_silent rfl]
    simp [rounds.lastReport_ne]
  | unheard rounds =>
    rw [lastReport_append]
    refine ⟨nofun, fun ⟨_, last⟩ => ?_⟩
    have taken : false = true := congrArg Prod.snd (Option.some.inj last)
    cases taken
  | lost rounds job lost =>
    rw [lastReport_append, round, Outcome.report_of_isLost lost]
    exact ⟨fun _ => ⟨job, rfl⟩, fun _ => rfl⟩

/-- **A proxy is done** if and only if there was no more work or its report was not taken. -/
theorem drained_iff (protocol : Protocol deals phase) :
    phase = .ended .drained ↔ deals.getLast? = some (.given none) ∨
      ∃ report, deals.getLast? = some (.report report false) := by
  cases protocol with
  | idle rounds =>
    obtain ⟨given, taken⟩ := rounds.getLast_ne
    simp [given, taken]
  | lost rounds => simp [round]
  | _ => simp

/-- **A call is open** only as long as nothing has passed since it began. -/
theorem of_calling {job : Job} (protocol : Protocol deals (.calling job)) :
    deals.getLast? = some (.execute job.command) := by
  cases protocol with
  | calling rounds => simp

end Protocol

/-! ### Proxies in runs -/

/-- What a proxy has dealt in a run in which it was started. -/
def dealings (number : Nat) (steps : List (Step σ)) : List Deal :=
  .connect :: steps.flatMap (Step.dealt number)

theorem Step.dealt_of_other (other : action.proxy? ≠ some number) :
    Step.dealt number ⟨yard, action, after⟩ = [] := if_neg other

/-- What the steps of a run that are not a proxy's own do to it: nothing, or they answer it. -/
def Around (number : Nat) (yard after : Yard σ) : Prop :=
  after.proxies[number]? = yard.proxies[number]? ∨
    ∃ proxy job, yard.proxies[number]? = some proxy ∧ proxy.phase = .waiting ∧
      after.proxies[number]? = some { proxy with phase := .handed job }

/-- A turn of the dispatcher leaves a proxy alone that it does not answer. -/
theorem take_proxies_of_unasked (log : Log σ) (turn : Turn Requester Nat) (rest : List Message)
    (unasked : .proxy number ∉
      turn.delivered.map Prod.fst ++ turn.released ++ rest.filterMap Event.requester?) :
    (yard.take log turn rest).proxies[number]? = yard.proxies[number]? := by
  simp only [List.mem_append, not_or] at unasked
  obtain ⟨⟨undelivered, unreleased⟩, unlost⟩ := unasked
  have told : (turn.released.foldl (hand none)
      ((yard.turned log turn rest).deliver turn.delivered)).proxies[number]? =
        yard.proxies[number]? := by
    rw [foldl_keeps_of_mem (fun yard => yard.proxies[number]?) _ fun yard requester member =>
      hand_proxies_of_ne (fun same => unreleased (same ▸ member)) none yard]
    exact foldl_keeps_of_mem (fun yard => yard.proxies[number]?) _ (fun yard delivery member =>
      hand_proxies_of_ne (fun same => undelivered (same ▸ List.mem_map_of_mem member)) _ yard) _
  cases stops : turn.ending with
  | none =>
    simp only [take, stops]
    exact told
  | some ending =>
    simp only [take, stops, stop]
    refine (foldl_keeps_of_mem (fun yard => yard.proxies[number]?) _ ?_ _).trans told
    intro yard message member
    cases message with
    | request requester =>
      refine hand_proxies_of_ne (fun same => unlost ?_) none yard
      exact List.mem_filterMap.mpr ⟨_, member, congrArg some same⟩
    | _ => rfl

/-- A turn that answers some who wait does to a proxy what may happen around it. -/
theorem take_around (queued : Queued yard) (log : Log σ) {turn : Turn Requester Nat}
    {rest : List Message} {given : List Job}
    (asked : turn.delivered.map Prod.fst ++ turn.released ++ rest.filterMap Event.requester? ⊆
      yard.requests) (answers : Answers given yard (yard.take log turn rest)) (number : Nat) :
    Around number yard (yard.take log turn rest) := by
  by_cases member : .proxy number ∈ yard.requests
  · have waits := queued.proxies number member
    rcases present_iff.mp waits with ⟨_, proxy, ⟨⟩, found, waiting⟩ | ⟨_, same, -⟩
    · cases now : (yard.take log turn rest).proxies[number]? with
      | none =>
        have related := answers number
        rw [found, now] at related
        cases related
      | some after =>
        obtain ⟨earlier, before, answered⟩ := answers.source now
        obtain rfl := Option.some.inj (before.symm.trans found)
        cases answered with
        | untouched => exact .inl (now.trans found.symm)
        | told job => exact .inr ⟨earlier, job, found, waiting, now⟩
    · cases same
  · exact .inl (take_proxies_of_unasked log turn rest fun answered => member (asked answered))

/-- **What the dispatcher does to a proxy may happen around it.** -/
theorem process_around (queued : Queued yard) (follows : Follows steps yard)
    (possible : yard.process setting.log = some after) (number : Nat) :
    Around number yard after := by
  obtain ⟨given, answers, -⟩ := queued.process_answers follows possible
  obtain ⟨-, event, rest, channel, rfl⟩ := process_eq_some possible
  obtain ⟨known, -⟩ := turn_requesters (handle_turnsOut yard.presence yard.dispatcher event)
  refine take_around queued setting.log (fun requester answered => ?_) answers number
  rw [requests_of_channel channel]
  rcases List.mem_append.mp answered with told | lost
  · exact List.mem_append_left _ (known told)
  · exact List.mem_append_right _ lost

theorem abandon_around (queued : Queued yard) (possible : yard.abandon setting.log = some after)
    (number : Nat) : Around number yard after := by
  have answers := queued.abandon_answers possible
  obtain ⟨-, -, rfl⟩ := abandon_eq_some possible
  refine take_around queued setting.log (fun requester released => ?_) answers number
  simp only [Dispatcher.abandon, List.map_nil, List.nil_append, List.filterMap_nil,
    List.append_nil] at released
  exact List.mem_append_left _ released

/-- What a step that is not a proxy's own does to it may happen around it, if it was there before. -/
theorem act_around (follows : Follows steps yard) (queued : yard.isOpen = true → Queued yard)
    (possible : yard.act setting action = some after) (other : action.proxy? ≠ some number)
    (inside : number < yard.proxies.length) : Around number yard after := by
  cases act_involves possible with
  | nobody bystanding proxies callers =>
    refine .inl ?_
    rw [proxies, List.getElem?_append_left inside]
  | proxy acts step =>
    obtain ⟨proxy, messages, phase, found, moves, rfl⟩ := step
    exact .inl (List.getElem?_set_ne fun same => other (acts.trans (congrArg some same)))
  | request same =>
    refine .inl ?_
    subst same
    simp only [Yard.request]
    split <;> rfl
  | withdraw same =>
    refine .inl ?_
    subst same
    simp only [Yard.withdraw]
    split <;> rfl
  | process possible =>
    obtain ⟨isOpen, -⟩ := process_eq_some possible
    exact process_around (queued isOpen) follows possible number
  | abandon possible =>
    obtain ⟨isOpen, -⟩ := abandon_eq_some possible
    exact abandon_around (queued isOpen) possible number

/-- **The proxies of every run are surrounded**, and one that is not there yet has dealt nothing. -/
theorem run_surrounded (run : Run setting kept steps yard) (number : Nat) :
    (yard.proxies.length ≤ number → dealings number steps = [.connect]) ∧
      (number < yard.proxies.length → Surrounded setting number (dealings number steps) yard) := by
  induction run with
  | fresh => exact ⟨fun _ => rfl, nofun⟩
  | @step steps before after action run possible hypothesis =>
    obtain ⟨absent, surrounded⟩ := hypothesis
    have more : dealings number (steps ++ [⟨before, action, after⟩]) =
        dealings number steps ++ Step.dealt number ⟨before, action, after⟩ := by
      simp [dealings]
    rw [more]
    rcases Nat.lt_or_ge number before.proxies.length with inside | beyond
    · have there : number < after.proxies.length :=
        Nat.lt_of_lt_of_le inside ((act_proxies_length possible).symm ▸ Nat.le_add_right _ _)
      refine ⟨fun outside => absurd there (Nat.not_lt_of_le outside), fun _ => ?_⟩
      by_cases own : action.proxy? = some number
      · exact (surrounded inside).acts own possible
      · rw [Step.dealt_of_other own, List.append_nil]
        have around := act_around (run_follows run) (run_queued run) possible own inside
        rcases around with same | ⟨proxy, job, found, waits, told⟩
        · exact (surrounded inside).around same
        · exact (surrounded inside).answered found waits told
    · have nothing : Step.dealt number ⟨before, action, after⟩ = [] := by
        simp [Step.dealt, List.getElem?_eq_none beyond]
      rw [nothing, List.append_nil, absent beyond]
      refine ⟨fun _ => rfl, fun inside => ?_⟩
      have found := List.getElem?_eq_getElem inside
      exact .starts found (connecting_of_new possible beyond found)

/-- The messages that a proxy puts into the channel, in order. -/
def sentBy (number : Nat) (steps : List (Step σ)) : List Message :=
  sent (steps.filter (·.action.proxy? = some number))

/-- **What a proxy has sent in a run** is what it has dealt as long as the dispatcher took events. -/
theorem run_sentBy (run : Run setting kept steps yard) (number : Nat) :
    sentBy number steps = (dealings number (steps.filter (·.before.isOpen))).filterMap
      (Deal.message? number) := by
  induction run with
  | fresh => rfl
  | @step steps before after action run possible hypothesis =>
    have last : sentBy number [⟨before, action, after⟩] =
        (([⟨before, action, after⟩].filter (·.before.isOpen)).flatMap
          (Step.dealt number)).filterMap (Deal.message? number) := by
      by_cases own : action.proxy? = some number
      · have sent := Step.sent_dealt own possible
        by_cases isOpen : before.isOpen = true
        · rw [if_pos isOpen] at sent
          simpa [sentBy, Yard.sent, own, isOpen] using sent
        · rw [if_neg isOpen] at sent
          simpa [sentBy, Yard.sent, own, isOpen] using sent
      · have silent : Step.dealt number ⟨before, action, after⟩ = [] := Step.dealt_of_other own
        simp only [List.filter_cons, List.filter_nil]
        split <;> simp [sentBy, own, silent, Yard.sent]
    have split : sentBy number (steps ++ [⟨before, action, after⟩]) =
        sentBy number steps ++ sentBy number [⟨before, action, after⟩] := by
      rw [sentBy, List.filter_append, sent_append]
      rfl
    rw [split, hypothesis, last, dealings, dealings, List.filter_append, List.flatMap_append,
      ← List.cons_append, List.filterMap_append]

/-! ### The conduct of a proxy -/

/-- A call comes out only while it is open. -/
theorem calling_of_callEnded {outcome : Outcome} {proxy : Proxy}
    (found : yard.proxies[number]? = some proxy)
    (possible : yard.callEnded number outcome = some after) : ∃ job, proxy.phase = .calling job := by
  have rest := of_bind_proxy found possible
  split at rest
  · next job calling => exact ⟨job, calling⟩
  · cases rest

/-- **The conduct of a proxy**, whatever happens around it. It connects once and goes through rounds, in
each of which it asks for a job, has its worker run the command of the job that it is given, once, and
reports on this job, once. Whenever it asks, it has connected and all that came before is complete rounds
without a lost call. Behind a lost call comes nothing but the report that sends the job back, and an
outcome that comes when no call is open does nothing. The proxy has ended without having worked if and
only if its worker was not reached, has given the worker up if and only if its last report sent a job
back and was taken, and is done if and only if there was no more work or its report was not taken. What
it deals with the dispatcher is what it puts into the channel, as long as the dispatcher takes events. -/
theorem proxy_conduct (surrounded : Surrounded setting number deals yard) :
    ∃ proxy, yard.proxies[number]? = some proxy ∧ Protocol deals proxy.phase ∧
      (∀ before later, deals = before ++ .request :: later → Rounds before) ∧
      (∀ before outcome later, deals = before ++ .returned outcome :: later →
        outcome.isLost = true → later = [] ∨ ∃ job taken, later = [.report (.repost job) taken]) ∧
      (∀ outcome after, yard.callEnded number outcome = some after →
        ∃ command, deals.getLast? = some (.execute command)) ∧
      (proxy.phase = .ended .connectFailed ↔ .connected false ∈ deals) ∧
      (proxy.phase = .ended .disconnected ↔ ∃ job, lastReport? deals = some (.repost job, true)) ∧
      (proxy.phase = .ended .drained ↔ deals.getLast? = some (.given none) ∨
        ∃ report, deals.getLast? = some (.report report false)) ∧
      (∀ action after, action.proxy? = some number → yard.act setting action = some after →
        (Step.mk yard action after).sent = if yard.isOpen = true then
          (Step.dealt number ⟨yard, action, after⟩).filterMap (Deal.message? number) else []) := by
  obtain ⟨proxy, found, protocol⟩ := surrounded.protocol
  refine ⟨proxy, found, protocol, fun before later => protocol.of_request,
    fun before outcome later => protocol.of_lost, fun outcome after possible => ?_,
    protocol.connectFailed_iff, protocol.disconnected_iff, protocol.drained_iff,
    fun action after => Step.sent_dealt⟩
  obtain ⟨job, calling⟩ := calling_of_callEnded found possible
  rw [calling] at protocol
  exact ⟨job.command, protocol.of_calling⟩

/-- A proxy has its worker do one job; the call with the other takes too long. -/
def timedOut : List Action :=
  [.submit "true", .startProxy "a" (some 2000), .connect 0 true, .advanceProxy 0, .process, .process,
    .advanceProxy 0, .callEnded 0 (.ok ()), .advanceProxy 0, .process, .advanceProxy 0,
    .submit "sleep 9", .process, .process, .advanceProxy 0, .callEnded 0 (.late 2000),
    .advanceProxy 0]

/-- The run in which it does. -/
def timedOutRun : List (Step Unit) × Yard Unit :=
  (play plain timedOut [] { log := () }).get (by decide +kernel)

theorem proxy_conduct_timedOut :
    Run plain () timedOutRun.1 timedOutRun.2 ∧
      Surrounded plain 0 (dealings 0 timedOutRun.1) timedOutRun.2 ∧
      dealings 0 timedOutRun.1 = [.connect, .connected true] ++ round ⟨"job-1", "true"⟩ (.ok ()) ++
        round ⟨"job-2", "sleep 9"⟩ (.late 2000) ∧
      (timedOutRun.2.callEnded 0 (.ok ())).isNone = true ∧
      ∃ proxy, timedOutRun.2.proxies[0]? = some proxy ∧ proxy.phase = .ended .disconnected ∧
        Protocol (dealings 0 timedOutRun.1) proxy.phase := by
  have played : play plain timedOut [] { log := () } = some timedOutRun := (Option.some_get _).symm
  have run : Run plain () timedOutRun.1 timedOutRun.2 := run_of_play .fresh played
  have surrounded : Surrounded plain 0 (dealings 0 timedOutRun.1) timedOutRun.2 :=
    (run_surrounded run 0).2 (by decide +kernel)
  have dealt : dealings 0 timedOutRun.1 = [.connect, .connected true] ++
      round ⟨"job-1", "true"⟩ (.ok ()) ++ round ⟨"job-2", "sleep 9"⟩ (.late 2000) := by
    decide +kernel
  obtain ⟨proxy, found, protocol, -, -, -, -, disconnected, -⟩ := proxy_conduct surrounded
  refine ⟨run, surrounded, dealt, by decide +kernel, proxy, found, ?_, protocol⟩
  exact disconnected.mpr ⟨⟨"job-2", "sleep 9"⟩, by rw [dealt]; decide +kernel⟩

end Workyard.Yard
