/-
**What a step of a yard can do.**

The dispatcher alone handles events and alone stops; what it hands out changes proxies and callers
and nothing else. A proxy goes from one phase to the next and sends at most one message.

* `take_of_going`, `take_of_stopping`: what the dispatcher leaves behind;
* `process_eq_some`, `abandon_eq_some`: when the dispatcher can take a step;
* `Phase.Moves`, `ProxyStep`: the steps of a proxy;
* `act_involves`: whom a step of the whole involves.
-/

import Mathlib.Data.List.Basic
import Workyard.Yard.Basic

namespace Workyard.Yard

open Dispatch

variable {σ α β : Type}

theorem filterMap_cons_eq (view : β → Option α) (item : β) (items : List β) :
    (item :: items).filterMap view = (view item).toList ++ items.filterMap view := by
  rw [List.filterMap_cons]
  cases view item <;> rfl

/-! ### The dispatcher -/

/-- What each step of a fold keeps that concerns one of the items, the fold keeps. -/
theorem foldl_keeps_of_mem {step : Yard σ → β → Yard σ} (view : Yard σ → α) (items : List β)
    (keeps : ∀ yard, ∀ item ∈ items, view (step yard item) = view yard) (yard : Yard σ) :
    view (items.foldl step yard) = view yard := by
  induction items generalizing yard with
  | nil => rfl
  | cons item items hypothesis =>
    rw [List.foldl_cons, hypothesis fun yard other member =>
      keeps yard other (List.mem_cons_of_mem _ member), keeps yard item List.mem_cons_self]

/-- What each step of a fold keeps, the fold keeps. -/
theorem foldl_keeps {step : Yard σ → β → Yard σ} (view : Yard σ → α)
    (keeps : ∀ yard item, view (step yard item) = view yard) (items : List β) (yard : Yard σ) :
    view (items.foldl step yard) = view yard :=
  foldl_keeps_of_mem view items (fun yard item _ => keeps yard item) yard

/-- Answering one who asked for a job changes proxies and callers alone. -/
theorem hand_frame (job : Option Job) (yard : Yard σ) (requester : Requester) :
    yard.hand job requester = { yard with
      proxies := (yard.hand job requester).proxies
      callers := (yard.hand job requester).callers } := by
  cases requester with
  | proxy number => rfl
  | caller number =>
    by_cases waits : yard.callers[number]? = some .waiting
    · simp only [hand, if_pos waits]
    · simp only [hand, if_neg waits]

@[simp]
theorem hand_dispatcher (job : Option Job) (yard : Yard σ) (requester : Requester) :
    (yard.hand job requester).dispatcher = yard.dispatcher := by
  rw [hand_frame]

@[simp]
theorem hand_channel (job : Option Job) (yard : Yard σ) (requester : Requester) :
    (yard.hand job requester).channel = yard.channel := by
  rw [hand_frame]

@[simp]
theorem hand_board (job : Option Job) (yard : Yard σ) (requester : Requester) :
    (yard.hand job requester).board = yard.board := by
  rw [hand_frame]

/-- Delivers jobs to those who asked for them. -/
def deliver (yard : Yard σ) (jobs : List (Requester × Job)) : Yard σ :=
  jobs.foldl (fun yard delivery => yard.hand (some delivery.2) delivery.1) yard

@[simp]
theorem deliver_dispatcher (yard : Yard σ) (jobs : List (Requester × Job)) :
    (yard.deliver jobs).dispatcher = yard.dispatcher :=
  foldl_keeps Yard.dispatcher (fun _ _ => hand_dispatcher _ _ _) jobs yard

@[simp]
theorem deliver_channel (yard : Yard σ) (jobs : List (Requester × Job)) :
    (yard.deliver jobs).channel = yard.channel :=
  foldl_keeps Yard.channel (fun _ _ => hand_channel _ _ _) jobs yard

@[simp]
theorem deliver_board (yard : Yard σ) (jobs : List (Requester × Job)) :
    (yard.deliver jobs).board = yard.board :=
  foldl_keeps Yard.board (fun _ _ => hand_board _ _ _) jobs yard

/-- A yard whose dispatcher has taken a turn that nobody has been told of yet. -/
def turned (log : Log σ) (turn : Turn Requester Nat) (rest : List Message) (yard : Yard σ) :
    Yard σ :=
  { yard with
    dispatcher := turn.dispatcher
    channel := rest
    answers := turn.answer.toList ++ yard.answers
    log := log.record yard.log turn.entry }

/-- A dispatcher that goes on has delivered jobs. -/
theorem take_of_going (log : Log σ) {turn : Turn Requester Nat} (rest : List Message)
    (yard : Yard σ) (going : turn.ending = none) (released : turn.released = []) :
    yard.take log turn rest = (yard.turned log turn rest).deliver turn.delivered := by
  simp only [take, going, released]
  rfl

theorem discard_frame (yard : Yard σ) (message : Message) :
    (yard.discard message).dispatcher = yard.dispatcher ∧
      (yard.discard message).channel = yard.channel ∧
      (yard.discard message).board = yard.board := by
  cases message with
  | request requester => exact ⟨hand_dispatcher _ _ _, hand_channel _ _ _, hand_board _ _ _⟩
  | _ => exact ⟨rfl, rfl, rfl⟩

/-- A dispatcher that stops leaves an empty channel and its ending. -/
theorem take_of_stopping (log : Log σ) {turn : Turn Requester Nat} {ending : Ending}
    (rest : List Message) (yard : Yard σ) (stops : turn.ending = some ending) :
    (yard.take log turn rest).dispatcher = turn.dispatcher ∧
      (yard.take log turn rest).channel = [] ∧
      (yard.take log turn rest).board = (yard.board.publish ending).leave := by
  simp only [take, stops, stop]
  refine ⟨?_, ?_, ?_⟩
  · rw [foldl_keeps Yard.dispatcher fun yard message => (discard_frame yard message).1]
    show (List.foldl (hand none) _ turn.released).dispatcher = _
    rw [foldl_keeps Yard.dispatcher fun yard requester => hand_dispatcher none yard requester]
    exact deliver_dispatcher (yard.turned log turn rest) turn.delivered
  · rw [foldl_keeps Yard.channel fun yard message => (discard_frame yard message).2.1]
  · rw [foldl_keeps Yard.board fun yard message => (discard_frame yard message).2.2]
    show ((List.foldl (hand none) _ turn.released).board.publish ending).leave = _
    rw [foldl_keeps Yard.board fun yard requester => hand_board none yard requester]
    have same := deliver_board (yard.turned log turn rest) turn.delivered
    exact congrArg (fun board : Board => (board.publish ending).leave) same

/-- The dispatcher leaves the events that it has not handled, and none when it stops. -/
theorem take_channel (log : Log σ) (turn : Turn Requester Nat) (rest : List Message)
    (yard : Yard σ) :
    (yard.take log turn rest).channel = if turn.ending.isSome then [] else rest := by
  cases ends : turn.ending with
  | none =>
    simp only [take, ends]
    rw [foldl_keeps Yard.channel fun yard requester => hand_channel none yard requester]
    exact deliver_channel (yard.turned log turn rest) turn.delivered
  | some ending => exact (take_of_stopping log rest yard ends).2.1

/-- The dispatcher leaves the board alone until it stops. -/
theorem take_board (log : Log σ) (turn : Turn Requester Nat) (rest : List Message)
    (yard : Yard σ) :
    (yard.take log turn rest).board =
      turn.ending.elim yard.board fun ending => (yard.board.publish ending).leave := by
  cases ends : turn.ending with
  | none =>
    simp only [take, ends]
    rw [foldl_keeps Yard.board fun yard requester => hand_board none yard requester]
    exact deliver_board (yard.turned log turn rest) turn.delivered
  | some ending => exact (take_of_stopping log rest yard ends).2.2

/-- **What the dispatcher's turn leaves as it is**: whatever answering and stopping do not change. -/
theorem take_view (view : Yard σ → α)
    (hands : ∀ job yard requester, view (yard.hand job requester) = view yard)
    (discards : ∀ yard message, view (yard.discard message) = view yard)
    (stops : ∀ (yard : Yard σ) board, view { yard with channel := [], board } = view yard)
    (log : Log σ) (turn : Turn Requester Nat) (rest : List Message) (yard : Yard σ) :
    view (yard.take log turn rest) = view (yard.turned log turn rest) := by
  have told : view (turn.released.foldl (hand none)
      ((yard.turned log turn rest).deliver turn.delivered)) = view (yard.turned log turn rest) := by
    rw [foldl_keeps view fun _ _ => hands _ _ _]
    exact foldl_keeps view (fun _ _ => hands _ _ _) _ _
  cases ends : turn.ending with
  | none =>
    simp only [take, ends]
    exact told
  | some ending =>
    simp only [take, ends, stop]
    rw [foldl_keeps view discards, stops]
    exact told

/-- Answering changes neither the log nor what those who ask for counters get. -/
theorem hand_asides (job : Option Job) (yard : Yard σ) (requester : Requester) :
    (yard.hand job requester).log = yard.log ∧ (yard.hand job requester).askers = yard.askers ∧
      (yard.hand job requester).answers = yard.answers := by
  rw [hand_frame]
  exact ⟨rfl, rfl, rfl⟩

theorem hand_callers_length (job : Option Job) (yard : Yard σ) (requester : Requester) :
    (yard.hand job requester).callers.length = yard.callers.length := by
  cases requester with
  | proxy number => rfl
  | caller number =>
    by_cases waits : yard.callers[number]? = some .waiting
    · simp only [hand, if_pos waits, List.length_set]
    · simp only [hand, if_neg waits]

theorem discard_callers_length (yard : Yard σ) (message : Message) :
    (yard.discard message).callers.length = yard.callers.length := by
  cases message with
  | request requester => exact hand_callers_length none yard requester
  | _ => rfl

/-- The dispatcher answers callers and brings none. -/
theorem take_callers_length (log : Log σ) (turn : Turn Requester Nat) (rest : List Message)
    (yard : Yard σ) : (yard.take log turn rest).callers.length = yard.callers.length :=
  take_view (fun yard => yard.callers.length) hand_callers_length discard_callers_length
    (fun _ _ => rfl) log turn rest yard

theorem hand_proxies_length (job : Option Job) (yard : Yard σ) (requester : Requester) :
    (yard.hand job requester).proxies.length = yard.proxies.length := by
  cases requester with
  | proxy number => exact List.length_modify _ _ _
  | caller number =>
    simp only [hand]
    split <;> rfl

theorem discard_proxies_length (yard : Yard σ) (message : Message) :
    (yard.discard message).proxies.length = yard.proxies.length := by
  cases message with
  | request requester => exact hand_proxies_length none yard requester
  | _ => rfl

/-- The dispatcher answers proxies and starts none. -/
theorem take_proxies_length (log : Log σ) (turn : Turn Requester Nat) (rest : List Message)
    (yard : Yard σ) : (yard.take log turn rest).proxies.length = yard.proxies.length :=
  take_view (fun yard => yard.proxies.length) hand_proxies_length discard_proxies_length
    (fun _ _ => rfl) log turn rest yard

theorem discard_asides (yard : Yard σ) (message : Message) :
    (yard.discard message).log = yard.log ∧ (yard.discard message).askers = yard.askers := by
  cases message with
  | request requester =>
    obtain ⟨log, askers, -⟩ := hand_asides none yard requester
    exact ⟨log, askers⟩
  | _ => exact ⟨rfl, rfl⟩

/-- The dispatcher writes what a turn gives to the log. -/
theorem take_log (log : Log σ) (turn : Turn Requester Nat) (rest : List Message) (yard : Yard σ) :
    (yard.take log turn rest).log = log.record yard.log turn.entry :=
  take_view Yard.log (fun job yard requester => (hand_asides job yard requester).1)
    (fun yard message => (discard_asides yard message).1) (fun _ _ => rfl) log turn rest yard

theorem take_askers (log : Log σ) (turn : Turn Requester Nat) (rest : List Message)
    (yard : Yard σ) : (yard.take log turn rest).askers = yard.askers :=
  take_view Yard.askers (fun job yard requester => (hand_asides job yard requester).2.1)
    (fun yard message => (discard_asides yard message).2) (fun _ _ => rfl) log turn rest yard

theorem take_dispatcher (log : Log σ) (turn : Turn Requester Nat) (rest : List Message)
    (yard : Yard σ) : (yard.take log turn rest).dispatcher = turn.dispatcher :=
  take_view Yard.dispatcher hand_dispatcher
    (fun yard message => (discard_frame yard message).1) (fun _ _ => rfl) log turn rest yard

/-- The dispatcher handles the oldest event as long as it has not stopped. -/
theorem process_eq_some {log : Log σ} {yard after : Yard σ}
    (possible : yard.process log = some after) :
    yard.isOpen = true ∧ ∃ event rest, yard.channel = event :: rest ∧
      after = yard.take log (yard.dispatcher.handle yard.presence event) rest := by
  unfold process at possible
  split at possible
  · cases possible
  · next isOpen =>
    split at possible
    · cases possible
    · next event rest channel =>
      cases possible
      exact ⟨by simpa using isOpen, event, rest, channel, rfl⟩

/-- The dispatcher is abandoned when it has handled all events and nobody is left. -/
theorem abandon_eq_some {log : Log σ} {yard after : Yard σ}
    (possible : yard.abandon log = some after) :
    yard.isOpen = true ∧ yard.channel = [] ∧ after = yard.take log yard.dispatcher.abandon [] := by
  unfold abandon at possible
  split at possible
  · next alone =>
    cases possible
    simp only [Bool.and_eq_true, List.isEmpty_iff] at alone
    exact ⟨alone.1.1, alone.1.2, rfl⟩
  · cases possible

/-- Whoever could still ask or report has ended when the dispatcher is abandoned. -/
theorem ended_of_abandon {log : Log σ} {yard after : Yard σ}
    (possible : yard.abandon log = some after) :
    ∀ proxy ∈ yard.proxies, proxy.phase.exit?.isSome = true := by
  unfold abandon at possible
  split at possible
  · next alone =>
    simp only [isAttended, Bool.and_eq_true, Bool.not_eq_true', Bool.or_eq_false_iff,
      List.any_eq_false] at alone
    intro proxy member
    exact Option.isSome_iff_ne_none.mpr (by simpa using alone.2.1.2 proxy member)
  · cases possible

/-! ### Clients -/

section Clients

variable {yard : Yard σ}

theorem submit_of_isOpen (setting : Setting σ) (command : String) (isOpen : yard.isOpen = true) :
    yard.submit setting command =
      (({ yard with issued := yard.issued + 1 } : Yard σ).push
        (.submit ⟨setting.identify (yard.issued + 1), command⟩),
          .ok (setting.identify (yard.issued + 1))) :=
  if_pos isOpen

theorem submit_of_shut (setting : Setting σ) (command : String) (shut : ¬ yard.isOpen = true) :
    yard.submit setting command = ({ yard with issued := yard.issued + 1 }, .error .closed) :=
  if_neg shut

theorem send_of_isOpen (message : Message) (isOpen : yard.isOpen = true) :
    yard.send message = (yard.push message, .ok ()) :=
  if_pos isOpen

theorem send_of_shut (message : Message) (shut : ¬ yard.isOpen = true) :
    yard.send message = (yard, .error .closed) :=
  if_neg shut

theorem askStats_of_isOpen (isOpen : yard.isOpen = true) :
    yard.askStats.1 =
      ({ yard with askers := yard.askers + 1 } : Yard σ).push (.stats yard.askers) :=
  if_pos isOpen

theorem askStats_of_shut (shut : ¬ yard.isOpen = true) :
    yard.askStats.1 = { yard with
      askers := yard.askers + 1
      answers := (yard.askers, yard.finalStats) :: yard.answers } :=
  if_neg shut

theorem request_of_isOpen (isOpen : yard.isOpen = true) :
    yard.request.1 = ({ yard with callers := yard.callers ++ [Caller.waiting] } : Yard σ).push
      (.request (.caller yard.callers.length)) :=
  if_pos isOpen

end Clients

/-! ### Proxies -/

/-- What a proxy does of its own in one step: the phase that it leaves, the messages that it sends,
and the phase that it goes to. -/
inductive Phase.Moves (number : Nat) (isOpen : Bool) : Phase → List Message → Phase → Prop
  | connects (success : Bool) : Moves number isOpen .connecting [] (.connected success)
  | asks (taken : isOpen = true) :
    Moves number isOpen .idle [.request (.proxy number)] .waiting
  | turnedAway (shut : isOpen = false) : Moves number isOpen .idle [] (.handed none)
  | collects (job : Option Job) : Moves number isOpen (.handed job) [] (.collected job)
  | returns (job : Job) (outcome : Outcome) :
    Moves number isOpen (.calling job) [] (.reporting (outcome.report job))
  | reports (report : Report) (taken : isOpen = true) :
    Moves number isOpen (.reporting report) [.report report] (.reported report true)
  | unheard (report : Report) (shut : isOpen = false) :
    Moves number isOpen (.reporting report) [] (.reported report false)

/-- A step that one proxy takes. -/
inductive ProxyStep (number : Nat) (yard after : Yard σ) : Prop
  | moves (proxy : Proxy) (messages : List Message) (phase : Phase)
    (found : yard.proxies[number]? = some proxy)
    (moves : proxy.phase.Moves number yard.isOpen messages phase)
    (same : after = { yard.setPhase number proxy phase with channel := yard.channel ++ messages })

/-- A move that sends nothing leaves the channel alone. -/
theorem ProxyStep.silent {number : Nat} {yard : Yard σ} {proxy : Proxy} {phase : Phase}
    (found : yard.proxies[number]? = some proxy)
    (moves : proxy.phase.Moves number yard.isOpen [] phase) :
    ProxyStep number yard (yard.setPhase number proxy phase) := by
  refine .moves proxy [] phase found moves ?_
  rw [List.append_nil]
  rfl

theorem connect_proxyStep {number : Nat} {success : Bool} {yard after : Yard σ}
    (possible : yard.connect number success = some after) : ProxyStep number yard after := by
  obtain ⟨proxy, found, rest⟩ := Option.bind_eq_some_iff.mp possible
  split at rest
  · next phase =>
    cases rest
    exact .silent found (phase ▸ .connects success)
  · cases rest

theorem callEnded_proxyStep {number : Nat} {outcome : Outcome} {yard after : Yard σ}
    (possible : yard.callEnded number outcome = some after) : ProxyStep number yard after := by
  obtain ⟨proxy, found, rest⟩ := Option.bind_eq_some_iff.mp possible
  split at rest
  · next job phase =>
    cases rest
    exact .silent found (phase ▸ .returns job outcome)
  · cases rest

theorem advanceProxy_proxyStep {number : Nat} {yard after : Yard σ}
    (possible : yard.advanceProxy number = some after) : ProxyStep number yard after := by
  obtain ⟨proxy, found, rest⟩ := Option.bind_eq_some_iff.mp possible
  split at rest
  · next phase =>
    split at rest
    · next isOpen =>
      cases rest
      exact .moves proxy _ _ found (phase ▸ .asks isOpen) rfl
    · next shut =>
      cases rest
      exact .silent found (phase ▸ .turnedAway (Bool.eq_false_iff.mpr shut))
  · next job phase =>
    cases rest
    exact .silent found (phase ▸ .collects job)
  · next report phase =>
    by_cases isOpen : yard.isOpen = true
    · simp only [Yard.report, send_of_isOpen _ isOpen, Option.some.injEq] at rest
      subst rest
      exact .moves proxy _ _ found (phase ▸ .reports report isOpen) rfl
    · simp only [Yard.report, send_of_shut _ isOpen, Option.some.injEq] at rest
      subst rest
      exact .silent found (phase ▸ .unheard report (Bool.eq_false_iff.mpr isOpen))
  · cases rest

/-! ### All steps -/

/-- The proxy whose step an action is. -/
def Action.proxy? : Action → Option Nat
  | .connect number _ | .callEnded number _ | .advanceProxy number => some number
  | _ => none

/-- Whether an action involves no one who works or asks for work, but for a proxy that it starts. -/
def Action.isBystanding : Action → Bool
  | .submit _ | .endOfInput | .report _ | .askStats | .startProxy _ _ | .addWorker _ _ | .hold
  | .release => true
  | _ => false

/-- The proxy that an action starts. -/
def newcomer? (yard : Yard σ) : Action → Option Proxy
  | .startProxy address limit => some ⟨address, limit, false, .connecting⟩
  | .addWorker address limit =>
    if (yard.addWorker address limit).2 then some ⟨address, limit, true, .connecting⟩ else none
  | _ => none

theorem newcomer_connecting {yard : Yard σ} {action : Action} {proxy : Proxy}
    (starts : yard.newcomer? action = some proxy) : proxy.phase = .connecting := by
  cases action with
  | startProxy address limit =>
    cases starts
    rfl
  | addWorker address limit =>
    obtain ⟨-, same⟩ := Option.ite_none_right_eq_some.mp starts
    cases same
    rfl
  | _ => cases starts

/-- A proxy starts no other. -/
theorem newcomer_of_proxy {yard : Yard σ} {action : Action} {number : Nat}
    (acts : action.proxy? = some number) : yard.newcomer? action = none := by
  cases action <;> first | rfl | cases acts

/-- A worker is refused, or it is added and gets a proxy. -/
theorem addWorker_cases (address : String) (limit : Option Nat) (yard : Yard σ) :
    yard.addWorker address limit = (yard, false) ∨
      ∃ registry, yard.addWorker address limit =
        ({ yard with
            registry
            proxies := yard.proxies ++ [⟨address, limit, true, .connecting⟩]
            unjoined := yard.unjoined ++ [yard.proxies.length] }, true) := by
  unfold addWorker
  split
  · exact .inl rfl
  · split
    · exact .inl rfl
    · exact .inr ⟨_, rfl⟩

theorem addWorker_people (address : String) (limit : Option Nat) (yard : Yard σ) :
    (yard.addWorker address limit).1.callers = yard.callers ∧
      (yard.addWorker address limit).1.proxies =
        yard.proxies ++ (yard.newcomer? (.addWorker address limit)).toList := by
  rcases addWorker_cases address limit yard with same | ⟨registry, same⟩
  · exact ⟨by rw [same], by simp [newcomer?, same]⟩
  · exact ⟨by rw [same], by simp [newcomer?, same]⟩

/-- Whom a step involves. -/
inductive Involves (setting : Setting σ) (yard after : Yard σ) : Action → Prop
  | nobody {action : Action} (bystanding : action.isBystanding = true)
    (proxies : after.proxies = yard.proxies ++ (yard.newcomer? action).toList)
    (callers : after.callers = yard.callers) : Involves setting yard after action
  | proxy {action : Action} {number : Nat} (acts : action.proxy? = some number)
    (step : ProxyStep number yard after) : Involves setting yard after action
  | request (same : after = yard.request.1) : Involves setting yard after .request
  | withdraw {caller : Nat} (same : after = yard.withdraw caller) :
    Involves setting yard after (.withdraw caller)
  | process (possible : yard.process setting.log = some after) : Involves setting yard after .process
  | abandon (possible : yard.abandon setting.log = some after) : Involves setting yard after .abandon

/-- **Each step involves the dispatcher, one proxy, one caller or nobody**, but for a new proxy. -/
theorem act_involves {setting : Setting σ} {yard after : Yard σ} {action : Action}
    (possible : yard.act setting action = some after) : Involves setting yard after action := by
  have nobodyNew : yard.proxies = yard.proxies ++ [] := (List.append_nil _).symm
  cases action with
  | process => exact .process possible
  | abandon => exact .abandon possible
  | connect number success => exact .proxy rfl (connect_proxyStep possible)
  | callEnded number outcome => exact .proxy rfl (callEnded_proxyStep possible)
  | advanceProxy number => exact .proxy rfl (advanceProxy_proxyStep possible)
  | request => exact .request (Option.some.inj possible).symm
  | withdraw caller => exact .withdraw (Option.some.inj possible).symm
  | hold | release | startProxy address limit =>
    cases possible
    exact .nobody rfl (by first | exact nobodyNew | rfl) rfl
  | addWorker address limit =>
    cases possible
    obtain ⟨callers, proxies⟩ := addWorker_people address limit yard
    exact .nobody rfl proxies callers
  | submit command =>
    cases possible
    by_cases isOpen : yard.isOpen = true
    · rw [submit_of_isOpen setting command isOpen]
      exact .nobody rfl nobodyNew rfl
    · rw [submit_of_shut setting command isOpen]
      exact .nobody rfl nobodyNew rfl
  | endOfInput | report report =>
    cases possible
    by_cases isOpen : yard.isOpen = true
    · simp only [Yard.endOfInput, Yard.report, send_of_isOpen _ isOpen]
      exact .nobody rfl nobodyNew rfl
    · simp only [Yard.endOfInput, Yard.report, send_of_shut _ isOpen]
      exact .nobody rfl nobodyNew rfl
  | askStats =>
    cases possible
    by_cases isOpen : yard.isOpen = true
    · rw [askStats_of_isOpen isOpen]
      exact .nobody rfl nobodyNew rfl
    · rw [askStats_of_shut isOpen]
      exact .nobody rfl nobodyNew rfl

/-- Each step brings at most the proxy that it starts. -/
theorem act_proxies_length {setting : Setting σ} {yard after : Yard σ} {action : Action}
    (possible : yard.act setting action = some after) :
    after.proxies.length = yard.proxies.length + (yard.newcomer? action).toList.length := by
  cases act_involves possible with
  | nobody bystanding proxies callers => rw [proxies, List.length_append]
  | proxy acts step =>
    obtain ⟨proxy, messages, phase, found, moves, rfl⟩ := step
    rw [newcomer_of_proxy acts]
    exact List.length_set
  | request same =>
    subst same
    simp only [Yard.request]
    split <;> rfl
  | withdraw same =>
    subst same
    simp only [Yard.withdraw]
    split <;> rfl
  | process possible =>
    obtain ⟨-, event, rest, -, rfl⟩ := process_eq_some possible
    exact take_proxies_length setting.log _ rest yard
  | abandon possible =>
    obtain ⟨-, -, rfl⟩ := abandon_eq_some possible
    exact take_proxies_length setting.log _ [] yard

/-- A proxy that was not there before a step is connecting behind it. -/
theorem connecting_of_new {setting : Setting σ} {yard after : Yard σ} {action : Action}
    (possible : yard.act setting action = some after) {number : Nat} {proxy : Proxy}
    (beyond : yard.proxies.length ≤ number) (found : after.proxies[number]? = some proxy) :
    proxy.phase = .connecting := by
  obtain ⟨inside, -⟩ := List.getElem?_eq_some_iff.mp found
  have older (nobodyNew : yard.newcomer? action = none) : proxy.phase = .connecting := by
    have length := act_proxies_length possible
    rw [nobodyNew, Option.toList_none, List.length_nil, Nat.add_zero] at length
    exact absurd beyond (Nat.not_le_of_lt (length ▸ inside))
  cases act_involves possible with
  | nobody bystanding proxies callers =>
    rw [proxies, List.getElem?_append_right beyond] at found
    exact newcomer_connecting (Option.mem_toList.mp (List.mem_of_getElem? found))
  | proxy acts => exact older (newcomer_of_proxy acts)
  | request | withdraw | process | abandon => exact older rfl

end Workyard.Yard
