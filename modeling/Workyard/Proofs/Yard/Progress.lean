/-
**A yard with a live proxy never gets stuck.**

A yard is quiet if nothing goes on in it unless a client does something: the channel is empty, and
each proxy waits for a job or has ended. As long as one proxy is connected, a quiet yard has no
unfinished work, and its input has not ended.

* `quiet_iff`: a yard is quiet exactly if neither its dispatcher nor a proxy can take a step;
* `settled_of_quiet`: what is so in a quiet yard with a live proxy.
-/

import Workyard.Proofs.Yard.Custody

namespace Workyard.Yard

open Dispatch
open scoped List

variable {σ : Type} {setting : Setting σ} {kept : σ} {steps : List (Step σ)} {yard : Yard σ}

/-! ### Quiet yards -/

namespace Phase

/-- Whether a proxy does nothing more of its own: it waits for a job or has ended. -/
def isResting : Phase → Bool
  | .waiting | .ended _ => true
  | _ => false

/-- Whether a proxy has reached its worker and has not ended. -/
def isConnected : Phase → Bool
  | .connecting | .ended _ => false
  | _ => true

/-- A connected proxy that does nothing more of its own waits for a job. -/
theorem waiting_of_resting {phase : Phase} (connected : phase.isConnected = true)
    (resting : phase.isResting = true) : phase = .waiting := by
  cases phase with
  | waiting => rfl
  | connecting | ended exit => cases connected
  | idle | handed job | calling job | reporting report => cases resting

/-- A proxy holds no job while it waits for one and after it has ended. -/
theorem held_of_resting {phase : Phase} (resting : phase.isResting = true) :
    phase.held? = none := by
  cases phase with
  | waiting | ended exit => rfl
  | connecting | idle | handed job | calling job | reporting report => cases resting

/-- A step of a proxy is one of a proxy that does not rest. -/
theorem Moves.not_resting {number : Nat} {isOpen : Bool} {phase next : Phase}
    {messages : List Message} (moves : phase.Moves number isOpen messages next) :
    phase.isResting = false := by
  cases moves <;> rfl

end Phase

/-- **Nothing goes on in a yard** unless a client does something. -/
structure Quiet (yard : Yard σ) : Prop where
  /-- No event is on its way. -/
  channel : yard.channel = []
  /-- No proxy connects, is about to ask, looks at what it was given, calls its worker or is about to
  report. -/
  proxies : ∀ proxy ∈ yard.proxies, proxy.phase.isResting = true

/-- Whether an action is a step of the dispatcher or of a proxy that it may take at any time. -/
def Action.isOnward : Action → Bool
  | .process | .connect _ _ | .callEnded _ _ | .advanceProxy _ => true
  | _ => false

/-- A proxy that does not rest can take a step. -/
theorem onward_of_not_resting (setting : Setting σ) {number : Nat} {proxy : Proxy}
    (found : yard.proxies[number]? = some proxy) (active : ¬ proxy.phase.isResting = true) :
    ∃ action : Action, action.isOnward = true ∧ (yard.act setting action).isSome = true := by
  cases phase : proxy.phase with
  | connecting => exact ⟨.connect number true, rfl, by simp [act, connect, found, phase]⟩
  | calling job => exact ⟨.callEnded number (.ok ()), rfl, by simp [act, callEnded, found, phase]⟩
  | idle =>
    refine ⟨.advanceProxy number, rfl, ?_⟩
    by_cases isOpen : yard.isOpen = true <;> simp [act, advanceProxy, found, phase, isOpen]
  | handed job | reporting report =>
    exact ⟨.advanceProxy number, rfl, by simp [act, advanceProxy, found, phase]⟩
  | waiting | ended exit => exact absurd (by rw [phase]; rfl) active

/-- **A yard whose dispatcher takes events is quiet exactly if neither the dispatcher nor a proxy can
take a step.** -/
theorem quiet_iff (setting : Setting σ) (isOpen : yard.isOpen = true) :
    Quiet yard ↔
      ∀ action : Action, action.isOnward = true → yard.act setting action = none := by
  constructor
  · intro quiet action onward
    rw [Option.eq_none_iff_forall_ne_some]
    intro after possible
    cases act_involves possible with
    | proxy acts step =>
      obtain ⟨proxy, messages, phase, found, moves, -⟩ := step
      have resting := quiet.proxies proxy (List.mem_of_getElem? found)
      rw [moves.not_resting] at resting
      cases resting
    | process possible =>
      obtain ⟨-, event, rest, channel, -⟩ := process_eq_some possible
      rw [quiet.channel] at channel
      cases channel
    | nobody bystanding =>
      cases action with
      | process | connect number success | callEnded number outcome | advanceProxy number =>
        cases bystanding
      | _ => cases onward
    | request | withdraw | abandon => cases onward
  · intro stuck
    refine ⟨?_, fun proxy member => ?_⟩
    · by_contra pending
      obtain ⟨event, rest, channel⟩ := List.exists_cons_of_ne_nil pending
      have possible := stuck .process rfl
      simp [act, process, isOpen, channel] at possible
    · by_contra active
      obtain ⟨number, found⟩ := List.getElem?_of_mem member
      obtain ⟨action, onward, possible⟩ := onward_of_not_resting setting found active
      rw [stuck action onward] at possible
      cases possible

/-- If a yard is not quiet, the dispatcher or a proxy can take a step. -/
theorem onward_of_not_quiet (setting : Setting σ) (isOpen : yard.isOpen = true)
    (active : ¬ Quiet yard) :
    ∃ action : Action, action.isOnward = true ∧ (yard.act setting action).isSome = true := by
  by_contra stuck
  refine active ((quiet_iff setting isOpen).mpr fun action onward => ?_)
  rw [Option.eq_none_iff_forall_ne_some]
  intro after possible
  exact stuck ⟨action, onward, by rw [possible]; rfl⟩

/-! ### No work is left unfinished -/

/-- When nothing goes on, a proxy that is connected waits, and the dispatcher knows it. -/
theorem Orderly.waiting_ne_nil (orderly : Orderly steps yard) (quiet : Quiet yard)
    (connected : ∃ proxy ∈ yard.proxies, proxy.phase.isConnected = true) :
    yard.dispatcher.waiting ≠ [] := by
  obtain ⟨proxy, member, connected⟩ := connected
  obtain ⟨number, found⟩ := List.getElem?_of_mem member
  have waiting := Phase.waiting_of_resting connected (quiet.proxies proxy member)
  have asked := (orderly.asked (.proxy number)).mpr
    (present_iff.mpr (.inl ⟨number, proxy, rfl, found, waiting⟩))
  rw [requests, quiet.channel, List.filterMap_nil, List.append_nil] at asked
  exact List.ne_nil_of_mem asked

/-- When nothing goes on, nobody holds a job and no report is on its way. -/
theorem Orderly.inFlight_eq_nil (orderly : Orderly steps yard) (quiet : Quiet yard) :
    yard.dispatcher.ledger.inFlight = [] := by
  have held : yard.held = [] := List.filterMap_eq_nil_iff.mpr fun proxy member =>
    Phase.held_of_resting (quiet.proxies proxy member)
  have custody := orderly.custody
  rw [Yard.custody, held, carried, quiet.channel] at custody
  exact custody.eq_nil

/-- **A yard with a live proxy never gets stuck.** If nothing goes on in a yard in which only proxies
work and one of them is connected, no job is queued, handed out or outstanding, and the input has not
ended. So as long as there is work to do, or the input has ended, the dispatcher or a proxy can take
a step. -/
theorem settled_of_quiet (run : Run setting kept steps yard)
    (proxied : ∀ step ∈ steps, step.action.isProxied = true)
    (distinct : ((accepted setting steps).map Job.id).Nodup) (isOpen : yard.isOpen = true)
    (connected : ∃ proxy ∈ yard.proxies, proxy.phase.isConnected = true) :
    (Quiet yard →
      yard.dispatcher.ledger.queue = [] ∧ yard.dispatcher.ledger.inFlight = [] ∧
        yard.dispatcher.ledger.outstanding = 0 ∧ yard.dispatcher.ledger.gotEof = false ∧
        .endOfInput ∉ handled steps) ∧
    (yard.dispatcher.ledger.queue ≠ [] ∨ yard.dispatcher.ledger.inFlight ≠ [] ∨
        yard.dispatcher.ledger.outstanding ≠ 0 ∨ .endOfInput ∈ handled steps →
      ∃ action : Action, action.isOnward = true ∧ (yard.act setting action).isSome = true) := by
  have settled : Quiet yard →
      yard.dispatcher.ledger.queue = [] ∧ yard.dispatcher.ledger.inFlight = [] ∧
        yard.dispatcher.ledger.outstanding = 0 ∧ yard.dispatcher.ledger.gotEof = false ∧
        .endOfInput ∉ handled steps := by
    intro quiet
    obtain ⟨-, course, dispatcher, -⟩ := (run_follows run).of_isOpen isOpen
    have distinctHandled := run_distinct run distinct
    have orderly := (run_orderly run proxied distinctHandled).1 isOpen
    have queue : yard.dispatcher.ledger.queue = [] := by
      have exhausted := course_exhausts (occasions steps) course
      rw [dispatcher] at exhausted
      exact exhausted.resolve_right (orderly.waiting_ne_nil quiet connected)
    have inFlight := orderly.inFlight_eq_nil quiet
    have outstanding : yard.dispatcher.ledger.outstanding = 0 := by
      have held := course_held (occasions steps) course distinctHandled
      rw [dispatcher, Ledger.unresolved, queue, inFlight] at held
      exact held.symm
    have gotEof : yard.dispatcher.ledger.gotEof = false := by
      have incomplete := course_incomplete (occasions steps) course
      rw [dispatcher] at incomplete
      simpa [Ledger.isComplete, outstanding] using incomplete
    have noted := (course_accounts (occasions steps) course).gotEof
    rw [dispatcher, gotEof] at noted
    exact ⟨queue, inFlight, outstanding, gotEof, fun ended => Bool.false_ne_true (noted.mpr ended)⟩
  refine ⟨settled, fun unfinished => onward_of_not_quiet setting isOpen fun quiet => ?_⟩
  obtain ⟨queue, inFlight, outstanding, -, notEnded⟩ := settled quiet
  rcases unfinished with queued | handedOut | due | ended
  · exact queued queue
  · exact handedOut inFlight
  · exact due outstanding
  · exact notEnded ended

/-- A job is sent back by a proxy that loses its worker, and done by another one, which then waits for
more. -/
def secondAttempt : List Action :=
  [.startProxy "a" none, .startProxy "b" none, .submit "true", .connect 0 true, .advanceProxy 0,
    .process, .process, .connect 1 true, .advanceProxy 1, .advanceProxy 0,
    .callEnded 0 (.error (.transport "lost")), .process, .advanceProxy 0, .process, .advanceProxy 1,
    .callEnded 1 (.ok ()), .advanceProxy 1, .advanceProxy 1, .process, .process]

/-- The run in which it is. -/
def secondAttemptRun : List (Step Unit) × Yard Unit :=
  (play plain secondAttempt [] { log := () }).get (by decide +kernel)

theorem settled_of_quiet_secondAttempt :
    Run plain () secondAttemptRun.1 secondAttemptRun.2 ∧
      (∀ step ∈ secondAttemptRun.1, step.action.isProxied = true) ∧
      ((accepted plain secondAttemptRun.1).map Job.id).Nodup ∧ secondAttemptRun.2.isOpen = true ∧
      (∃ proxy ∈ secondAttemptRun.2.proxies, proxy.phase.isConnected = true) ∧
      Quiet secondAttemptRun.2 ∧ secondAttemptRun.2.dispatcher.ledger.reposted = 1 ∧
      secondAttemptRun.2.dispatcher.ledger.outstanding = 0 := by
  have played : play plain secondAttempt [] { log := () } = some secondAttemptRun :=
    (Option.some_get _).symm
  have run : Run plain () secondAttemptRun.1 secondAttemptRun.2 := run_of_play .fresh played
  have proxied : ∀ step ∈ secondAttemptRun.1, step.action.isProxied = true := by decide +kernel
  have distinct : ((accepted plain secondAttemptRun.1).map Job.id).Nodup := by decide +kernel
  have isOpen : secondAttemptRun.2.isOpen = true := by decide +kernel
  have connected : ∃ proxy ∈ secondAttemptRun.2.proxies, proxy.phase.isConnected = true := by
    decide +kernel
  have quiet : Quiet secondAttemptRun.2 := ⟨by decide +kernel, by decide +kernel⟩
  obtain ⟨-, -, settled, -, -⟩ := (settled_of_quiet run proxied distinct isOpen connected).1 quiet
  exact ⟨run, proxied, distinct, isOpen, connected, quiet, by decide +kernel, settled⟩

end Workyard.Yard
