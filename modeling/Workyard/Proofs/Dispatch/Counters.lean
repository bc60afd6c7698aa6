/-
**Counters do not go below zero.**

Nothing keeps identifiers from repeating. A job that is handed out then takes the mark of another one of
its identifier, and a job that comes back because its requester has vanished can take along the mark of
one that is still handed out. So less can be held than is outstanding, but never more; and since a report
is accepted only on a job that is held, what it takes off is there. This is so at every moment, also while
a job is on its way.

* `pairLedgers`, `Dispatcher.ledgers`: the ledgers that a dispatcher has one after the other;
* `Course.Reaches`: all that a ledger can be;
* `reaches_accounts`: every one of them accounts for the events handled;
* `counters_cover`: what is held, what is counted, and what reports and closing can rely on.
-/

import Workyard.Proofs.Dispatch.Closing

namespace Workyard.Dispatch

variable {ρ κ : Type}

/-! ### One ledger after the other -/

/-- The ledgers that a dispatcher has while it pairs: the first one, and one for each job that it takes
from the queue or gets back. -/
def pairLedgers (presence : ρ → Presence) (ledger : Ledger) : List ρ → List Ledger
  | [] => [ledger]
  | requester :: rest => match presence requester with
    | .gone => pairLedgers presence ledger rest
    | .present => match ledger.takeNext with
      | none => [ledger]
      | some (_, next) => ledger :: pairLedgers presence next rest
    | .vanishing => match ledger.takeNext with
      | none => [ledger]
      | some (job, next) =>
        ledger :: next :: pairLedgers presence (next.returnUndelivered job) rest

/-- Whether the dispatcher looks for jobs to hand out after this event. -/
def Event.isPairing : Event ρ κ → Bool
  | .submit _ | .request _ | .report _ => true
  | .endOfInput | .stats _ => false

/-- The ledgers that a dispatcher has while it handles an event, from the moment when it has looked at
it; a refused event leaves the ledger as it is. -/
def Dispatcher.ledgers (presence : ρ → Presence) (dispatcher : Dispatcher ρ) (event : Event ρ κ) :
    List Ledger :=
  match dispatcher.ledger.react event with
  | .error _ => [dispatcher.ledger]
  | .ok ledger =>
    if event.isDecisive && ledger.isComplete then [ledger, ledger.close]
    else if event.isPairing then
      pairLedgers presence ledger (dispatcher.waiting ++ event.requester?.toList)
    else [ledger]

/-- Pairing ends with the last of its ledgers. -/
theorem getLast?_pairLedgers (presence : ρ → Presence) (ledger : Ledger) (waiting : List ρ) :
    (pairLedgers presence ledger waiting).getLast? =
      some (pair presence ledger waiting).dispatcher.ledger := by
  induction waiting generalizing ledger with
  | nil => rfl
  | cons requester rest hypothesis =>
    cases here : presence requester with
    | gone => simp only [pairLedgers, pair, here, hypothesis]
    | present =>
      cases took : ledger.takeNext with
      | none => simp only [pairLedgers, pair, here, took, List.getLast?_singleton]
      | some taken =>
        simp only [pairLedgers, pair, here, took, List.getLast?_cons, hypothesis, Option.getD_some]
    | vanishing =>
      cases took : ledger.takeNext with
      | none => simp only [pairLedgers, pair, here, took, List.getLast?_singleton]
      | some taken =>
        simp only [pairLedgers, pair, here, took, List.getLast?_cons, hypothesis, Option.getD_some]

/-- Handling an event ends with the last of its ledgers. -/
theorem getLast?_ledgers (presence : ρ → Presence) (dispatcher : Dispatcher ρ) (event : Event ρ κ) :
    (dispatcher.ledgers presence event).getLast? =
      some (dispatcher.handle presence event).dispatcher.ledger := by
  cases event with
  | submit job =>
    exact getLast?_pairLedgers presence (dispatcher.ledger.post job) (dispatcher.waiting ++ [])
      |>.trans (by rw [List.append_nil]; rfl)
  | request requester =>
    exact getLast?_pairLedgers presence dispatcher.ledger (dispatcher.waiting ++ [requester])
  | report report =>
    unfold Dispatcher.ledgers
    cases applied : dispatcher.ledger.apply report with
    | error error =>
      rw [handle_report_refused applied]
      simp only [Ledger.react, applied]
      rfl
    | ok ledger =>
      rw [handle_report_accepted applied]
      simp only [Ledger.react, applied, Event.isDecisive, Bool.true_and]
      by_cases complete : ledger.isComplete = true
      · rw [if_pos complete, if_pos complete]
        rfl
      · rw [if_neg complete, if_neg complete]
        simp only [Event.isPairing, Event.requester?, if_true]
        rw [getLast?_pairLedgers, Option.toList_none, List.append_nil]
        rfl
  | endOfInput =>
    rw [handle_endOfInput]
    unfold Dispatcher.ledgers
    simp only [Ledger.react, Event.isDecisive, Bool.true_and]
    by_cases complete : dispatcher.ledger.endOfInput.isComplete = true
    · rw [if_pos complete, if_pos complete]
      rfl
    · rw [if_neg complete, if_neg complete]
      rfl
  | stats asker => rfl

/-- All that the ledger of a dispatcher can be once it has got these occasions, while it handles the last
one or after that. -/
inductive Course.Reaches : List (Occasion ρ κ) → Ledger → Prop where
  /-- Before the first event. -/
  | fresh : Reaches [] {}
  /-- While the last event is handled, and then until the next one. -/
  | handling {before : List (Occasion ρ κ)} {last : Occasion ρ κ} {ledger : Ledger}
    (going : (of before).ending = none)
    (passed : ledger ∈ (of before).dispatcher.ledgers last.presence last.event) :
    Reaches (before ++ [last]) ledger
  /-- Once nobody is left to send events. -/
  | deserted {occasions : List (Occasion ρ κ)} (going : (of occasions).ending = none) :
    Reaches occasions (of occasions).desert.dispatcher.ledger

/-- The ledger of a dispatcher that goes on, or that the last occasion has stopped, is reached. -/
theorem Course.reaches_of_append {before : List (Occasion ρ κ)} (going : (of before).ending = none)
    (last : Occasion ρ κ) :
    Reaches (before ++ [last]) (of (before ++ [last])).dispatcher.ledger := by
  rw [of_append_singleton, extend_of_going going]
  exact .handling going (List.mem_of_getLast? (getLast?_ledgers last.presence _ last.event))

/-! ### Accounts at every moment -/

namespace Accounts

variable {events : List (Event ρ κ)} {event : Event ρ κ} {ledger next : Ledger} {job : Job}

/-- Taking a job keeps the accounts, whatever mark is replaced. -/
theorem takeNext (accounts : Accounts events ledger) (took : ledger.takeNext = some (job, next)) :
    Accounts events next := by
  refine accounts.shrink (Ledger.takeNext_unresolved_subperm took) ?_
  obtain ⟨rest, queue, rfl⟩ := Ledger.takeNext_eq_some took
  rfl

/-- Giving back the job just taken keeps the accounts, whatever mark is lost with it. -/
theorem giveBack (accounts : Accounts events ledger) (took : ledger.takeNext = some (job, next)) :
    Accounts events (next.returnUndelivered job) := by
  rw [Ledger.returnUndelivered_takeNext took]
  exact accounts.shrink (ledger.unresolved_without_subperm job.id) rfl

theorem close (accounts : Accounts events ledger) : Accounts events ledger.close :=
  ⟨accounts.kept, accounts.balance, accounts.completed, accounts.reposted, accounts.gotEof⟩

/-- Every ledger while jobs are handed out keeps the accounts. -/
theorem pairLedgers {presence : ρ → Presence} {waiting : List ρ} {passed : Ledger}
    (accounts : Accounts events ledger)
    (member : passed ∈ Dispatch.pairLedgers presence ledger waiting) : Accounts events passed := by
  induction waiting generalizing ledger with
  | nil =>
    rw [List.mem_singleton.mp member]
    exact accounts
  | cons requester rest hypothesis =>
    unfold Dispatch.pairLedgers at member
    split at member
    · exact hypothesis accounts member
    · split at member
      · rw [List.mem_singleton.mp member]
        exact accounts
      · next job next took =>
        rcases List.mem_cons.mp member with rfl | member
        · exact accounts
        · exact hypothesis (accounts.takeNext took) member
    · split at member
      · rw [List.mem_singleton.mp member]
        exact accounts
      · next job next took =>
        rcases List.mem_cons.mp member with rfl | member
        · exact accounts
        · rcases List.mem_cons.mp member with rfl | member
          · exact accounts.takeNext took
          · exact hypothesis (accounts.giveBack took) member

/-- Every ledger while an event is handled that is not refused keeps the accounts. -/
theorem ledgers {presence : ρ → Presence} {dispatcher : Dispatcher ρ} {passed : Ledger}
    (accounts : Accounts events dispatcher.ledger)
    (reacted : dispatcher.ledger.react event = .ok next)
    (member : passed ∈ dispatcher.ledgers presence event) : Accounts (events ++ [event]) passed := by
  have after := accounts.react reacted
  unfold Dispatcher.ledgers at member
  simp only [reacted] at member
  split at member
  · rcases List.mem_cons.mp member with rfl | member
    · exact after
    · rw [List.mem_singleton.mp member]
      exact after.close
  · split at member
    · exact after.pairLedgers member
    · rw [List.mem_singleton.mp member]
      exact after

/-- What a report takes off is there. -/
theorem apply_exact (accounts : Accounts events ledger) {report : Report}
    (applied : ledger.apply report = .ok next) :
    next.outstanding + report.resolved?.toList.length = ledger.outstanding := by
  have takes := Ledger.takes_of_apply applied
  have held := List.length_pos_of_mem takes.present
  have room := accounts.unresolved_le
  have atMostOne : report.resolved?.toList.length ≤ 1 := Option.length_toList_le
  simp only [Ledger.unresolved, List.length_append, List.length_map] at held room
  rw [takes.outstanding]
  omega

end Accounts

/-- An event that is refused submits nothing. -/
theorem submitted_of_refused {event : Event ρ κ} {ledger : Ledger} {error : DispatchError}
    (refused : ledger.react event = .error error) : submitted [event] = [] := by
  cases event with
  | submit job => cases refused
  | _ => rfl

/-- **Whatever a ledger can be, it accounts for the events that were not refused**, and these submit all
that was submitted. -/
theorem reaches_accounts {occasions : List (Occasion ρ κ)} {ledger : Ledger}
    (reaches : Course.Reaches occasions ledger) :
    ∃ events : List (Event ρ κ), Accounts events ledger ∧
      submitted events = submitted (occasions.map Occasion.event) := by
  cases reaches with
  | fresh => exact ⟨[], course_accounts [] rfl, rfl⟩
  | @handling before last ledger going passed =>
    have accounts := course_accounts before going
    rw [List.map_append, List.map_singleton]
    cases reacted : (Course.of before).dispatcher.ledger.react last.event with
    | ok next => exact ⟨_, accounts.ledgers reacted passed, rfl⟩
    | error error =>
      have unchanged : ledger = (Course.of before).dispatcher.ledger := by
        simpa [Dispatcher.ledgers, reacted] using passed
      refine ⟨before.map Occasion.event, unchanged ▸ accounts, ?_⟩
      rw [submitted_append, submitted_of_refused reacted, List.append_nil]
  | deserted going =>
    have left : (Course.of occasions).desert.dispatcher.ledger =
        (Course.of occasions).dispatcher.ledger.close := by
      rw [Course.desert, going]
      rfl
    exact ⟨_, left ▸ (course_accounts occasions going).close, rfl⟩

/-- **The counters cover what is held**, whatever identifiers are given out, whoever vanishes and
whatever is reported. At every moment the jobs that wait or are handed out are at most as many as are
outstanding; those resolved and those outstanding are together as many as were submitted, so that none of
these counters is too large for sixty-four bits as long as no more are submitted; and a report that is
accepted takes off the outstanding ones exactly what it resolves. A dispatcher that closes holds no job. -/
theorem counters_cover {occasions : List (Occasion ρ κ)} {ledger : Ledger}
    (reaches : Course.Reaches occasions ledger)
    (few : (submitted (occasions.map Occasion.event)).length < UInt64.size) :
    ledger.queue.length + ledger.inFlight.length ≤ ledger.outstanding ∧
      ledger.tally.ok + ledger.tally.failed + ledger.outstanding =
        (submitted (occasions.map Occasion.event)).length ∧
      (ledger.tally.ok < UInt64.size ∧ ledger.tally.failed < UInt64.size ∧
        ledger.outstanding < UInt64.size) ∧
      (∀ report next, ledger.apply report = .ok next →
        next.outstanding + report.resolved?.toList.length = ledger.outstanding) ∧
      ∀ tally, (Course.of occasions).ending = some (.closed tally) →
        (Course.of occasions).dispatcher.ledger.queue = [] ∧
          (Course.of occasions).dispatcher.ledger.inFlight = [] := by
  obtain ⟨events, accounts, same⟩ := reaches_accounts reaches
  have balance : ledger.tally.ok + ledger.tally.failed + ledger.outstanding =
      (submitted (occasions.map Occasion.event)).length := by
    have completed := accounts.completed
    have outstanding := accounts.balance
    rw [same] at outstanding
    rw [Tally.completed] at completed
    omega
  refine ⟨?_, balance, ⟨by omega, by omega, by omega⟩,
    fun report next applied => accounts.apply_exact applied, fun tally closed => ?_⟩
  · simpa [Ledger.unresolved] using accounts.unresolved_le
  · obtain ⟨before, last, later, rfl, going, stops⟩ := Course.stopped_split.mp closed
    have closes := closesAt_of_closed going stops
    rw [Course.of_append_cons_of_stops going (by simp [stops])]
    exact ⟨closes.queue, closes.inFlight⟩

/-- Occasions on which an identifier is given out twice: one of the jobs is handed out, and the other is
on its way to a requester that vanishes. -/
def repetition : List (Occasion Nat Nat) :=
  [⟨.submit ⟨"job-1", "true"⟩, fun _ => .present⟩, ⟨.submit ⟨"job-1", "false"⟩, fun _ => .present⟩,
    ⟨.request 0, fun _ => .present⟩, ⟨.request 1, fun _ => .vanishing⟩]

/-- The job that comes back takes along the mark of the other one: less is held than is outstanding. -/
theorem counters_cover_repetition :
    (Course.of repetition).dispatcher.ledger.queue = [⟨"job-1", "true"⟩] ∧
      (Course.of repetition).dispatcher.ledger.inFlight = [] ∧
      1 + 0 ≤ (Course.of repetition).dispatcher.ledger.outstanding ∧
      0 + 0 + (Course.of repetition).dispatcher.ledger.outstanding = 2 := by
  have going : (Course.of (repetition.take 3)).ending = none := by decide +kernel
  have reaches : Course.Reaches repetition (Course.of repetition).dispatcher.ledger :=
    Course.reaches_of_append going ⟨.request 1, fun _ => .vanishing⟩
  have queue : (Course.of repetition).dispatcher.ledger.queue = [⟨"job-1", "true"⟩] := by
    decide +kernel
  have inFlight : (Course.of repetition).dispatcher.ledger.inFlight = [] := by decide +kernel
  have tally : (Course.of repetition).dispatcher.ledger.tally = {} := by decide +kernel
  obtain ⟨covered, balance, -⟩ := counters_cover reaches (by decide +kernel)
  rw [queue, inFlight] at covered
  rw [tally] at balance
  exact ⟨queue, inFlight, covered, balance⟩

end Workyard.Dispatch
