/-
**The log of a yard and everything else do not interfere.**

Leaving the log out of a yard commutes with every step: whichever log there is, the same steps are
possible, and they make the same of everything else. The log in turn gets the results of the reports
that the dispatcher accepts, as many as the counters say.

* `unlogged`, `act_unlogged`, `play_unlogged`: a yard without its log takes the same steps;
* `Logged`, `run_logged`: what the log of a yard has been given and what is counted;
* `logs_apart`: both together, for any two logs.
-/

import Workyard.Proofs.Dispatch.Journal
import Workyard.Proofs.Yard.Outcomes

namespace Workyard.Yard

open Dispatch

variable {σ τ : Type} {setting : Setting σ} {kept : σ} {steps : List (Step σ)}
  {yard after : Yard σ} {action : Action}

/-! ### Without the log -/

/-- A yard without its log. -/
def unlogged (yard : Yard σ) : Yard Unit := { yard with log := () }

/-- A setting without its log. -/
def Setting.unlogged (setting : Setting σ) : Setting Unit := ⟨.nothing, setting.identify⟩

/-- A step without the log. -/
def Step.unlogged (step : Step σ) : Step Unit := ⟨step.before.unlogged, step.action, step.after.unlogged⟩

section Fields

variable (yard : Yard σ)

@[simp]
theorem unlogged_isOpen : yard.unlogged.isOpen = yard.isOpen := rfl

@[simp]
theorem unlogged_channel : yard.unlogged.channel = yard.channel := rfl

@[simp]
theorem unlogged_dispatcher : yard.unlogged.dispatcher = yard.dispatcher := rfl

@[simp]
theorem unlogged_registry : yard.unlogged.registry = yard.registry := rfl

@[simp]
theorem unlogged_proxies : yard.unlogged.proxies = yard.proxies := rfl

/-- The dispatcher sees the same requesters. -/
@[simp]
theorem unlogged_presence : yard.unlogged.presence = yard.presence := by
  funext requester
  cases requester <;> rfl

end Fields

@[simp]
theorem hand_unlogged (job : Option Job) (yard : Yard σ) (requester : Requester) :
    (yard.hand job requester).unlogged = yard.unlogged.hand job requester := by
  cases requester with
  | proxy number => rfl
  | caller number => exact apply_ite unlogged _ _ _

@[simp]
theorem discard_unlogged (yard : Yard σ) (message : Message) :
    (yard.discard message).unlogged = yard.unlogged.discard message := by
  cases message with
  | request requester => exact hand_unlogged none yard requester
  | _ => rfl

theorem deliver_unlogged (yard : Yard σ) (jobs : List (Requester × Job)) :
    (yard.deliver jobs).unlogged = yard.unlogged.deliver jobs :=
  (List.foldl_hom unlogged fun yard delivery =>
    (hand_unlogged (some delivery.2) yard delivery.1).symm).symm

/-- **A turn of the dispatcher does the same whatever is written.** -/
theorem take_unlogged (log : Log σ) (turn : Turn Requester Nat) (rest : List Message)
    (yard : Yard σ) :
    (yard.take log turn rest).unlogged = yard.unlogged.take .nothing turn rest := by
  have told : (turn.released.foldl (hand none)
      ((yard.turned log turn rest).deliver turn.delivered)).unlogged =
        turn.released.foldl (hand none)
          ((yard.unlogged.turned .nothing turn rest).deliver turn.delivered) := by
    rw [← List.foldl_hom unlogged fun yard requester => (hand_unlogged none yard requester).symm,
      deliver_unlogged]
    cases turn with
    | mk dispatcher delivered released entry answer ending => cases entry <;> rfl
  cases stops : turn.ending with
  | none =>
    simp only [take, stops]
    exact told
  | some ending =>
    simp only [take, stops, stop]
    rw [← List.foldl_hom unlogged fun yard message => (discard_unlogged yard message).symm]
    exact congrArg (fun bare : Yard Unit => rest.foldl discard
      { bare with channel := [], board := (bare.board.publish ending).leave }) told

theorem process_unlogged (log : Log σ) (yard : Yard σ) :
    (yard.process log).map unlogged = yard.unlogged.process .nothing := by
  simp only [process, unlogged_isOpen, unlogged_channel, unlogged_dispatcher, unlogged_presence]
  rw [apply_ite (Option.map unlogged)]
  refine if_congr Iff.rfl rfl ?_
  cases yard.channel with
  | nil => rfl
  | cons event rest => exact congrArg some (take_unlogged log _ rest yard)

theorem abandon_unlogged (log : Log σ) (yard : Yard σ) :
    (yard.abandon log).map unlogged = yard.unlogged.abandon .nothing := by
  unfold abandon
  rw [apply_ite (Option.map unlogged), Option.map_some, take_unlogged]
  rfl

/-- What clients send gets the same answer. -/
theorem send_unlogged (message : Message) (yard : Yard σ) :
    (yard.send message).map unlogged id = yard.unlogged.send message :=
  apply_ite (Prod.map unlogged id) _ _ _

theorem submit_unlogged (setting : Setting σ) (command : String) (yard : Yard σ) :
    (yard.submit setting command).map unlogged id =
      yard.unlogged.submit setting.unlogged command :=
  apply_ite (Prod.map unlogged id) _ _ _

theorem addWorker_unlogged (address : String) (limit : Option Nat) (yard : Yard σ) :
    (yard.addWorker address limit).map unlogged id = yard.unlogged.addWorker address limit := by
  simp only [addWorker, unlogged_isOpen, unlogged_registry]
  rw [apply_ite (Prod.map unlogged id)]
  refine if_congr Iff.rfl rfl ?_
  rcases yard.registry.add address with ⟨registry, _ | _⟩ <;> rfl

theorem connect_unlogged (number : Nat) (success : Bool) (yard : Yard σ) :
    (yard.connect number success).map unlogged = yard.unlogged.connect number success := by
  simp only [connect, unlogged_proxies]
  cases yard.proxies[number]? with
  | none => rfl
  | some proxy =>
    obtain ⟨address, limit, pooled, phase⟩ := proxy
    cases phase <;> rfl

theorem callEnded_unlogged (number : Nat) (outcome : Outcome) (yard : Yard σ) :
    (yard.callEnded number outcome).map unlogged = yard.unlogged.callEnded number outcome := by
  simp only [callEnded, unlogged_proxies]
  cases yard.proxies[number]? with
  | none => rfl
  | some proxy =>
    obtain ⟨address, limit, pooled, phase⟩ := proxy
    cases phase <;> rfl

theorem advanceProxy_unlogged (number : Nat) (yard : Yard σ) :
    (yard.advanceProxy number).map unlogged = yard.unlogged.advanceProxy number := by
  simp only [advanceProxy, unlogged_proxies]
  cases yard.proxies[number]? with
  | none => rfl
  | some proxy =>
    obtain ⟨address, limit, pooled, phase⟩ := proxy
    cases phase with
    | idle => exact apply_ite (Option.map unlogged) _ _ _
    | reporting report =>
      simp only [Option.bind_eq_bind, Option.bind_some, Yard.report, ← send_unlogged]
      rfl
    | _ => rfl

/-- **Leaving out the log commutes with every step**: it is possible or not whatever the log is, and
makes the same of everything else. -/
theorem act_unlogged (setting : Setting σ) (yard : Yard σ) (action : Action) :
    (yard.act setting action).map unlogged = yard.unlogged.act setting.unlogged action := by
  cases action with
  | process => exact process_unlogged setting.log yard
  | abandon => exact abandon_unlogged setting.log yard
  | advanceProxy number => exact advanceProxy_unlogged number yard
  | connect number success => exact connect_unlogged number success yard
  | callEnded number outcome => exact callEnded_unlogged number outcome yard
  | submit command =>
    exact congrArg (fun submitted => some submitted.1) (submit_unlogged setting command yard)
  | endOfInput | report report =>
    exact congrArg (fun sent => some sent.1) (send_unlogged _ yard)
  | askStats => exact congrArg some (apply_ite unlogged _ _ _)
  | request => exact congrArg some (apply_ite unlogged _ _ _)
  | withdraw caller => exact congrArg some (apply_ite unlogged _ _ _)
  | addWorker address limit =>
    exact congrArg (fun added => some added.1) (addWorker_unlogged address limit yard)
  | startProxy address limit | hold | release => rfl

/-- **One action after another is possible or not whatever the log is**, and all the yards on the way
differ in their logs alone. -/
theorem play_unlogged (setting : Setting σ) (actions : List Action) (steps : List (Step σ))
    (yard : Yard σ) :
    (play setting actions steps yard).map (Prod.map (List.map Step.unlogged) unlogged) =
      play setting.unlogged actions (steps.map Step.unlogged) yard.unlogged := by
  induction actions generalizing steps yard with
  | nil => rfl
  | cons action actions hypothesis =>
    rw [play, play, ← act_unlogged, Option.map_bind, Option.bind_map]
    refine Option.bind_congr fun after _ => ?_
    rw [Function.comp_apply, Function.comp_apply, hypothesis, List.map_append]
    rfl

/-! ### What the log is given -/

/-- **The log of a yard has been given the results accepted**, in order, and the counters count what was
accepted. -/
structure Logged (setting : Setting σ) (kept : σ) (steps : List (Step σ)) (yard : Yard σ) : Prop where
  log : yard.log =
    setting.log.recordAll kept ((acceptedReports (occasions steps)).filterMap Entry.ofReport?)
  tally : yard.dispatcher.ledger.tally = (Course.of (occasions steps)).dispatcher.ledger.tally

theorem run_logged (run : Run setting kept steps yard) : Logged setting kept steps yard := by
  induction run using Run.kind_induction with
  | fresh => exact ⟨rfl, rfl⟩
  | outside steps before after action _ isOutside possible hypothesis =>
    obtain ⟨log, tally⟩ := hypothesis
    have appends := act_appends isOutside possible
    constructor
    · rw [occasions_outside steps isOutside, appends.log]
      exact log
    · rw [occasions_outside steps isOutside, appends.dispatcher]
      exact tally
  | process steps before after run possible hypothesis =>
    obtain ⟨isOpen, event, rest, channel, same⟩ := process_eq_some possible
    obtain ⟨-, going, dispatcher, -⟩ := (run_follows run).of_isOpen isOpen
    have turn : before.dispatcher.handle before.presence event =
        (Course.of (occasions steps)).next ⟨event, before.presence⟩ := by
      rw [← dispatcher]
      rfl
    rw [turn] at same
    constructor
    · rw [occasions_process steps channel, acceptedReports_append_singleton, List.filterMap_append,
        Log.recordAll_append, ← hypothesis.log, same, take_log, next_entry going,
        Log.record_accepted]
    · rw [occasions_process steps channel, Course.of_append_singleton, Course.extend_of_going going,
        same, take_dispatcher]
  | abandon steps before after _ possible hypothesis =>
    obtain ⟨-, -, same⟩ := abandon_eq_some possible
    constructor
    · rw [occasions_abandon, same, take_log]
      exact hypothesis.log
    · rw [occasions_abandon, same, take_dispatcher]
      exact hypothesis.tally

/-- A log that does not fail agrees with the counters of its yard. -/
theorem Logged.agrees (logged : Logged setting kept steps yard) {view : σ → Kept}
    (keeps : setting.log.Keeps view) :
    Agrees view kept (acceptedReports (occasions steps)) yard.log yard.dispatcher.ledger.tally := by
  have agrees := Journal.of_agrees keeps kept (occasions steps)
  rwa [Journal.of_kept, Journal.of_course, ← logged.log, ← logged.tally] at agrees

/-! ### Two logs -/

/-- What comes of one action after another in a fresh yard, but for what its log holds. -/
def bare (setting : Setting σ) (kept : σ) (actions : List Action) :
    Option (List (Step Unit) × Yard Unit) :=
  (play setting actions [] { log := kept }).map (Prod.map (List.map Step.unlogged) unlogged)

/-- **The log and everything else do not interfere.** Whatever two logs do with what they are given,
failing always, sometimes or never, the same steps are possible with both, and all yards on the way are
the same but for what the logs hold; so are the courses that a dispatcher takes on any occasions,
requesters that vanish included. Every log is given the results among the reports accepted, in order:
nothing for a report that sends a job back or is refused. If it does not fail then after each step and
each occasion it holds, besides what it held at the start, the commands that succeeded and those that
failed with their outputs, in order, and as many as are counted. -/
theorem logs_apart {ρ κ : Type} (first : Setting σ) (second : Setting τ)
    (same : first.identify = second.identify) (kept : σ) (other : τ) :
    (∀ actions, bare first kept actions = bare second other actions) ∧
    (∀ occasions : List (Occasion ρ κ),
      (Journal.of first.log kept occasions).course = (Journal.of second.log other occasions).course ∧
      (Journal.of first.log kept occasions).kept =
        first.log.recordAll kept ((acceptedReports occasions).filterMap Entry.ofReport?)) ∧
    (∀ steps yard, Run first kept steps yard → yard.log =
      first.log.recordAll kept ((acceptedReports (occasions steps)).filterMap Entry.ofReport?)) ∧
    ∀ view, first.log.Keeps view →
      (∀ occasions : List (Occasion ρ κ),
        Agrees view kept (acceptedReports occasions) (Journal.of first.log kept occasions).kept
          (Journal.of first.log kept occasions).course.dispatcher.ledger.tally) ∧
      ∀ steps yard, Run first kept steps yard →
        Agrees view kept (acceptedReports (occasions steps)) yard.log
          yard.dispatcher.ledger.tally := by
  refine ⟨fun actions => ?_, fun occasions => ⟨?_, Journal.of_kept first.log kept occasions⟩,
    fun steps yard run => (run_logged run).log, fun view keeps => ⟨?_, fun steps yard run => ?_⟩⟩
  · have sameSetting : first.unlogged = second.unlogged := congrArg (Setting.mk Log.nothing) same
    rw [bare, bare, play_unlogged, play_unlogged, sameSetting]
    rfl
  · rw [Journal.of_course, Journal.of_course]
  · exact Journal.of_agrees keeps kept
  · exact (run_logged run).agrees keeps

/-- A setting whose log fails at every result. -/
def keepsNothing : Setting Unit := ⟨.broken (.os .noSpace), plain.identify⟩

theorem logs_apart_mixedResults :
    keepsAll.identify = keepsNothing.identify ∧ keepsAll.log.Keeps id ∧
      bare keepsAll {} mixedResults = bare keepsNothing () mixedResults ∧
      (bare keepsNothing () mixedResults).isSome = true ∧
      acceptedReports (occasions mixedResultsRun.1) = [.repost ⟨"job-1", "true"⟩,
        .fail ⟨"job-2", "false"⟩ "exit status: 1", .ok ⟨"job-1", "true"⟩] ∧
      Agrees id {} (acceptedReports (occasions mixedResultsRun.1)) mixedResultsRun.2.log
        mixedResultsRun.2.dispatcher.ledger.tally := by
  have played : play keepsAll mixedResults [] { log := {} } = some mixedResultsRun :=
    (Option.some_get _).symm
  have run : Run keepsAll {} mixedResultsRun.1 mixedResultsRun.2 := run_of_play .fresh played
  obtain ⟨sameBare, -, -, agree⟩ :=
    logs_apart (ρ := Requester) (κ := Nat) keepsAll keepsNothing rfl {} ()
  exact ⟨rfl, Log.memory_keeps, sameBare mixedResults, by decide +kernel, by decide +kernel,
    (agree id Log.memory_keeps).2 _ _ run⟩

end Workyard.Yard
