/-
**Runs of a yard.**

A run is the list of the steps that lead from a fresh yard to another, in any order in which they
are possible. Everyone but the dispatcher only appends to the channel, and the dispatcher takes the
oldest event: what was sent is what the dispatcher has handled, in that order, and what is still in
the channel.

* `Run`, `sent`, `occasions`, `accepted`: a run and what can be seen of it;
* `act_appends`: what a step does to the channel if it is not the dispatcher's;
* `Run.kind_induction`: induction along a run by the kind of step;
* `run_follows`: the dispatcher goes through the course that the occasions of the run make;
* `run_accepted`: exactly those commands are accepted that are sent.
-/

import Workyard.Proofs.Dispatch.Closing
import Workyard.Proofs.Yard.Steps

namespace Workyard.Yard

open Dispatch

variable {σ : Type}

/-! ### Steps and runs -/

/-- A step, with the yards before and after it. -/
structure Step (σ : Type) where
  before : Yard σ
  action : Action
  after : Yard σ

namespace Step

/-- The messages that a step puts into the channel. -/
def sent (step : Step σ) : List Message :=
  match step.action with
  | .process | .abandon => []
  | _ => step.after.channel.drop step.before.channel.length

/-- The event that the dispatcher handles in a step, with all requesters as they are then. -/
def occasion? (step : Step σ) : Option (Occasion Requester Nat) :=
  match step.action with
  | .process => step.before.channel.head?.map fun event => ⟨event, step.before.presence⟩
  | _ => none

/-- The command that is accepted in a step, under the identifier in the answer. -/
def accepted? (setting : Setting σ) (step : Step σ) : Option Job :=
  match step.action with
  | .submit command =>
    (step.before.submit setting command).2.toOption.map fun id => ⟨id, command⟩
  | _ => none

end Step

/-- The messages put into the channel, in order. -/
def sent (steps : List (Step σ)) : List Message := steps.flatMap Step.sent

/-- The occasions of the dispatcher, in order. -/
def occasions (steps : List (Step σ)) : List (Occasion Requester Nat) :=
  steps.filterMap Step.occasion?

/-- The events handled by the dispatcher, in order. -/
def handled (steps : List (Step σ)) : List Message := (occasions steps).map Occasion.event

/-- The commands accepted, in order. -/
def accepted (setting : Setting σ) (steps : List (Step σ)) : List Job :=
  steps.filterMap (Step.accepted? setting)

/-- The steps that lead from a fresh yard, whose log keeps what it is given, to another. -/
inductive Run (setting : Setting σ) (kept : σ) : List (Step σ) → Yard σ → Prop
  | fresh : Run setting kept [] { log := kept }
  | step {steps : List (Step σ)} {before after : Yard σ} {action : Action}
    (run : Run setting kept steps before) (possible : before.act setting action = some after) :
    Run setting kept (steps ++ [⟨before, action, after⟩]) after

/-- A run prolonged by one action after another, if all of them are possible. -/
def play (setting : Setting σ) :
    List Action → List (Step σ) → Yard σ → Option (List (Step σ) × Yard σ)
  | [], steps, yard => some (steps, yard)
  | action :: actions, steps, yard => (yard.act setting action).bind fun after =>
    play setting actions (steps ++ [⟨yard, action, after⟩]) after

theorem run_of_play {setting : Setting σ} {kept : σ} {actions : List Action}
    {steps last : List (Step σ)} {yard after : Yard σ} (run : Run setting kept steps yard)
    (played : play setting actions steps yard = some (last, after)) :
    Run setting kept last after := by
  induction actions generalizing steps yard with
  | nil =>
    cases played
    exact run
  | cons action actions hypothesis =>
    obtain ⟨next, possible, rest⟩ := Option.bind_eq_some_iff.mp played
    exact hypothesis (run.step possible) rest

/-- A setting that keeps no log and has two identifiers. -/
def plain : Setting Unit := ⟨.nothing, fun number => if number = 1 then "job-1" else "job-2"⟩

@[simp]
theorem sent_append (steps later : List (Step σ)) :
    sent (steps ++ later) = sent steps ++ sent later :=
  List.flatMap_append

@[simp]
theorem occasions_append (steps later : List (Step σ)) :
    occasions (steps ++ later) = occasions steps ++ occasions later :=
  List.filterMap_append

@[simp]
theorem handled_append (steps later : List (Step σ)) :
    handled (steps ++ later) = handled steps ++ handled later := by
  simp [handled]

@[simp]
theorem accepted_append (setting : Setting σ) (steps later : List (Step σ)) :
    accepted setting (steps ++ later) = accepted setting steps ++ accepted setting later :=
  List.filterMap_append

/-! ### Steps that are not the dispatcher's -/

/-- Whether an action is not the dispatcher's. -/
def Action.isOutside : Action → Bool
  | .process | .abandon => false
  | _ => true

/-- The message that a proxy sends when it leaves a phase. -/
def Phase.message? (number : Nat) : Phase → Option Message
  | .idle => some (.request (.proxy number))
  | .reporting report => some (.report report)
  | _ => none

/-- The message that an action sends to a dispatcher that still takes events. -/
def message? (setting : Setting σ) (yard : Yard σ) : Action → Option Message
  | .submit command => some (.submit ⟨setting.identify (yard.issued + 1), command⟩)
  | .endOfInput => some .endOfInput
  | .report report => some (.report report)
  | .askStats => some (.stats yard.askers)
  | .request => some (.request (.caller yard.callers.length))
  | .connect number _ | .callEnded number _ | .advanceProxy number =>
    yard.proxies[number]?.bind (·.phase.message? number)
  | _ => none

/-- What an action puts into the channel: nothing once the dispatcher has stopped. -/
def said (setting : Setting σ) (yard : Yard σ) (action : Action) : List Message :=
  if yard.isOpen then (yard.message? setting action).toList else []

/-- A step that appends to the channel and leaves the dispatcher and the log alone. -/
structure Appends (setting : Setting σ) (yard : Yard σ) (action : Action) (after : Yard σ) :
    Prop where
  dispatcher : after.dispatcher = yard.dispatcher
  board : after.board = yard.board
  log : after.log = yard.log
  channel : after.channel = yard.channel ++ yard.said setting action

section Outside

variable {setting : Setting σ} {yard after : Yard σ} {action : Action}

theorem said_of_isOpen (isOpen : yard.isOpen = true) :
    yard.said setting action = (yard.message? setting action).toList := if_pos isOpen

theorem said_of_shut (shut : ¬ yard.isOpen = true) : yard.said setting action = [] := if_neg shut

theorem filterMap_said_eq_nil {α : Type} {view : Message → Option α}
    (unseen : (yard.message? setting action).bind view = none) :
    (yard.said setting action).filterMap view = [] := by
  unfold said
  cases sends : yard.message? setting action with
  | none => split <;> rfl
  | some message =>
    rw [sends] at unseen
    split
    · exact List.filterMap_cons_none unseen
    · rfl

/-- A step that sends nothing. -/
theorem appends_nothing (dispatcher : after.dispatcher = yard.dispatcher)
    (board : after.board = yard.board) (log : after.log = yard.log)
    (channel : after.channel = yard.channel) (silent : yard.message? setting action = none) :
    Appends setting yard action after where
  dispatcher := dispatcher
  board := board
  log := log
  channel := by
    rw [channel, said, silent]
    split <;> exact (List.append_nil _).symm

theorem submit_appends (command : String) :
    Appends setting yard (.submit command) (yard.submit setting command).1 := by
  by_cases isOpen : yard.isOpen = true
  · rw [submit_of_isOpen setting command isOpen]
    exact ⟨rfl, rfl, rfl, by rw [said_of_isOpen isOpen]; rfl⟩
  · rw [submit_of_shut setting command isOpen]
    exact ⟨rfl, rfl, rfl, by rw [said_of_shut isOpen, List.append_nil]⟩

theorem send_appends {message : Message} (names : yard.message? setting action = some message) :
    Appends setting yard action (yard.send message).1 := by
  by_cases isOpen : yard.isOpen = true
  · rw [send_of_isOpen message isOpen]
    exact ⟨rfl, rfl, rfl, by rw [said_of_isOpen isOpen, names]; rfl⟩
  · rw [send_of_shut message isOpen]
    exact ⟨rfl, rfl, rfl, by rw [said_of_shut isOpen, List.append_nil]⟩

theorem askStats_appends : Appends setting yard .askStats yard.askStats.1 := by
  by_cases isOpen : yard.isOpen = true
  · rw [askStats_of_isOpen isOpen]
    exact ⟨rfl, rfl, rfl, by rw [said_of_isOpen isOpen]; rfl⟩
  · rw [askStats_of_shut isOpen]
    exact ⟨rfl, rfl, rfl, by rw [said_of_shut isOpen, List.append_nil]⟩

theorem request_appends : Appends setting yard .request yard.request.1 := by
  by_cases isOpen : yard.isOpen = true
  · rw [request_of_isOpen isOpen]
    exact ⟨rfl, rfl, rfl, by rw [said_of_isOpen isOpen]; rfl⟩
  · have answered : yard.request.1 =
        { yard with callers := yard.callers ++ [.answered none] } := if_neg isOpen
    rw [answered]
    exact ⟨rfl, rfl, rfl, by rw [said_of_shut isOpen, List.append_nil]⟩

theorem addWorker_appends (address : String) (limit : Option Nat) :
    Appends setting yard (.addWorker address limit) (yard.addWorker address limit).1 := by
  unfold addWorker
  split
  · exact appends_nothing rfl rfl rfl rfl rfl
  · split <;> exact appends_nothing rfl rfl rfl rfl rfl

theorem withdraw_appends (caller : Nat) :
    Appends setting yard (.withdraw caller) (yard.withdraw caller) := by
  unfold withdraw
  split <;> exact appends_nothing rfl rfl rfl rfl rfl

/-- What a proxy sends depends on its phase alone. -/
theorem Phase.Moves.messages_eq {number : Nat} {isOpen : Bool} {phase next : Phase}
    {messages : List Message} (moves : phase.Moves number isOpen messages next) :
    messages = if isOpen then (phase.message? number).toList else [] := by
  cases moves with
  | asks taken | reports report taken => rw [if_pos taken]; rfl
  | turnedAway shut | unheard report shut => rw [if_neg (by simp [shut])]
  | connects success | collects job | returns job outcome => cases isOpen <;> rfl

theorem ProxyStep.appends {number : Nat} (step : ProxyStep number yard after)
    (names : yard.message? setting action =
      yard.proxies[number]?.bind (·.phase.message? number)) :
    Appends setting yard action after := by
  obtain ⟨proxy, messages, phase, found, moves, rfl⟩ := step
  refine ⟨rfl, rfl, rfl, ?_⟩
  rw [said, names, found, moves.messages_eq]
  rfl

/-- **Everyone but the dispatcher appends to the channel**, as long as it takes events. -/
theorem act_appends (outside : action.isOutside = true)
    (possible : yard.act setting action = some after) : Appends setting yard action after := by
  cases action with
  | connect number success => exact (connect_proxyStep possible).appends rfl
  | callEnded number outcome => exact (callEnded_proxyStep possible).appends rfl
  | advanceProxy number => exact (advanceProxy_proxyStep possible).appends rfl
  | process | abandon => cases outside
  | submit command => exact Option.some.inj possible ▸ submit_appends command
  | endOfInput | report report => exact Option.some.inj possible ▸ send_appends rfl
  | askStats => exact Option.some.inj possible ▸ askStats_appends
  | request => exact Option.some.inj possible ▸ request_appends
  | withdraw caller => exact Option.some.inj possible ▸ withdraw_appends caller
  | addWorker address limit => exact Option.some.inj possible ▸ addWorker_appends address limit
  | startProxy address limit | hold | release =>
    exact Option.some.inj possible ▸ appends_nothing rfl rfl rfl rfl rfl

namespace Appends

theorem isOpen_eq (appends : Appends setting yard action after) : after.isOpen = yard.isOpen :=
  congrArg (fun board => !Board.isClosed board) appends.board

theorem sent_eq (appends : Appends setting yard action after) (outside : action.isOutside = true) :
    sent [⟨yard, action, after⟩] = yard.said setting action := by
  have dropped : after.channel.drop yard.channel.length = yard.said setting action := by
    rw [appends.channel, List.drop_left]
  rw [sent, List.flatMap_singleton, ← dropped]
  cases action with
  | process | abandon => cases outside
  | _ => rfl

end Appends

/-- A step that is not the dispatcher's is no occasion for it. -/
theorem occasions_outside (steps : List (Step σ)) (outside : action.isOutside = true) :
    occasions (steps ++ [⟨yard, action, after⟩]) = occasions steps := by
  have nothing : occasions [Step.mk yard action after] = [] := by
    cases action with
    | process | abandon => cases outside
    | _ => rfl
  rw [occasions_append, nothing, List.append_nil]

/-- The dispatcher handles the oldest message. -/
theorem occasions_process {event : Message} {rest : List Message} (steps : List (Step σ))
    (channel : yard.channel = event :: rest) :
    occasions (steps ++ [⟨yard, .process, after⟩]) =
      occasions steps ++ [⟨event, yard.presence⟩] := by
  rw [occasions_append]
  simp [occasions, Step.occasion?, channel]

theorem handled_process {event : Message} {rest : List Message} (steps : List (Step σ))
    (channel : yard.channel = event :: rest) :
    handled (steps ++ [⟨yard, .process, after⟩]) = handled steps ++ [event] := by
  rw [handled, occasions_process steps channel, List.map_append]
  rfl

theorem handled_outside (steps : List (Step σ)) (outside : action.isOutside = true) :
    handled (steps ++ [⟨yard, action, after⟩]) = handled steps :=
  congrArg (List.map Occasion.event) (occasions_outside steps outside)

/-- A command is accepted exactly if it is sent. -/
theorem submitted_said (after : Yard σ) : submitted (yard.said setting action) =
    ((Step.mk yard action after).accepted? setting).toList := by
  by_cases isOpen : yard.isOpen = true
  · rw [said_of_isOpen isOpen]
    cases action with
    | submit command =>
      simp only [Step.accepted?, submit_of_isOpen setting command isOpen]
      rfl
    | connect number _ | callEnded number _ | advanceProxy number =>
      cases found : yard.proxies[number]? with
      | none => simp [message?, Step.accepted?, found]
      | some proxy => cases phase : proxy.phase <;>
          simp [message?, Step.accepted?, found, Phase.message?, phase]
    | _ => rfl
  · rw [said_of_shut isOpen]
    cases action with
    | submit command =>
      simp only [Step.accepted?, submit_of_shut setting command isOpen]
      rfl
    | _ => rfl

end Outside

/-- The dispatcher sends nothing. -/
theorem sent_process (steps : List (Step σ)) (before after : Yard σ) :
    sent (steps ++ [⟨before, .process, after⟩]) = sent steps := by
  rw [sent_append]
  exact List.append_nil _

theorem sent_abandon (steps : List (Step σ)) (before after : Yard σ) :
    sent (steps ++ [⟨before, .abandon, after⟩]) = sent steps := by
  rw [sent_append]
  exact List.append_nil _

/-- Being abandoned, the dispatcher handles nothing. -/
theorem occasions_abandon (steps : List (Step σ)) (before after : Yard σ) :
    occasions (steps ++ [⟨before, .abandon, after⟩]) = occasions steps := by
  rw [occasions_append]
  exact List.append_nil _

theorem handled_abandon (steps : List (Step σ)) (before after : Yard σ) :
    handled (steps ++ [⟨before, .abandon, after⟩]) = handled steps :=
  congrArg (List.map Occasion.event) (occasions_abandon steps before after)

/-- **Induction along a run** by the kind of step: one that is not the dispatcher's, one in which it
handles an event, and one in which it is abandoned. -/
@[elab_as_elim]
theorem Run.kind_induction {setting : Setting σ} {kept : σ}
    {motive : (steps : List (Step σ)) → (yard : Yard σ) → Run setting kept steps yard → Prop}
    (fresh : motive [] { log := kept } .fresh)
    (outside : ∀ (steps : List (Step σ)) (before after : Yard σ) (action : Action)
      (run : Run setting kept steps before) (_ : action.isOutside = true)
      (possible : before.act setting action = some after), motive steps before run →
      motive (steps ++ [⟨before, action, after⟩]) after (run.step possible))
    (process : ∀ (steps : List (Step σ)) (before after : Yard σ)
      (run : Run setting kept steps before) (possible : before.process setting.log = some after),
      motive steps before run → motive (steps ++ [⟨before, .process, after⟩]) after
        (run.step (show before.act setting .process = some after from possible)))
    (abandon : ∀ (steps : List (Step σ)) (before after : Yard σ)
      (run : Run setting kept steps before) (possible : before.abandon setting.log = some after),
      motive steps before run → motive (steps ++ [⟨before, .abandon, after⟩]) after
        (run.step (show before.act setting .abandon = some after from possible)))
    {steps : List (Step σ)} {yard : Yard σ} (run : Run setting kept steps yard) :
    motive steps yard run := by
  induction run with
  | fresh => exact fresh
  | @step steps before after action run possible hypothesis =>
    cases isOutside : action.isOutside with
    | true => exact outside steps before after action run isOutside possible hypothesis
    | false =>
      cases action with
      | process => exact process steps before after run possible hypothesis
      | abandon => exact abandon steps before after run possible hypothesis
      | _ => cases isOutside

/-! ### The course of the dispatcher -/

/-- How the dispatcher of a yard came to stop. -/
inductive Stopped (steps : List (Step σ)) (ending : Ending) (lost : List Message) : Prop
  /-- At the last event that it handled. -/
  | handling (before : List (Occasion Requester Nat)) (last : Occasion Requester Nat)
    (split : occasions steps = before ++ [last]) (going : (Course.of before).ending = none)
    (stops : ((Course.of before).next last).ending = some ending)
  /-- When nobody was left to send an event. -/
  | deserted (going : (Course.of (occasions steps)).ending = none)
    (stops : (Course.of (occasions steps)).desert.ending = some ending) (nothing : lost = [])

/-- How a yard follows from the steps that led to it. -/
inductive Follows (steps : List (Step σ)) (yard : Yard σ) : Prop
  /-- What was sent is handled or in the channel. -/
  | going (board : yard.board = {}) (course : (Course.of (occasions steps)).ending = none)
    (dispatcher : (Course.of (occasions steps)).dispatcher = yard.dispatcher)
    (sent : sent steps = handled steps ++ yard.channel)
  /-- What was sent is handled or lost. -/
  | stopped (ending : Ending) (lost : List Message) (board : yard.board.ending = some ending)
    (sent : sent steps = handled steps ++ lost) (stopped : Stopped steps ending lost)

theorem isOpen_eq_true_iff (yard : Yard σ) : yard.isOpen = true ↔ yard.board.ending = none := by
  simp [isOpen, Board.isClosed]

namespace Follows

variable {setting : Setting σ} {steps : List (Step σ)} {yard after : Yard σ} {action : Action}

/-- A yard whose dispatcher takes events follows from steps that its dispatcher went on from. -/
theorem of_isOpen (follows : Follows steps yard) (isOpen : yard.isOpen = true) :
    yard.board = {} ∧ (Course.of (occasions steps)).ending = none ∧
      (Course.of (occasions steps)).dispatcher = yard.dispatcher ∧
      sent steps = handled steps ++ yard.channel := by
  cases follows with
  | going board course dispatcher sent => exact ⟨board, course, dispatcher, sent⟩
  | stopped ending lost board sent stopped =>
    rw [isOpen_eq_true_iff, board] at isOpen
    cases isOpen

/-- Messages are handled in the order in which they were sent. -/
theorem handled_first (follows : Follows steps yard) :
    ∃ later, sent steps = handled steps ++ later :=
  match follows with
  | .going _ _ _ sent => ⟨_, sent⟩
  | .stopped _ lost _ sent _ => ⟨lost, sent⟩

/-- A dispatcher that stops shows its ending. -/
theorem shows_ending (follows : Follows steps yard) (isOpen : yard.isOpen = true)
    {turn : Turn Requester Nat} {rest : List Message} {ending : Ending}
    (stops : turn.ending = some ending) (same : after = yard.take setting.log turn rest) :
    after.board.ending = some ending := by
  obtain ⟨board, -⟩ := follows.of_isOpen isOpen
  obtain ⟨-, -, published⟩ := take_of_stopping setting.log rest yard stops
  rw [same, published, board]
  rfl

theorem outside (follows : Follows steps yard) (isOutside : action.isOutside = true)
    (appends : Appends setting yard action after) :
    Follows (steps ++ [⟨yard, action, after⟩]) after := by
  have sentNow := appends.sent_eq isOutside
  have sameOccasions : occasions (steps ++ [⟨yard, action, after⟩]) = occasions steps :=
    occasions_outside steps isOutside
  have sameHandled : handled (steps ++ [⟨yard, action, after⟩]) = handled steps :=
    handled_outside steps isOutside
  cases follows with
  | going board course dispatcher sent =>
    refine .going (appends.board.trans board) ?_ ?_ ?_
    · rw [sameOccasions]
      exact course
    · rw [sameOccasions, appends.dispatcher]
      exact dispatcher
    · rw [sent_append, sentNow, sameHandled, appends.channel, sent, List.append_assoc]
  | stopped ending lost board sent stopped =>
    have shut : ¬ yard.isOpen = true := by
      rw [isOpen_eq_true_iff, board]
      nofun
    refine .stopped ending lost ((congrArg Board.ending appends.board).trans board) ?_ ?_
    · rw [sent_append, sentNow, sameHandled, said_of_shut shut, List.append_nil]
      exact sent
    · cases stopped with
      | handling before last split going stops =>
        exact .handling before last (sameOccasions.trans split) going stops
      | deserted going stops nothing =>
        rw [← sameOccasions] at going stops
        exact .deserted going stops nothing

theorem process (follows : Follows steps yard) (possible : yard.process setting.log = some after) :
    Follows (steps ++ [⟨yard, .process, after⟩]) after := by
  obtain ⟨isOpen, event, rest, channel, same⟩ := process_eq_some possible
  obtain ⟨board, course, dispatcher, sent⟩ := follows.of_isOpen isOpen
  have sentNow : Yard.sent (steps ++ [⟨yard, .process, after⟩]) =
      handled (steps ++ [⟨yard, .process, after⟩]) ++ rest := by
    rw [sent_process, handled_process steps channel, sent, channel, List.append_assoc]
    rfl
  have handles : (Course.of (occasions steps)).next ⟨event, yard.presence⟩ =
      yard.dispatcher.handle yard.presence event := by
    rw [← dispatcher]
    rfl
  cases turned : (yard.dispatcher.handle yard.presence event).ending with
  | none =>
    obtain ⟨-, -, -, released, -⟩ := handle_of_going turned
    have taken := take_of_going setting.log rest yard turned released
    rw [taken] at same
    have extended : Course.of (occasions (steps ++ [⟨yard, .process, after⟩])) =
        ⟨(Course.of (occasions steps)).turns ++ [yard.dispatcher.handle yard.presence event],
          (yard.dispatcher.handle yard.presence event).dispatcher, none⟩ := by
      rw [occasions_process steps channel, Course.of_append_singleton,
        Course.extend_of_going course, handles, turned]
    refine .going ?_ ?_ ?_ ?_
    · rw [same, deliver_board]
      exact board
    · rw [extended]
    · rw [extended, same, deliver_dispatcher]
      rfl
    · rw [sentNow, same, deliver_channel]
      rfl
  | some ending =>
    refine .stopped ending rest (follows.shows_ending isOpen turned same) sentNow
      (.handling (occasions steps) ⟨event, yard.presence⟩ ?_ course ?_)
    · exact occasions_process steps channel
    · rw [handles]
      exact turned

/-- What a dispatcher that goes on has done in its step. -/
theorem process_going (follows : Follows steps yard)
    (possible : yard.process setting.log = some after) (going : after.isOpen = true) :
    ∃ event rest ledger, yard.channel = event :: rest ∧
      yard.dispatcher.ledger.react event = .ok ledger ∧
      Serves yard.presence ledger (yard.dispatcher.waiting ++ event.requester?.toList)
        ⟨(yard.dispatcher.handle yard.presence event).delivered,
          (yard.dispatcher.handle yard.presence event).dispatcher⟩ ∧
      after = (yard.turned setting.log (yard.dispatcher.handle yard.presence event) rest).deliver
        (yard.dispatcher.handle yard.presence event).delivered := by
  obtain ⟨isOpen, event, rest, channel, same⟩ := process_eq_some possible
  cases turned : (yard.dispatcher.handle yard.presence event).ending with
  | none =>
    obtain ⟨ledger, reacted, -, released, serves⟩ := handle_of_going turned
    rw [take_of_going setting.log rest yard turned released] at same
    exact ⟨event, rest, ledger, channel, reacted, serves, same⟩
  | some ending =>
    rw [isOpen_eq_true_iff, follows.shows_ending isOpen turned same] at going
    cases going

theorem abandon (follows : Follows steps yard) (possible : yard.abandon setting.log = some after) :
    Follows (steps ++ [⟨yard, .abandon, after⟩]) after := by
  obtain ⟨isOpen, channel, same⟩ := abandon_eq_some possible
  obtain ⟨board, course, dispatcher, sent⟩ := follows.of_isOpen isOpen
  have nothing := occasions_abandon steps yard after
  refine .stopped _ [] (follows.shows_ending isOpen rfl same) ?_ (.deserted ?_ ?_ rfl)
  · rw [sent_abandon, sent, channel, handled_abandon]
  · rw [nothing]
    exact course
  · rw [nothing, Course.desert, course, dispatcher]
    rfl

end Follows

section

variable {setting : Setting σ} {kept : σ} {steps : List (Step σ)} {yard : Yard σ}

/-- **The dispatcher of a yard goes through the course that the occasions of the run make.** -/
theorem run_follows (run : Run setting kept steps yard) : Follows steps yard := by
  induction run using Run.kind_induction with
  | fresh => exact .going rfl rfl rfl rfl
  | outside steps before after action _ isOutside possible follows =>
    exact follows.outside isOutside (act_appends isOutside possible)
  | process steps before after _ possible follows => exact follows.process possible
  | abandon steps before after _ possible follows => exact follows.abandon possible

/-- The dispatcher of a yard is what its course makes of it, unless it was abandoned. -/
theorem run_dispatcher (run : Run setting kept steps yard) :
    yard.dispatcher = (Course.of (occasions steps)).dispatcher ∨
      ∃ outstanding, yard.board.ending = some (.aborted (.abandoned outstanding)) := by
  induction run using Run.kind_induction with
  | fresh => exact .inl rfl
  | outside steps before after action _ isOutside possible hypothesis =>
    have appends := act_appends isOutside possible
    rw [occasions_outside steps isOutside, appends.dispatcher, appends.board]
    exact hypothesis
  | process steps before after run possible _ =>
    obtain ⟨isOpen, event, rest, channel, same⟩ := process_eq_some possible
    obtain ⟨-, course, dispatcher, -⟩ := (run_follows run).of_isOpen isOpen
    refine .inl ?_
    rw [occasions_process steps channel, Course.of_append_singleton,
      Course.extend_of_going course, Course.next, dispatcher, same]
    cases turned : (before.dispatcher.handle before.presence event).ending with
    | none =>
      obtain ⟨-, -, -, released, -⟩ := handle_of_going turned
      rw [take_of_going setting.log rest before turned released, deliver_dispatcher]
      rfl
    | some ending => exact (take_of_stopping setting.log rest before turned).1
  | abandon steps before after run possible _ =>
    obtain ⟨isOpen, -, same⟩ := abandon_eq_some possible
    exact .inr ⟨_, (run_follows run).shows_ending isOpen rfl same⟩

/-- **Exactly those commands are accepted that are sent.** -/
theorem run_accepted (run : Run setting kept steps yard) :
    accepted setting steps = submitted (sent steps) := by
  induction run using Run.kind_induction with
  | fresh => rfl
  | outside steps before after action _ isOutside possible hypothesis =>
    rw [accepted_append, sent_append, submitted_append, hypothesis,
      (act_appends isOutside possible).sent_eq isOutside, submitted_said after, accepted,
      filterMap_cons_eq]
    exact congrArg _ (List.append_nil _)
  | process steps before after _ _ hypothesis =>
    rw [accepted_append, sent_process, hypothesis]
    exact List.append_nil _
  | abandon steps before after _ _ hypothesis =>
    rw [accepted_append, sent_abandon, hypothesis]
    exact List.append_nil _

/-- If no identifier is accepted twice, none is handled twice. -/
theorem run_distinct (run : Run setting kept steps yard)
    (distinct : ((accepted setting steps).map Job.id).Nodup) :
    ((submitted (handled steps)).map Job.id).Nodup := by
  obtain ⟨later, sent⟩ := (run_follows run).handled_first
  rw [run_accepted run, sent, submitted_append, List.map_append] at distinct
  exact distinct.sublist (List.sublist_append_left _ _)

/-- If no identifier is handled twice, none was handled twice before. -/
theorem distinct_of_append {later : List (Step σ)}
    (distinct : ((submitted (handled (steps ++ later))).map Job.id).Nodup) :
    ((submitted (handled steps)).map Job.id).Nodup := by
  rw [handled_append, submitted_append, List.map_append] at distinct
  exact distinct.sublist (List.sublist_append_left _ _)

end

end Workyard.Yard
