/-
**What those who watch a dispatcher see of its end.**

The event loop returns one result, in the step in which the dispatcher stops. Others learn of it in
four ways: they wait for the end, they end the input and wait, they ask whether the dispatcher is
closed, or they ask for the counters. Whenever they come and whenever they look, it is the result of
the event loop that they are told.

* `result?`, `run_board`: what the event loop returns is what the board shows;
* `Audience`, `Attended`: a run with any number of calls that wait for the end;
* `attended_tells`: a call that has returned has returned what the board shows;
* `attended_answered`, `attended_replied`: so it has returned what the event loop returns;
* `run_answered_shut`: what those are told who ask for counters after the end;
* `observers_agree`: all of them see the same end.
-/

import Mathlib.Data.List.Nodup
import Workyard.Proofs.Yard.Snapshots
import Workyard.Rpc.Manager

namespace Workyard.Yard

open Dispatch
open scoped List

variable {σ : Type} {setting : Setting σ} {kept : σ} {steps : List (Step σ)} {yard after : Yard σ}
  {action : Action}

/-! ### What the event loop returns -/

/-- What the event loop does in a step, if it is one of its steps. -/
def Step.turn? (step : Step σ) : Option (Turn Requester Nat) :=
  match step.action with
  | .process => step.before.channel.head?.map (step.before.dispatcher.handle step.before.presence)
  | .abandon => some step.before.dispatcher.abandon
  | _ => none

/-- How the event loop ends in a step, if it does. -/
def Step.ending? (step : Step σ) : Option Ending := step.turn?.bind Turn.ending

/-- How the event loop ends, in each step in which it does. -/
def endings (steps : List (Step σ)) : List Ending := steps.filterMap Step.ending?

/-- What the event loop returns. -/
def result? (steps : List (Step σ)) : Option (Except DispatchError Tally) :=
  (endings steps).head?.map Ending.result

/-- A step is one of the event loop, taken before its end, or leaves the board alone. -/
theorem act_turns (possible : yard.act setting action = some after) :
    (yard.isOpen = true ∧ ∃ turn rest, (Step.mk yard action after).turn? = some turn ∧
        after = yard.take setting.log turn rest) ∨
      ((Step.mk yard action after).turn? = none ∧ after.board = yard.board) := by
  cases outside : action.isOutside with
  | true =>
    refine .inr ⟨?_, (act_appends outside possible).board⟩
    cases action with
    | process | abandon => cases outside
    | _ => rfl
  | false =>
    cases action with
    | process =>
      obtain ⟨isOpen, event, rest, channel, same⟩ := process_eq_some possible
      exact .inl ⟨isOpen, _, rest, by simp [Step.turn?, channel], same⟩
    | abandon =>
      obtain ⟨isOpen, -, same⟩ := abandon_eq_some possible
      exact .inl ⟨isOpen, _, [], rfl, same⟩
    | _ => cases outside

/-- What the board of a yard shows whose event loop has ended in this way. -/
def shown : Option Ending → Board
  | none => {}
  | some ending => ⟨some ending, false⟩

/-- The board shows the end as soon as the event loop ends. -/
theorem act_board {ending : Option Ending} (board : yard.board = shown ending)
    (possible : yard.act setting action = some after) :
    (ending.isSome → (Step.mk yard action after).ending? = none) ∧
      after.board = shown (ending.or (Step.mk yard action after).ending?) := by
  rcases act_turns possible with ⟨isOpen, turn, rest, turns, rfl⟩ | ⟨none, same⟩
  · have running : ending = none := by
      rw [isOpen_eq_true_iff, board] at isOpen
      cases ending with
      | none => rfl
      | some ending => cases isOpen
    subst running
    refine ⟨nofun, ?_⟩
    rw [take_board, board, Step.ending?, turns, Option.bind_some, Option.none_or]
    cases turn.ending <;> rfl
  · rw [Step.ending?, none, same, board]
    exact ⟨fun _ => rfl, by rw [Option.bind_none, Option.or_none]⟩

/-- **The board shows how the event loop has ended**, which it does at most once. -/
theorem run_board (run : Run setting kept steps yard) :
    ∃ ending : Option Ending, endings steps = ending.toList ∧ yard.board = shown ending := by
  induction run with
  | fresh => exact ⟨none, rfl, rfl⟩
  | @step steps before after action run possible hypothesis =>
    obtain ⟨ending, ended, board⟩ := hypothesis
    obtain ⟨once, board⟩ := act_board board possible
    refine ⟨_, ?_, board⟩
    rw [endings, List.filterMap_append, ← endings, ended, filterMap_cons_eq]
    cases ending with
    | none => exact List.append_nil _
    | some ending => rw [once rfl]; rfl

/-- What one who waits for the end is told is what the event loop returns. -/
theorem run_await (run : Run setting kept steps yard) : yard.board.await = result? steps := by
  obtain ⟨ending, ended, board⟩ := run_board run
  rw [result?, ended, board]
  cases ending <;> rfl

theorem run_isClosed (run : Run setting kept steps yard) :
    yard.board.isClosed = (result? steps).isSome := by
  obtain ⟨ending, ended, board⟩ := run_board run
  rw [result?, ended, board]
  cases ending <;> rfl

/-- **A dispatcher is closed once and for all.** -/
theorem run_closes_once (run : Run setting kept steps yard) :
    ∃ running stopped, steps.map (fun step => step.after.board.isClosed) =
        List.replicate running false ++ List.replicate stopped true ∧
      (0 < stopped ↔ yard.board.isClosed = true) := by
  induction run with
  | fresh => exact ⟨0, 0, rfl, nofun, nofun⟩
  | @step steps before after action run possible hypothesis =>
    obtain ⟨running, stopped, split, shut⟩ := hypothesis
    rw [List.map_append, split]
    cases closed : before.board.isClosed with
    | true =>
      have same : after.board = before.board := act_shut (by simp [isOpen, closed]) possible
      refine ⟨running, stopped + 1, ?_, by simp [same, closed]⟩
      simp [same, closed, List.replicate_succ']
    | false =>
      have none : stopped = 0 := by simpa [closed] using shut
      subst none
      cases now : after.board.isClosed with
      | true => exact ⟨running, 1, by simp [now], by simp⟩
      | false => exact ⟨running + 1, 0, by simp [now, List.replicate_succ'], by simp⟩

/-! ### Counters after the end -/

/-- The counters that a tally stands for once the dispatcher has closed. -/
def closedStats (tally : Tally) : Stats :=
  { ok := tally.ok, failed := tally.failed, gotEof := true, closed := true }

/-- A tally that the event loop returns is what the counters are made from. -/
theorem run_finalStats {tally : Tally} (run : Run setting kept steps yard)
    (returns : result? steps = some (.ok tally)) : yard.finalStats = closedStats tally := by
  obtain ⟨ending, ended, board⟩ := run_board run
  rw [result?, ended] at returns
  rw [finalStats, board]
  cases ending with
  | none => cases returns
  | some ending =>
    cases ending with
    | closed other =>
      obtain rfl : other = tally := Except.ok.inj (Option.some.inj returns)
      rfl
    | aborted error => cases returns

/-- **Whoever asks for counters is answered out of the ending**, if the answer comes in the step in
which the dispatcher stops or later. -/
theorem run_answered_shut (run : Run setting kept steps yard) {step : Step σ} (taken : step ∈ steps)
    (shut : step.after.board.isClosed = true) :
    ∀ answer ∈ yard.answers, answer ∈ step.before.answers ∨ answer.2 = yard.finalStats := by
  have stopped : ¬ step.after.isOpen = true := by simp [isOpen, shut]
  obtain ⟨possible, since, answers, last⟩ := run.step_of_mem taken
  obtain ⟨now, answersNow, lastNow⟩ := act_answers possible
  obtain ⟨board, later⟩ := last stopped
  intro answer member
  rw [answers, answersNow] at member
  rcases List.mem_append.mp member with new | member
  · exact .inr (later answer new)
  · rcases List.mem_append.mp member with new | old
    · exact .inr ((lastNow stopped answer new).trans (finalStats_of_board board).symm)
    · exact .inl old

/-- **One who asks a dispatcher that has stopped is answered**, and has no other answer. -/
theorem run_asks_shut (run : Run setting kept steps yard) {step : Step σ} (taken : step ∈ steps)
    (asks : step.action = .askStats) (shut : step.before.board.isClosed = true) (stats : Stats) :
    (step.before.askers, stats) ∈ yard.answers ↔ stats = yard.finalStats := by
  have stopped : ¬ step.before.isOpen = true := by simp [isOpen, shut]
  obtain ⟨possible, since, answers, last⟩ := run.step_of_mem taken
  rw [asks] at possible
  have told : step.after.answers =
      (step.before.askers, step.before.finalStats) :: step.before.answers := by
    rw [← Option.some.inj possible, askStats_of_shut stopped]
  have board : step.after.board = step.before.board := act_shut stopped possible
  obtain ⟨same, -⟩ := last (by simp [isOpen, board, shut])
  have final : step.before.finalStats = yard.finalStats :=
    (finalStats_of_board (same.trans board)).symm
  have given : (step.before.askers, yard.finalStats) ∈ yard.answers := by
    rw [answers, told, final]
    exact List.mem_append_right _ List.mem_cons_self
  refine ⟨fun other => ?_, fun equal => equal ▸ given⟩
  have once : (yard.answers.map Prod.fst).Nodup :=
    List.Nodup.of_append_right ((run_asked run).nodup_iff.mpr List.nodup_range)
  exact congrArg Prod.snd (List.inj_on_of_nodup_map once other given rfl)

/-! ### Those who wait for the end -/

/-- A call that waits for the end, with what it has returned if it has returned. -/
inductive Watcher where
  /-- It waits for the end alone. -/
  | closed (answer : Option (Except DispatchError Tally))
  /-- It has ended the input, and waits. -/
  | eof (reply : Option (Except Rpc.Error Wire.Summary))
deriving DecidableEq

/-- A call looks whether the end has come, and returns if it has. -/
def Watcher.look (yard : Yard σ) : Watcher → Option Watcher
  | .closed none => yard.board.await.map fun answer => .closed (some answer)
  | .eof none => (Rpc.Manager.eofReply yard).map fun reply => .eof (some reply)
  | .closed (some _) | .eof (some _) => none

/-- A yard and the calls that wait for its end. -/
structure Audience (σ : Type) where
  yard : Yard σ
  watchers : List Watcher := []

/-- What can happen in a yard that is watched. -/
inductive Deed where
  /-- A step of the yard. -/
  | act (action : Action)
  /-- Someone comes to wait for the end. -/
  | watch
  /-- Someone ends the input, whether it has ended or not, and waits. -/
  | endInput
  /-- One of those who wait looks whether the end has come. -/
  | look (number : Nat)

/-- What a deed makes of a yard that is watched, if it is possible, and the step that it is. -/
def Audience.perform (setting : Setting σ) (audience : Audience σ) :
    Deed → Option (List (Step σ) × Audience σ)
  | .act action => (audience.yard.act setting action).map fun after =>
    ([⟨audience.yard, action, after⟩], { audience with yard := after })
  | .watch => some ([], { audience with watchers := audience.watchers ++ [.closed none] })
  | .endInput =>
    let after := Rpc.Manager.endOfInput audience.yard
    some ([⟨audience.yard, .endOfInput, after⟩], ⟨after, audience.watchers ++ [.eof none]⟩)
  | .look number => (audience.watchers[number]?.bind (Watcher.look audience.yard)).map fun watcher =>
    ([], { audience with watchers := audience.watchers.set number watcher })

/-- The steps that lead from a fresh yard that nobody watches to another that is watched. -/
inductive Attended (setting : Setting σ) (kept : σ) : List (Step σ) → Audience σ → Prop
  | fresh : Attended setting kept [] { yard := { log := kept } }
  | perform {steps taken : List (Step σ)} {before after : Audience σ} {deed : Deed}
    (attended : Attended setting kept steps before)
    (possible : before.perform setting deed = some (taken, after)) :
    Attended setting kept (steps ++ taken) after

/-- One deed after another, if all of them are possible. -/
def attend (setting : Setting σ) :
    List Deed → List (Step σ) → Audience σ → Option (List (Step σ) × Audience σ)
  | [], steps, audience => some (steps, audience)
  | deed :: deeds, steps, audience => (audience.perform setting deed).bind fun next =>
    attend setting deeds (steps ++ next.1) next.2

theorem attended_of_attend {deeds : List Deed} {last : List (Step σ)} {audience after : Audience σ}
    (attended : Attended setting kept steps audience)
    (all : attend setting deeds steps audience = some (last, after)) :
    Attended setting kept last after := by
  induction deeds generalizing steps audience with
  | nil =>
    cases all
    exact attended
  | cons deed deeds hypothesis =>
    obtain ⟨next, possible, rest⟩ := Option.bind_eq_some_iff.mp all
    exact hypothesis (attended.perform possible) rest

/-- A call has returned nothing but what it would return now. -/
def Watcher.Tells (yard : Yard σ) : Watcher → Prop
  | .closed answer => ∀ told, answer = some told → yard.board.await = some told
  | .eof reply => ∀ told, reply = some told → Rpc.Manager.eofReply yard = some told

namespace Watcher.Tells

variable {watcher told : Watcher}

/-- What has been shown is shown in the next step, too. -/
theorem act (tells : watcher.Tells yard) (run : Run setting kept steps yard)
    (possible : yard.act setting action = some after) : watcher.Tells after := by
  obtain ⟨ending, -, board⟩ := run_board run
  cases ending with
  | none =>
    have nothing : yard.board.await = none := by rw [board]; rfl
    cases watcher with
    | closed answer =>
      intro told returned
      rw [tells told returned] at nothing
      cases nothing
    | eof reply =>
      intro told returned
      have shows := tells told returned
      rw [Rpc.Manager.eofReply, nothing] at shows
      cases shows
  | some ending =>
    have shut : ¬ yard.isOpen = true := by
      rw [isOpen_eq_true_iff, board]
      nofun
    have same := act_shut shut possible
    cases watcher with
    | closed answer => exact fun told returned => same ▸ tells told returned
    | eof reply =>
      intro told returned
      rw [Rpc.Manager.eofReply, same]
      exact tells told returned

/-- A call returns what is shown. -/
theorem look (returns : watcher.look yard = some told) : told.Tells yard := by
  cases watcher with
  | closed answer =>
    cases answer with
    | none =>
      obtain ⟨answer, shows, rfl⟩ := Option.map_eq_some_iff.mp returns
      rintro told ⟨⟩
      exact shows
    | some answer => cases returns
  | eof reply =>
    cases reply with
    | none =>
      obtain ⟨reply, shows, rfl⟩ := Option.map_eq_some_iff.mp returns
      rintro told ⟨⟩
      exact shows
    | some reply => cases returns

end Watcher.Tells

/-- **A call that has returned has returned what the board shows.** -/
theorem attended_tells {audience : Audience σ} (attended : Attended setting kept steps audience) :
    Run setting kept steps audience.yard ∧
      ∀ watcher ∈ audience.watchers, watcher.Tells audience.yard := by
  induction attended with
  | fresh => exact ⟨.fresh, nofun⟩
  | @perform steps taken before after deed _ possible hypothesis =>
    obtain ⟨run, tell⟩ := hypothesis
    cases deed with
    | act action =>
      obtain ⟨yard, acts, same⟩ := Option.map_eq_some_iff.mp possible
      cases same
      exact ⟨run.step acts, fun watcher member => (tell watcher member).act run acts⟩
    | watch =>
      cases possible
      rw [List.append_nil]
      refine ⟨run, fun watcher member => ?_⟩
      rcases List.mem_append.mp member with member | new
      · exact tell watcher member
      · obtain rfl := List.mem_singleton.mp new
        exact nofun
    | endInput =>
      cases possible
      have acts : before.yard.act setting .endOfInput = some (Rpc.Manager.endOfInput before.yard) :=
        rfl
      refine ⟨run.step acts, fun watcher member => ?_⟩
      rcases List.mem_append.mp member with member | new
      · exact (tell watcher member).act run acts
      · obtain rfl := List.mem_singleton.mp new
        exact nofun
    | look number =>
      obtain ⟨watcher, looks, same⟩ := Option.map_eq_some_iff.mp possible
      cases same
      rw [List.append_nil]
      refine ⟨run, fun other member => ?_⟩
      rcases List.mem_or_eq_of_mem_set member with member | rfl
      · exact tell other member
      · obtain ⟨asks, -, returns⟩ := Option.bind_eq_some_iff.mp looks
        exact .look returns

/-- One who waits for the end has returned what the event loop returns. -/
theorem attended_answered {audience : Audience σ} (attended : Attended setting kept steps audience)
    {answer : Except DispatchError Tally} (returned : .closed (some answer) ∈ audience.watchers) :
    result? steps = some answer := by
  obtain ⟨run, tell⟩ := attended_tells attended
  exact (run_await run).symm.trans (tell _ returned answer rfl)

/-- One who has ended the input has returned the summary of it, or the error of it. -/
theorem attended_replied {audience : Audience σ} (attended : Attended setting kept steps audience)
    {reply : Except Rpc.Error Wire.Summary} (returned : .eof (some reply) ∈ audience.watchers) :
    ∃ answer, result? steps = some answer ∧
      reply = (answer.map Wire.Summary.ofTally).mapError
        fun error => Rpc.Error.ofFailure (.dispatch error) := by
  obtain ⟨run, tell⟩ := attended_tells attended
  obtain ⟨answer, shows, rfl⟩ := Option.map_eq_some_iff.mp (tell _ returned reply rfl)
  refine ⟨answer, (run_await run).symm.trans shows, ?_⟩
  cases answer <;> rfl

/-! ### One end -/

/-- **All who watch a dispatcher see the same end.** The dispatcher is closed from the step on in
which the event loop ends. Before it no call that waits has returned, and from then on every one can.
If the event loop returns a tally then each that has returned has this tally or its summary, and
whoever is told the counters in that step or later, having asked before the end or after it, is told
this tally and nothing left. If it returns an error then each that has returned has this error. -/
theorem observers_agree {audience : Audience σ} (attended : Attended setting kept steps audience) :
    (∃ running stopped, steps.map (fun step => step.after.board.isClosed) =
        List.replicate running false ++ List.replicate stopped true ∧
      (0 < stopped ↔ (result? steps).isSome = true)) ∧
    (result? steps = none →
      ∀ watcher ∈ audience.watchers, watcher = .closed none ∨ watcher = .eof none) ∧
    ((result? steps).isSome = true → ∀ watcher ∈ audience.watchers,
      watcher = .closed none ∨ watcher = .eof none → (watcher.look audience.yard).isSome = true) ∧
    (∀ tally, result? steps = some (.ok tally) →
      (∀ answer, .closed (some answer) ∈ audience.watchers → answer = .ok tally) ∧
      (∀ reply, .eof (some reply) ∈ audience.watchers →
        reply = .ok ⟨tally.ok, tally.failed, tally.ok + tally.failed⟩) ∧
      (∀ step ∈ steps, step.after.board.isClosed = true → ∀ answer ∈ audience.yard.answers,
        answer ∈ step.before.answers ∨ answer.2 = closedStats tally) ∧
      ∀ step ∈ steps, step.action = .askStats → step.before.board.isClosed = true → ∀ stats,
        (step.before.askers, stats) ∈ audience.yard.answers ↔ stats = closedStats tally) ∧
    ∀ error, result? steps = some (.error error) →
      (∀ answer, .closed (some answer) ∈ audience.watchers → answer = .error error) ∧
      ∀ reply, .eof (some reply) ∈ audience.watchers →
        reply = .error (Rpc.Error.ofFailure (.dispatch error)) := by
  have run := (attended_tells attended).1
  refine ⟨?_, fun waits watcher member => ?_, fun ended watcher _ waits => ?_,
    fun tally returns => ⟨fun answer member => ?_, fun reply member => ?_, ?_, ?_⟩,
    fun error returns => ⟨fun answer member => ?_, fun reply member => ?_⟩⟩
  · obtain ⟨running, stopped, split, shut⟩ := run_closes_once run
    exact ⟨running, stopped, split, by rw [shut, run_isClosed run]⟩
  · cases watcher with
    | closed answer =>
      cases answer with
      | none => exact .inl rfl
      | some answer => cases waits.symm.trans (attended_answered attended member)
    | eof reply =>
      cases reply with
      | none => exact .inr rfl
      | some reply =>
        obtain ⟨answer, returns, -⟩ := attended_replied attended member
        cases waits.symm.trans returns
  · rcases waits with rfl | rfl
    · rw [Watcher.look, Option.isSome_map, run_await run, ended]
    · rw [Watcher.look, Option.isSome_map, Rpc.Manager.eofReply, Option.isSome_map, run_await run,
        ended]
  · exact (Option.some.inj (returns.symm.trans (attended_answered attended member))).symm
  · obtain ⟨answer, same, rfl⟩ := attended_replied attended member
    obtain rfl := Option.some.inj (returns.symm.trans same)
    rfl
  · rw [← run_finalStats run returns]
    exact fun step taken shut => run_answered_shut run taken shut
  · rw [← run_finalStats run returns]
    exact fun step taken asks shut stats => run_asks_shut run taken asks shut stats
  · exact (Option.some.inj (returns.symm.trans (attended_answered attended member))).symm
  · obtain ⟨answer, same, rfl⟩ := attended_replied attended member
    obtain rfl := Option.some.inj (returns.symm.trans same)
    rfl

/-- Two wait for the end, one of whom ends the input; a job is done while counters are asked for; two
more come when the dispatcher has closed, one of whom ends the input once more, and counters are
asked for again. -/
def fourWatch : List Deed :=
  [.watch, .act (.submit "true"), .act .request, .act .process, .act .process, .endInput,
    .act .process, .act (.report (.ok ⟨"job-1", "true"⟩)), .act .askStats, .act .process, .watch,
    .endInput, .look 0, .look 1, .look 2, .look 3, .act .askStats]

/-- The steps in which they do, and what comes of it. -/
def fourWatched : List (Step Unit) × Audience Unit :=
  (attend plain fourWatch [] { yard := { log := () } }).get (by decide +kernel)

theorem observers_agree_fourWatched :
    Attended plain () fourWatched.1 fourWatched.2 ∧
      result? fourWatched.1 = some (.ok ⟨1, 0⟩) ∧
      fourWatched.2.watchers = [.closed (some (.ok ⟨1, 0⟩)), .eof (some (.ok ⟨1, 0, 1⟩)),
        .closed (some (.ok ⟨1, 0⟩)), .eof (some (.ok ⟨1, 0, 1⟩))] ∧
      fourWatched.2.yard.answers = [(1, closedStats ⟨1, 0⟩), (0, closedStats ⟨1, 0⟩)] ∧
      ∀ answer, .closed (some answer) ∈ fourWatched.2.watchers → answer = .ok ⟨1, 0⟩ := by
  have all : attend plain fourWatch [] { yard := { log := () } } = some fourWatched :=
    (Option.some_get _).symm
  have attended : Attended plain () fourWatched.1 fourWatched.2 := attended_of_attend .fresh all
  have returns : result? fourWatched.1 = some (.ok ⟨1, 0⟩) := by rfl
  obtain ⟨-, -, -, tells, -⟩ := observers_agree attended
  obtain ⟨told, -⟩ := tells ⟨1, 0⟩ returns
  exact ⟨attended, returns, by rfl, by decide +kernel, told⟩

end Workyard.Yard
