/-
**What becomes of the counters from one snapshot to the next.**

Answers are given once and for all, so that a run can be looked at where one answer is there and another
one is asked for. A dispatcher that closes does so in two goes: it closes its channel, and then it
publishes its ending. One who asks in between is told that nothing has been counted. A step of a yard
does both at once; so snapshots are timed in half steps here, and those taken within such a step count as
well.

* `act_answers`, `Run.answered_onward`: one who asks when an answer is there;
* `Run.before_closing`: what is answered before the dispatcher closes is in its tally;
* `Moment`, `Snapshot`: the snapshots of a run, those taken while the dispatcher closes among them;
* `stats_onward`: what can be said of a snapshot that is asked for when an earlier one is there;
* `stats_not_onward`: it may have forgotten that jobs were sent back.
-/

import Workyard.Proofs.Yard.Polling

namespace Workyard.Yard

open Dispatch
open scoped List

variable {σ : Type} {setting : Setting σ} {kept : σ} {yard after : Yard σ} {action : Action}

/-! ### Two snapshots of a run -/

/-- A dispatcher that has stopped stays so. -/
theorem act_shut (shut : ¬ yard.isOpen = true) (possible : yard.act setting action = some after) :
    after.board = yard.board := by
  cases outside : action.isOutside with
  | true => exact (act_appends outside possible).board
  | false =>
    cases action with
    | process => exact absurd (process_eq_some possible).1 shut
    | abandon => exact absurd (abandon_eq_some possible).1 shut
    | _ => cases outside

/-- Those answered in a turn, who get what the ending stands for if there is one. -/
theorem take_answered (log : Log σ) {turn : Turn Requester Nat} (rest : List Message)
    (silent : turn.ending.isSome → turn.answer = none) (isOpen : yard.isOpen = true) :
    ∃ since, (yard.take log turn rest).answers = since ++ yard.answers ∧
      (¬ (yard.take log turn rest).isOpen = true →
        ∀ answer ∈ since, answer.2 = (yard.take log turn rest).finalStats) := by
  rw [take_answers]
  cases stops : turn.ending with
  | none =>
    have still : (yard.take log turn rest).board = yard.board := by rw [take_board, stops]; rfl
    exact ⟨turn.answer.toList, rfl, fun shut => absurd isOpen (by rwa [← isOpen_of_board still])⟩
  | some ending =>
    refine ⟨(yard.take log turn rest).consoled rest, ?_, fun _ answer member => ?_⟩
    · rw [silent (by rw [stops]; rfl)]
      rfl
    · obtain ⟨asker, -, rfl⟩ := List.mem_map.mp (List.mem_reverse.mp member)
      rfl

/-- **Answers are given once and for all**, and those given once the dispatcher has stopped are what
its ending stands for. -/
theorem act_answers (possible : yard.act setting action = some after) :
    ∃ since, after.answers = since ++ yard.answers ∧
      (¬ after.isOpen = true → ∀ answer ∈ since, answer.2 = after.finalStats) := by
  cases action with
  | process =>
    obtain ⟨isOpen, event, rest, -, rfl⟩ := process_eq_some possible
    exact take_answered _ _ (handle_silent _ _ _) isOpen
  | abandon =>
    obtain ⟨isOpen, -, rfl⟩ := abandon_eq_some possible
    exact take_answered _ _ (fun _ => rfl) isOpen
  | askStats =>
    obtain rfl : yard.askStats.1 = after := Option.some.inj possible
    by_cases isOpen : yard.isOpen = true
    · rw [askStats_of_isOpen isOpen]
      exact ⟨[], rfl, nofun⟩
    · rw [askStats_of_shut isOpen]
      refine ⟨[(yard.askers, yard.finalStats)], rfl, fun _ answer member => ?_⟩
      obtain rfl := List.mem_singleton.mp member
      rfl
  | _ => exact ⟨[], (act_asides (by rfl) (by nofun) possible).2, nofun⟩

/-- What has been answered after a step of a run is there later, too; once the dispatcher has stopped
its ending stays, and all further answers are what it stands for. -/
theorem Run.step_of_mem {steps : List (Step σ)} (run : Run setting kept steps yard)
    {step : Step σ} (member : step ∈ steps) :
    step.before.act setting step.action = some step.after ∧
      ∃ since, yard.answers = since ++ step.after.answers ∧
        (¬ step.after.isOpen = true →
          yard.board = step.after.board ∧ ∀ answer ∈ since, answer.2 = yard.finalStats) := by
  induction run with
  | fresh => cases member
  | @step steps before after action run possible hypothesis =>
    rcases List.mem_append.mp member with member | isLast
    · obtain ⟨taken, since, split, shut⟩ := hypothesis member
      obtain ⟨now, answers, last⟩ := act_answers possible
      refine ⟨taken, now ++ since, by rw [answers, split, List.append_assoc], fun stopped => ?_⟩
      obtain ⟨board, told⟩ := shut stopped
      have shutBefore : ¬ before.isOpen = true := by rwa [isOpen_of_board board]
      have same := act_shut shutBefore possible
      have shutAfter : ¬ after.isOpen = true := by rwa [isOpen_of_board same]
      refine ⟨same.trans board, fun answer member => ?_⟩
      rcases List.mem_append.mp member with new | old
      · exact last shutAfter answer new
      · rw [told answer old, finalStats_of_board same]
    · obtain rfl := List.mem_singleton.mp isLast
      exact ⟨possible, [], rfl, fun _ => ⟨rfl, nofun⟩⟩

/-- The steps before a step of a run are a run, which leads to where the step starts. -/
theorem Run.step_at {steps : List (Step σ)} (run : Run setting kept steps yard) {number : Nat}
    {step : Step σ} (found : steps[number]? = some step) :
    Run setting kept (steps.take number) step.before := by
  induction run with
  | fresh => cases found
  | @step steps before after action run possible hypothesis =>
    rcases Nat.lt_or_ge number steps.length with inside | beyond
    · rw [List.getElem?_append_left inside] at found
      rw [List.take_append_of_le_length (Nat.le_of_lt inside)]
      exact hypothesis found
    · rw [List.getElem?_append_right beyond] at found
      cases behind : number - steps.length with
      | zero =>
        rw [behind] at found
        cases found
        obtain rfl := Nat.le_antisymm (Nat.le_of_sub_eq_zero behind) beyond
        rw [List.take_left]
        exact run
      | succ more =>
        rw [behind] at found
        cases found

/-- What is answered after a step of a run is there when a later step starts; once the dispatcher has
stopped its ending stays. -/
theorem Run.before_of_lt {steps : List (Step σ)} (run : Run setting kept steps yard)
    {first second : Nat} {step later : Step σ} (order : first < second)
    (found : steps[first]? = some step) (foundLater : steps[second]? = some later) :
    step.after.answers ⊆ later.before.answers ∧
      (¬ step.after.isOpen = true → later.before.board = step.after.board) := by
  have member : step ∈ steps.take second :=
    List.mem_of_getElem? ((List.getElem?_take_of_lt order).trans found)
  obtain ⟨-, since, split, shut⟩ := (run.step_at foundLater).step_of_mem member
  exact ⟨split ▸ List.subset_append_right since _, fun stopped => (shut stopped).1⟩

/-- One who has not asked has not been answered. -/
theorem Run.unanswered {steps : List (Step σ)} (run : Run setting kept steps yard) {number : Nat}
    (unasked : yard.askers ≤ number) (stats : Stats) : (number, stats) ∉ yard.answers := by
  intro known
  have asked := (run_asked run).subset (List.mem_append_right _ (List.mem_map_of_mem known))
  exact Nat.not_lt.mpr unasked (List.mem_range.mp asked)

/-- One who asks when an answer is there gets one from the same side of the end in which nothing is
less, or one made from an ending that has come in between. -/
theorem Run.answered_onward {steps : List (Step σ)} (run : Run setting kept steps yard)
    {number first second : Nat} {step : Step σ} {earlier later : Stats}
    (found : steps[number]? = some step) (returned : (first, earlier) ∈ step.before.answers)
    (asks : step.before.askers ≤ second) (answered : (second, later) ∈ yard.answers) :
    Below earlier later ∨ ∃ ending, yard.board.ending = some ending ∧
      earlier.closed = false ∧ later = ending.stats ∧ ∀ tally, ending = .closed tally →
        earlier.ok ≤ tally.ok ∧ earlier.failed ≤ tally.failed := by
  obtain ⟨possible, next, answers, -⟩ := run.step_of_mem (List.mem_of_getElem? found)
  obtain ⟨now, answersNow, -⟩ := act_answers possible
  obtain ⟨since, split⟩ : ∃ since, yard.answers = since ++ step.before.answers :=
    ⟨next ++ now, by rw [answers, answersNow, List.append_assoc]⟩
  have afterwards : (second, later) ∈ since :=
    (List.mem_append.mp (split ▸ answered)).resolve_right ((run.step_at found).unanswered asks later)
  cases run_polled run with
  | going board running ordered current =>
    rw [split] at ordered
    exact .inl ((List.pairwise_append.mp ordered).2.2 _ afterwards _ returned)
  | stopped ending board ordered current =>
    rw [split] at ordered
    cases (List.pairwise_append.mp ordered).2.2 _ afterwards _ returned with
    | within below => exact .inl below
    | across running stopped results => exact .inr ⟨ending, board, running, stopped, results⟩

/-! ### While the dispatcher closes -/

/-- Whether the dispatcher closes in a step. It does so in two goes: it closes the channel, and then it
publishes its ending. -/
structure Step.Closes (step : Step σ) (tally : Tally) : Prop where
  isOpen : step.before.isOpen = true
  ending : step.after.board.ending = some (.closed tally)

/-- The counters of one who finds the channel closed and no ending: nothing is counted. -/
def blankStats : Stats := { gotEof := true, closed := true }

theorem Step.Closes.finalStats {step : Step σ} {tally : Tally} (closes : step.Closes tally) :
    step.before.finalStats = blankStats ∧
      step.after.finalStats = (Ending.closed tally).stats := by
  have unpublished := (isOpen_eq_true_iff step.before).mp closes.isOpen
  exact ⟨by rw [Yard.finalStats, unpublished]; rfl, by rw [Yard.finalStats, closes.ending]⟩

theorem Step.Closes.shut {step : Step σ} {tally : Tally} (closes : step.Closes tally) :
    ¬ step.after.isOpen = true := by
  rw [isOpen_eq_true_iff, closes.ending]
  nofun

/-- The ending of a dispatcher that has closed is there in every later yard. -/
theorem Run.ending_of_closes {steps : List (Step σ)} (run : Run setting kept steps yard)
    {step : Step σ} {tally : Tally} (member : step ∈ steps) (closes : step.Closes tally) :
    yard.board.ending = some (.closed tally) := by
  obtain ⟨-, since, -, shut⟩ := run.step_of_mem member
  rw [(shut closes.shut).1, closes.ending]

/-- The results in an answer from before the dispatcher closes are in its tally. -/
theorem Run.before_closing {steps : List (Step σ)} (run : Run setting kept steps yard)
    {number first : Nat} {step : Step σ} {tally : Tally} {earlier : Stats}
    (found : steps[number]? = some step) (closes : step.Closes tally)
    (returned : (first, earlier) ∈ step.before.answers) :
    earlier.closed = false ∧ earlier.ok ≤ tally.ok ∧ earlier.failed ≤ tally.failed := by
  have led := run.step_at found
  obtain ⟨possible, -⟩ := run.step_of_mem (List.mem_of_getElem? found)
  obtain ⟨-, running, -, current⟩ := (run_polled led).of_isOpen closes.isOpen
  have open' : earlier.closed = false := (current _ returned).closed.trans running
  obtain ⟨since, answers, -⟩ := act_answers possible
  refine ⟨open', ?_⟩
  cases run_polled (led.step possible) with
  | going board =>
    have ending := closes.ending
    rw [board] at ending
    cases ending
  | stopped ending board ordered current =>
    obtain rfl : ending = .closed tally := Option.some.inj (board.symm.trans closes.ending)
    cases current _ (answers ▸ List.mem_append_right since returned) with
    | within below => exact absurd (open'.symm.trans below.closed) nofun
    | across running stopped results => exact results tally rfl

/-! ### Snapshots -/

/-- A time in a run: behind so many steps, or in the course of the next one. -/
inductive Moment where
  | behind (steps : Nat)
  | during (steps : Nat)

namespace Moment

/-- The number of half steps up to a moment. -/
def halves : Moment → Nat
  | behind steps => 2 * steps
  | during steps => 2 * steps + 1

instance : LE Moment := ⟨fun earlier later => earlier.halves ≤ later.halves⟩

variable {first second : Nat}

theorem behind_le_behind : behind first ≤ behind second ↔ first ≤ second := by
  show 2 * first ≤ 2 * second ↔ _
  omega

theorem behind_le_during : behind first ≤ during second ↔ first ≤ second := by
  show 2 * first ≤ 2 * second + 1 ↔ _
  omega

theorem during_le_behind : during first ≤ behind second ↔ first < second := by
  show 2 * first + 1 ≤ 2 * second ↔ _
  omega

end Moment

/-- **A snapshot**: when it is asked for in a run, when it is there, and what it says. All that others do
while the dispatcher closes they might do behind that step: whatever it is, no counter changes. -/
inductive Snapshot (steps : List (Step σ)) : Moment → Moment → Stats → Prop
  /-- One who asks in a step is answered in it or behind it. -/
  | answered {asked told : Nat} {step last : Step σ} {stats : Stats}
    (made : steps[asked]? = some step) (asks : step.action = .askStats)
    (returned : steps[told]? = some last)
    (among : (step.before.askers, stats) ∈ last.after.answers) :
    Snapshot steps (.behind asked) (.behind (told + 1)) stats
  /-- One who asks while the dispatcher closes finds the channel closed and looks for an ending that is
  not there yet. -/
  | between {number : Nat} {step : Step σ} {tally : Tally} (found : steps[number]? = some step)
    (closes : step.Closes tally) :
    Snapshot steps (.during number) (.during number) step.before.finalStats
  /-- One who asks while the dispatcher closes finds the channel closed and looks for an ending when it
  is there. -/
  | overtaken {number : Nat} {step : Step σ} {tally : Tally} (found : steps[number]? = some step)
    (closes : step.Closes tally) :
    Snapshot steps (.during number) (.behind (number + 1)) step.after.finalStats

/-- One who asks when the dispatcher has closed gets its tally. -/
theorem Run.answered_closed {steps : List (Step σ)} (run : Run setting kept steps yard)
    {first second : Nat} {step later : Step σ} {tally : Tally} {stats : Stats} (order : first < second)
    (found : steps[first]? = some step) (closes : step.Closes tally)
    (foundLater : steps[second]? = some later)
    (answered : (later.before.askers, stats) ∈ yard.answers) :
    stats = (Ending.closed tally).stats := by
  have member := List.mem_of_getElem? found
  obtain ⟨-, since, split, shut⟩ := run.step_of_mem member
  obtain ⟨known, -⟩ := run.before_of_lt order found foundLater
  have fresh := (run.step_at foundLater).unanswered (Nat.le_refl _) stats
  rw [split] at answered
  have afterwards := (List.mem_append.mp answered).resolve_right fun before => fresh (known before)
  refine ((shut closes.shut).2 _ afterwards).trans ?_
  rw [Yard.finalStats, run.ending_of_closes member closes]

/-- **How a snapshot compares with an earlier one**: it is from the same side of the end and nothing in
it is less, or the end has come in between. -/
theorem Run.snapshot_onward {steps : List (Step σ)} (run : Run setting kept steps yard)
    {asked told made returned : Moment} {earlier later : Stats}
    (first : Snapshot steps asked told earlier) (second : Snapshot steps made returned later)
    (order : told ≤ made) :
    Below earlier later ∨ ∃ ending, yard.board.ending = some ending ∧ earlier.closed = false ∧
      ((∃ number, made = .during number ∧ later = blankStats) ∨
        later = ending.stats ∧ ∀ tally, ending = .closed tally →
          earlier.ok ≤ tally.ok ∧ earlier.failed ≤ tally.failed) := by
  have there {told : Nat} {last : Step σ} (found : steps[told]? = some last) {answer : Nat × Stats}
      (among : answer ∈ last.after.answers) : answer ∈ yard.answers := by
    obtain ⟨-, since, split, -⟩ := run.step_of_mem (List.mem_of_getElem? found)
    exact split ▸ List.mem_append_right since among
  have blank (ending : Ending) : Below blankStats ending.stats :=
    ⟨Nat.zero_le _, Nat.zero_le _, Nat.zero_le _, id, rfl⟩
  cases first with
  | @answered _ told _ _ _ _ _ found among =>
    -- the earlier answer is there when the later one is asked for
    have early {number : Nat} {step : Step σ} (foundLater : steps[number]? = some step)
        (order : told < number) := (run.before_of_lt order found foundLater).1 among
    have counted {number : Nat} {step : Step σ} {tally : Tally}
        (foundLater : steps[number]? = some step) (closes : step.Closes tally)
        (order : told < number) : yard.board.ending = some (.closed tally) ∧ earlier.closed = false ∧
          earlier.ok ≤ tally.ok ∧ earlier.failed ≤ tally.failed :=
      ⟨run.ending_of_closes (List.mem_of_getElem? foundLater) closes,
        run.before_closing foundLater closes (early foundLater order)⟩
    cases second with
    | answered asked _ returned answered =>
      have known := early asked (Moment.behind_le_behind.mp order)
      refine (run.answered_onward asked known (Nat.le_refl _) (there returned answered)).imp_right ?_
      rintro ⟨ending, board, running, stopped, results⟩
      exact ⟨ending, board, running, .inr ⟨stopped, results⟩⟩
    | between found closes =>
      obtain ⟨board, running, -⟩ := counted found closes (Moment.behind_le_during.mp order)
      exact .inr ⟨_, board, running, .inl ⟨_, rfl, closes.finalStats.1⟩⟩
    | overtaken found closes =>
      obtain ⟨board, running, results⟩ := counted found closes (Moment.behind_le_during.mp order)
      refine .inr ⟨_, board, running, .inr ⟨closes.finalStats.2, ?_⟩⟩
      rintro tally ⟨⟩
      exact results
  | between found closes =>
    rw [closes.finalStats.1]
    cases second with
    | answered asked _ returned answered =>
      rw [run.answered_closed (Moment.during_le_behind.mp order) found closes asked
        (there returned answered)]
      exact .inl (blank _)
    | between _ closes =>
      rw [closes.finalStats.1]
      exact .inl (.refl _)
    | overtaken _ closes =>
      rw [closes.finalStats.2]
      exact .inl (blank _)
  | @overtaken number _ _ found closes =>
    rw [closes.finalStats.2]
    -- the dispatcher does not close a second time
    have once {later : Nat} {step : Step σ} (foundLater : steps[later]? = some step)
        (order : number < later) : ¬ step.before.isOpen = true := by
      obtain ⟨-, board⟩ := run.before_of_lt order found foundLater
      rw [isOpen_of_board (board closes.shut)]
      exact closes.shut
    cases second with
    | answered asked _ returned answered =>
      rw [run.answered_closed (Moment.behind_le_behind.mp order) found closes asked
        (there returned answered)]
      exact .inl (.refl _)
    | between found closes | overtaken found closes =>
      exact absurd closes.isOpen (once found (Moment.behind_le_during.mp order))

/-- **A snapshot is not behind an earlier one.** If counters are asked for when an earlier snapshot
is there, then neither the end of the input nor the end of the dispatcher is taken back, and no count
falls between two snapshots from before the end or two from after it. If the dispatcher ended between
them the later one is made from the ending: all results seen before are in it if the dispatcher
closed. Only one who asks between the closing of the channel and the publishing of the ending may find
nothing counted. -/
theorem stats_onward {steps : List (Step σ)} (run : Run setting kept steps yard)
    {asked told made returned : Moment} {earlier later : Stats}
    (first : Snapshot steps asked told earlier) (second : Snapshot steps made returned later)
    (order : told ≤ made) :
    (earlier.gotEof = true → later.gotEof = true) ∧
    (earlier.closed = true → later.closed = true) ∧
    (earlier.closed = later.closed → earlier.ok ≤ later.ok ∧ earlier.failed ≤ later.failed ∧
      earlier.reposted ≤ later.reposted) ∧
    (earlier.closed ≠ later.closed → ∃ ending, yard.board.ending = some ending ∧
      ((∃ number, made = .during number ∧ later = blankStats) ∨
        later = ending.stats ∧ ∀ tally, ending = .closed tally →
          earlier.ok ≤ later.ok ∧ earlier.failed ≤ later.failed)) := by
  rcases run.snapshot_onward first second order with
    below | ⟨ending, board, running, ⟨number, inside, rfl⟩ | ⟨rfl, results⟩⟩
  · exact ⟨below.gotEof, below.closed.symm.trans, fun _ => ⟨below.ok, below.failed, below.reposted⟩,
      fun differ => absurd below.closed differ⟩
  · exact ⟨fun _ => rfl, fun _ => rfl, fun same => Bool.noConfusion (running.symm.trans same),
      fun _ => ⟨ending, board, .inl ⟨number, inside, rfl⟩⟩⟩
  · refine ⟨fun _ => rfl, fun _ => rfl, fun same => Bool.noConfusion (running.symm.trans same),
      fun _ => ⟨ending, board, .inr ⟨rfl, ?_⟩⟩⟩
    rintro tally rfl
    exact results tally rfl

/-- A job is sent back and done, and counters are asked for; the input ends, and counters are asked for
again. -/
def oneSentBack : List Action :=
  [.submit "true", .request, .process, .process, .report (.repost ⟨"job-1", "true"⟩), .process,
    .request, .process, .report (.ok ⟨"job-1", "true"⟩), .process, .askStats, .process,
    .endOfInput, .process, .askStats]

/-- The run in which it is. -/
def oneSentBackRun : List (Step Unit) × Yard Unit :=
  (play plain oneSentBack [] { log := () }).get (by decide +kernel)

/-- What the first one who asks is told. -/
def doneStats : Stats := { ok := 1, reposted := 1 }

/-- What the last one is told. -/
def finishedStats : Stats := { ok := 1, gotEof := true, closed := true }

/-- The snapshots of this run, the second one taken while the dispatcher closes. -/
theorem oneSentBack_snapshots :
    Run plain () oneSentBackRun.1 oneSentBackRun.2 ∧
      Snapshot oneSentBackRun.1 (.behind 10) (.behind 12) doneStats ∧
      Snapshot oneSentBackRun.1 (.during 13) (.during 13) blankStats ∧
      Snapshot oneSentBackRun.1 (.behind 14) (.behind 15) finishedStats := by
  have played : play plain oneSentBack [] { log := () } = some oneSentBackRun :=
    (Option.some_get _).symm
  have first : Snapshot oneSentBackRun.1 (.behind 10) (.behind 12) doneStats :=
    .answered (List.getElem?_eq_getElem (by decide +kernel)) rfl
      (List.getElem?_eq_getElem (by decide +kernel)) (by decide +kernel)
  have second : Snapshot oneSentBackRun.1 (.during 13) (.during 13) blankStats :=
    .between (List.getElem?_eq_getElem (by decide +kernel))
      (⟨by decide +kernel, by decide +kernel⟩ : Step.Closes _ ⟨1, 0⟩)
  have third : Snapshot oneSentBackRun.1 (.behind 14) (.behind 15) finishedStats :=
    .answered (List.getElem?_eq_getElem (by decide +kernel)) rfl
      (List.getElem?_eq_getElem (by decide +kernel)) (by decide +kernel)
  exact ⟨run_of_play .fresh played, first, second, third⟩

theorem stats_onward_oneSentBack :
    Run plain () oneSentBackRun.1 oneSentBackRun.2 ∧
      Snapshot oneSentBackRun.1 (.behind 10) (.behind 12) doneStats ∧
      Snapshot oneSentBackRun.1 (.behind 14) (.behind 15) finishedStats ∧
      Moment.behind 12 ≤ .behind 14 ∧ doneStats.closed ≠ finishedStats.closed ∧
      ∃ ending, oneSentBackRun.2.board.ending = some ending ∧ finishedStats = ending.stats ∧
        ∀ tally, ending = .closed tally →
          doneStats.ok ≤ finishedStats.ok ∧ doneStats.failed ≤ finishedStats.failed := by
  obtain ⟨run, first, -, third⟩ := oneSentBack_snapshots
  have order : Moment.behind 12 ≤ .behind 14 := Moment.behind_le_behind.mpr (by decide)
  have differ : doneStats.closed ≠ finishedStats.closed := by decide
  obtain ⟨-, -, -, crosses⟩ := stats_onward run first third order
  obtain ⟨ending, board, ⟨number, inside, -⟩ | ⟨final, results⟩⟩ := crosses differ
  · cases inside
  · exact ⟨run, first, third, order, differ, ending, board, final, results⟩

/-- **A snapshot may be behind an earlier one**: that a job was sent back is forgotten when the
dispatcher closes. -/
theorem stats_not_onward :
    ¬ ∀ (steps : List (Step Unit)) (yard : Yard Unit) (asked told made returned : Moment)
      (earlier later : Stats), Run plain () steps yard → Snapshot steps asked told earlier →
      Snapshot steps made returned later → told ≤ made →
      earlier.ok ≤ later.ok ∧ earlier.failed ≤ later.failed ∧ earlier.reposted ≤ later.reposted ∧
        (earlier.gotEof = true → later.gotEof = true) ∧
        (earlier.closed = true → later.closed = true) := by
  intro onward
  obtain ⟨run, first, -, third⟩ := oneSentBack_snapshots
  have order : Moment.behind 12 ≤ .behind 14 := Moment.behind_le_behind.mpr (by decide)
  obtain ⟨-, -, reposted, -⟩ := onward _ _ _ _ _ _ _ _ run first third order
  exact absurd reposted (by decide)

end Workyard.Yard
