/-
**How often each job is run.**

A job is run once more each time that it is sent back, and a proxy that sends a job back ends. When
the dispatcher has closed, each job submitted was called once more than it was sent back, and only
its last call was not lost.

* `run_concluded`: what the calls come to in a run whose dispatcher has closed;
* `attempts_of_closed`: how often workers were called with each job, and all in all.
-/

import Workyard.Proofs.Dispatch.Results
import Workyard.Proofs.Yard.Acceptance
import Workyard.Proofs.Yard.Calls

namespace Workyard.Yard

open Dispatch
open scoped List

variable {σ : Type} {setting : Setting σ} {kept : σ} {steps : List (Step σ)} {yard : Yard σ}
  {tally : Tally}

/-! ### Runs whose dispatcher has closed -/

/-- **What the calls come to** in a run whose dispatcher has closed. -/
structure Concluded (steps : List (Step σ)) (yard : Yard σ) (tally : Tally) : Prop where
  /-- No call is in progress. -/
  calling : yard.calling = []
  /-- Each call that has begun has come out. -/
  begun : begun steps ~ (returned steps).map Call.job
  /-- Each call that has come out was reported, and the report was handled. -/
  reported : (returned steps).map Call.report ~ reports (handled steps)
  conclusive : Conclusive (returned steps)
  /-- Each job submitted has one result. -/
  resolved : resolved (handled steps) ~ submitted (handled steps)
  counts : Counts (handled steps) yard.dispatcher.ledger
  tally : yard.dispatcher.ledger.tally = tally
  /-- A proxy has ended disconnected for each job sent back. -/
  disconnected : yard.exits.count .disconnected = (sentBack (handled steps)).length

/-- Lists that agree in what is seen of their items agree if one is part of the other and no two of
its items look the same. -/
theorem perm_of_map_perm {α β : Type} {view : α → β} {items others : List α}
    (same : items.map view ~ others.map view) (distinct : (others.map view).Nodup)
    (subset : ∀ item ∈ items, item ∈ others) : items ~ others := by
  have once : items.Nodup := List.Pairwise.of_map view
    (fun _ _ different equal => different (congrArg view equal)) (same.nodup_iff.mpr distinct)
  have length : items.length = others.length := by simpa using same.length_eq
  exact (List.subperm_of_subset once subset).perm_of_length_le (Nat.le_of_eq length.symm)

theorem run_concluded (run : Run setting kept steps yard)
    (unreported : ∀ step ∈ steps, step.action.isReport = false)
    (distinct : ((submitted (handled steps)).map Job.id).Nodup)
    (closed : yard.board.ending = some (.closed tally)) : Concluded steps yard tally := by
  have shut : yard.isOpen = false := by
    rw [Bool.eq_false_iff, ne_eq, isOpen_eq_true_iff, closed]
    nofun
  have stilled := run_stopped run unreported distinct shut
  have accounts := run_calls run unreported distinct
  have follows := run_follows run
  -- nobody holds a job, so that no call is in progress and no report is about to be sent
  have nothing := (held_perm yard).symm
  rw [stilled.held] at nothing
  obtain ⟨-, work⟩ := List.append_eq_nil_iff.mp nothing.eq_nil
  obtain ⟨calling, reporting⟩ := List.append_eq_nil_iff.mp work
  have begun := accounts.begun
  rw [calling, List.append_nil] at begun
  have reported := accounts.reported
  rw [List.map_eq_nil_iff.mp reporting, List.append_nil, stilled.reports] at reported
  have disconnected := accounts.disconnected
  rw [sentBack, stilled.reports] at disconnected
  obtain ⟨before, last, lost, split, going, stops, -⟩ := follows.closed_split closed
  have events : (before ++ [last]).map Occasion.event = handled steps := by rw [handled, split]
  have ids := (closesAt_of_closed going stops).resolved
  rw [events] at ids
  obtain ⟨counts, counted⟩ := closed_counts going stops
  have dispatcher : yard.dispatcher = ((Course.of before).next last).dispatcher := by
    rcases run_dispatcher run with same | ⟨outstanding, aborted⟩
    · rw [same, split, Course.of_append_singleton, Course.extend_of_going going]
    · rw [closed] at aborted
      cases aborted
  rw [events, ← dispatcher] at counts
  rw [← dispatcher] at counted
  refine ⟨calling, begun, reported, accounts.conclusive,
    perm_of_map_perm ids distinct fun job member => ?_, counts, counted, disconnected⟩
  -- a result is that of a call, which was on a job submitted
  obtain ⟨report, inside, resolves⟩ := List.mem_filterMap.mp member
  obtain ⟨call, came, same⟩ := List.mem_map.mp (reported.mem_iff.mpr inside)
  have known := accounts.known call came
  rw [← same, call.report_resolved] at resolves
  obtain ⟨-, same⟩ := Option.ite_none_left_eq_some.mp resolves
  exact Option.some.inj same ▸ known

/-! ### The calls with one job -/

/-- What came of the calls with a job, in order. -/
def outcomes (steps : List (Step σ)) (job : Job) : List Outcome :=
  ((returned steps).filter fun call => call.job = job).map Call.outcome

/-- Of calls with one job that give a result, exactly the last was not lost. -/
theorem Conclusive.split {calls : List Call} (conclusive : Conclusive calls) (job : Job)
    (same : ∀ call ∈ calls, call.job = job)
    (concluded : ∃ call ∈ calls, call.outcome.isLost = false) :
    ∃ lost last, calls = lost ++ [last] ∧ (∀ call ∈ lost, call.outcome.isLost = true) ∧
      last.outcome.isLost = false := by
  rcases List.eq_nil_or_concat calls with rfl | ⟨lost, last, rfl⟩
  · obtain ⟨call, member, -⟩ := concluded
    cases member
  rw [List.concat_eq_append] at conclusive same concluded ⊢
  obtain ⟨-, -, followed⟩ := List.pairwise_append.mp conclusive
  have allLost : ∀ call ∈ lost, call.outcome.isLost = true := by
    intro call member
    by_contra given
    have jobs := (same call (by simp [member])).trans (same last (by simp)).symm
    exact followed call member last (by simp) (Bool.eq_false_iff.mpr given) (congrArg Job.id jobs)
  refine ⟨lost, last, rfl, allLost, ?_⟩
  obtain ⟨call, member, given⟩ := concluded
  rcases List.mem_append.mp member with earlier | final
  · rw [allLost call earlier] at given
    cases given
  · exact List.mem_singleton.mp final ▸ given

namespace Concluded

variable {job : Job}

/-- What is sent back are the jobs of the calls that were lost. -/
theorem sentBack_perm (concluded : Concluded steps yard tally) :
    sentBack (handled steps) ~ ((returned steps).filter (·.outcome.isLost)).map Call.job := by
  have views : ∀ calls : List Call, (calls.map Call.report).filterMap Report.sentBack? =
      (calls.filter (·.outcome.isLost)).map Call.job := by
    intro calls
    induction calls with
    | nil => rfl
    | cons call calls hypothesis =>
      rw [List.map_cons, List.filterMap_cons, call.report_sentBack, hypothesis]
      cases lost : call.outcome.isLost <;> simp [lost]
  rw [← views]
  exact (concluded.reported.filterMap Report.sentBack?).symm

/-- A job submitted has a result, which a call gave. -/
theorem has_result (concluded : Concluded steps yard tally)
    (member : job ∈ submitted (handled steps)) :
    ∃ call ∈ (returned steps).filter fun call => call.job = job, call.outcome.isLost = false := by
  obtain ⟨report, inside, resolves⟩ :=
    List.mem_filterMap.mp (concluded.resolved.mem_iff.mpr member)
  obtain ⟨call, came, same⟩ := List.mem_map.mp (concluded.reported.mem_iff.mpr inside)
  rw [← same, call.report_resolved] at resolves
  obtain ⟨given, named⟩ := Option.ite_none_left_eq_some.mp resolves
  exact ⟨call, List.mem_filter.mpr ⟨came, by simpa using Option.some.inj named⟩,
    Bool.eq_false_iff.mpr given⟩

/-- **Each job was called once more than it was sent back**, and exactly its last call was not
lost. -/
theorem calls (concluded : Concluded steps yard tally)
    (member : job ∈ submitted (handled steps)) :
    ∃ lost last, outcomes steps job = lost ++ [last] ∧
      (∀ outcome ∈ lost, outcome.isLost = true) ∧ last.isLost = false ∧
      lost.length = (sentBack (handled steps)).count job ∧
      (Yard.begun steps).count job = 1 + (sentBack (handled steps)).count job := by
  have once : Conclusive ((returned steps).filter fun call => call.job = job) :=
    concluded.conclusive.sublist List.filter_sublist
  obtain ⟨lost, last, split, allLost, given⟩ := once.split job
    (fun call member => by simpa using (List.mem_filter.mp member).2)
    (concluded.has_result member)
  have lostOnly : (lost ++ [last]).filter (·.outcome.isLost) = lost := by
    rw [List.filter_append, List.filter_eq_self.mpr allLost]
    simp [given]
  have sentBackCount : (sentBack (handled steps)).count job = lost.length := by
    calc (sentBack (handled steps)).count job
        = (((returned steps).filter (·.outcome.isLost)).map Call.job).count job :=
          concluded.sentBack_perm.count_eq job
      _ = (((returned steps).filter (·.outcome.isLost)).filter fun call => call.job = job).length := by
          rw [List.count, List.countP_map, List.countP_eq_length_filter]
          rfl
      _ = (((returned steps).filter fun call => call.job = job).filter (·.outcome.isLost)).length := by
          rw [List.filter_comm]
      _ = lost.length := by rw [split, lostOnly]
  have begunCount : (Yard.begun steps).count job = (lost ++ [last]).length := by
    rw [concluded.begun.count_eq job, List.count, List.countP_map, List.countP_eq_length_filter,
      ← split]
    rfl
  refine ⟨lost.map Call.outcome, last.outcome, ?_, ?_, given, ?_, ?_⟩
  · rw [outcomes, split, List.map_append]
    rfl
  · intro outcome member
    obtain ⟨call, inside, same⟩ := List.mem_map.mp member
    exact same ▸ allLost call inside
  · rw [List.length_map, sentBackCount]
  · rw [begunCount, sentBackCount, List.length_append, List.length_singleton, Nat.add_comm]

end Concluded

/-! ### Proxies of the pool -/

/-- Whether a worker is added to the pool in a step. -/
def Step.adds (step : Step σ) : Bool :=
  match step.action with
  | .addWorker address limit => (step.before.addWorker address limit).2
  | _ => false

theorem newcomer_pooled (step : Step σ) :
    (step.before.newcomer? step.action).toList.countP (·.pooled) = if step.adds then 1 else 0 := by
  obtain ⟨before, action, after⟩ := step
  cases action with
  | addWorker address limit =>
    cases added : (before.addWorker address limit).2 <;> simp [newcomer?, Step.adds, added]
  | _ => rfl

/-- **The pool has a proxy for each worker added**, whether it has ended or not. -/
theorem run_pooled (run : Run setting kept steps yard)
    (unreported : ∀ step ∈ steps, step.action.isReport = false) :
    yard.proxies.countP (·.pooled) = steps.countP Step.adds := by
  induction run with
  | fresh => rfl
  | @step steps before after action run possible hypothesis =>
    have earlier := hypothesis fun step member => unreported step (List.mem_append_left _ member)
    have newcomer := newcomer_pooled (Step.mk before action after)
    rw [List.countP_append, List.countP_singleton, ← earlier, ← newcomer]
    cases step_works run (unreported ⟨before, action, after⟩ (by simp)) possible with
    | nobody idles proxies => exact (congrArg _ proxies).trans List.countP_append
    | dispatcher idles nobodyNew given answers =>
      have same := answers.map_eq fun proxy answered (told : proxy.Answered given answered) => by
        show answered.pooled = proxy.pooled
        cases told <;> rfl
      rw [nobodyNew]
      have counted := congrArg (List.countP id) same
      rwa [List.countP_map, List.countP_map] at counted
    | @worker nobodyNew number proxy messages next works =>
      rw [nobodyNew]
      -- a proxy stays in the pool whatever it does
      obtain ⟨inside, same⟩ := List.getElem?_eq_some_iff.mp works.found
      rw [works.replaced, (List.set_perm_cons_eraseIdx inside _).countP_eq,
        ← (List.getElem_cons_eraseIdx_perm inside).countP_eq, List.countP_cons, List.countP_cons,
        same]
      rfl

/-- A proxy that sends a job back has held it. -/
theorem Phase.Moves.held_of_disconnected {number : Nat} {isOpen : Bool} {phase next : Phase}
    {messages : List Message} (moves : phase.Moves number isOpen messages next)
    (disconnected : next = .ended .disconnected) : phase.held?.isSome = true := by
  cases moves with
  | connects success => cases success <;> cases disconnected
  | collects job => cases job <;> cases disconnected
  | reports report taken | unheard report shut => rfl
  | asks taken | turnedAway shut | returns job outcome => cases disconnected

/-- Only proxies of the pool end disconnected if jobs are handed to no others. -/
theorem run_disconnected (run : Run setting kept steps yard)
    (unreported : ∀ step ∈ steps, step.action.isReport = false)
    (pooled : ∀ step ∈ steps, ∀ proxy ∈ step.before.proxies, proxy.phase.held?.isSome = true →
      proxy.pooled = true) :
    ∀ proxy ∈ yard.proxies, proxy.phase = .ended .disconnected → proxy.pooled = true := by
  induction run with
  | fresh => nofun
  | @step steps before after action run possible hypothesis =>
    have earlier := hypothesis (fun step member => unreported step (List.mem_append_left _ member))
      fun step member => pooled step (List.mem_append_left _ member)
    intro proxy member disconnected
    cases step_works run (unreported ⟨before, action, after⟩ (by simp)) possible with
    | nobody idles proxies =>
      have member : proxy ∈ before.proxies ++ (before.newcomer? action).toList := proxies ▸ member
      rcases List.mem_append.mp member with known | new
      · exact earlier proxy known disconnected
      · rw [newcomer_connecting (Option.mem_toList.mp new)] at disconnected
        cases disconnected
    | dispatcher idles nobodyNew given answers =>
      obtain ⟨number, found⟩ := List.getElem?_of_mem member
      obtain ⟨known, before, told⟩ := answers.source found
      cases told with
      | untouched => exact earlier proxy (List.mem_of_getElem? before) disconnected
      | told job pending among => cases disconnected
    | @worker nobodyNew number mover messages next works =>
      have member := works.replaced ▸ member
      rcases List.mem_or_eq_of_mem_set member with known | rfl
      · exact earlier proxy known disconnected
      · exact pooled ⟨before, action, after⟩ (by simp) mover (List.mem_of_getElem? works.found)
          (works.moves.held_of_disconnected disconnected)

/-! ### All calls -/

/-- The ways in which proxies have ended, counted. -/
theorem count_exits (yard : Yard σ) (exit : Exit) :
    yard.exits.count exit = yard.proxies.countP (·.phase = .ended exit) := by
  rw [exits, seen, List.count_filterMap]
  refine congrArg (List.countP · yard.proxies) (funext fun proxy => ?_)
  cases proxy.phase with
  | ended other => by_cases same : other = exit <;> simp [Phase.exit?, same]
  | _ => simp [Phase.exit?]

/-- **How often workers are called.** When the dispatcher of a yard has closed in which only proxies
report, and jobs were handed to proxies of the pool alone, each job submitted was called once more
than it was sent back, and exactly the last of its calls was not lost. All in all there were as many
calls as jobs were submitted and sent back; as many jobs were sent back as proxies ended
disconnected, which are no more than workers were added; and no call is in progress. -/
theorem attempts_of_closed (run : Run setting kept steps yard)
    (unreported : ∀ step ∈ steps, step.action.isReport = false)
    (pooled : ∀ step ∈ steps, ∀ proxy ∈ step.before.proxies, proxy.phase.held?.isSome = true →
      proxy.pooled = true)
    (distinct : ((accepted setting steps).map Job.id).Nodup)
    (closed : yard.board.ending = some (.closed tally)) :
    (∀ job ∈ submitted (handled steps),
      ∃ lost last, outcomes steps job = lost ++ [last] ∧
        (∀ outcome ∈ lost, outcome.isLost = true) ∧ last.isLost = false ∧
        lost.length = (sentBack (handled steps)).count job ∧
        (begun steps).count job = 1 + (sentBack (handled steps)).count job) ∧
    (begun steps).length = (submitted (handled steps)).length + yard.dispatcher.ledger.reposted ∧
    yard.dispatcher.ledger.reposted = (sentBack (handled steps)).length ∧
    yard.dispatcher.ledger.reposted = yard.proxies.countP (·.phase = .ended .disconnected) ∧
    yard.dispatcher.ledger.reposted ≤ steps.countP Step.adds ∧
    ∀ proxy ∈ yard.proxies, ∀ job, proxy.phase ≠ .calling job := by
  have distinctHandled := run_distinct run distinct
  have concluded := run_concluded run unreported distinctHandled closed
  have reposted := concluded.counts.reposted
  have disconnected : yard.dispatcher.ledger.reposted =
      yard.proxies.countP (·.phase = .ended .disconnected) := by
    rw [reposted, ← concluded.disconnected, count_exits]
  refine ⟨fun job member => concluded.calls member, ?_, reposted, disconnected, ?_, ?_⟩
  · calc (begun steps).length
        = (reports (handled steps)).length := by
          rw [concluded.begun.length_eq, List.length_map, ← concluded.reported.length_eq,
            List.length_map]
      _ = (submitted (handled steps)).length + yard.dispatcher.ledger.reposted := by
          rw [reports_length, concluded.resolved.length_eq, reposted]
  · rw [disconnected, ← run_pooled run unreported]
    refine List.countP_mono_left fun proxy member ended => ?_
    exact run_disconnected run unreported pooled proxy member (by simpa using ended)
  · intro proxy member job runs
    have inside : job ∈ yard.calling :=
      List.mem_filterMap.mpr ⟨proxy, member, by rw [runs]; rfl⟩
    rw [concluded.calling] at inside
    cases inside

/-- A worker is lost during a call, is added again and does the job. -/
def rejoining : List Action :=
  [.addWorker "a" none, .submit "true", .connect 0 true, .advanceProxy 0, .process, .process,
    .advanceProxy 0, .callEnded 0 (.late 5), .advanceProxy 0, .addWorker "a" none,
    .connect 1 true, .process, .advanceProxy 1, .process, .advanceProxy 1, .endOfInput,
    .callEnded 1 (.ok ()), .advanceProxy 1, .process, .process]

/-- The run in which it does. -/
def rejoiningRun : List (Step Unit) × Yard Unit :=
  (play plain rejoining [] { log := () }).get (by decide +kernel)

theorem attempts_of_closed_rejoining :
    Run plain () rejoiningRun.1 rejoiningRun.2 ∧
      (∀ step ∈ rejoiningRun.1, step.action.isReport = false) ∧
      (∀ step ∈ rejoiningRun.1, ∀ proxy ∈ step.before.proxies, proxy.phase.held?.isSome = true →
        proxy.pooled = true) ∧
      ((accepted plain rejoiningRun.1).map Job.id).Nodup ∧
      rejoiningRun.2.board.ending = some (.closed ⟨1, 0⟩) ∧
      sentBack (handled rejoiningRun.1) = [⟨"job-1", "true"⟩] ∧
      (begun rejoiningRun.1).length =
        (submitted (handled rejoiningRun.1)).length + rejoiningRun.2.dispatcher.ledger.reposted := by
  have played : play plain rejoining [] { log := () } = some rejoiningRun := (Option.some_get _).symm
  have run : Run plain () rejoiningRun.1 rejoiningRun.2 := run_of_play .fresh played
  have unreported : ∀ step ∈ rejoiningRun.1, step.action.isReport = false := by decide +kernel
  have pooled : ∀ step ∈ rejoiningRun.1, ∀ proxy ∈ step.before.proxies,
      proxy.phase.held?.isSome = true → proxy.pooled = true := by decide +kernel
  have distinct : ((accepted plain rejoiningRun.1).map Job.id).Nodup := by decide +kernel
  have closed : rejoiningRun.2.board.ending = some (.closed ⟨1, 0⟩) := by decide +kernel
  obtain ⟨_, calls, _⟩ := attempts_of_closed run unreported pooled distinct closed
  exact ⟨run, unreported, pooled, distinct, closed, by decide +kernel, calls⟩

end Workyard.Yard
