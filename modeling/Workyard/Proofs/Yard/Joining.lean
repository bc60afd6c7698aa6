/-
**Waiting for the proxies of a pool loses none and sees none twice.**

Workers are added while others wait for all proxies; a proxy is started before it is recorded, and
only those recorded can be waited for. Whoever waits takes all that are recorded and taken by nobody,
sees each of them end, in this order, and is done when it finds none.

* `Pool`, `Move`: a yard with those who wait for its proxies, and what can happen;
* `enlisted`, `takings`: which proxies are recorded, and who takes them;
* `poolRun_enlisted`: what is recorded is taken, in order, or still there to be taken;
* `poolRun_attends`: whoever waits has seen those end that it took, but for those it still waits for;
* `join_complete`: what one who waited until the end has got;
* `getsDone_of_ready`: it comes to this end once all proxies recorded have ended.
-/

import Workyard.Proofs.Yard.Conduct
import Workyard.Yard.Join

namespace Workyard.Yard

open Dispatch
open scoped List

variable {σ : Type} {setting : Setting σ} {kept : σ} {yard after : Yard σ} {action : Action}
  {number : Nat}

/-! ### Ends are final -/

/-- What is so of the yard of every run: requests are answered once. -/
structure Sound (yard : Yard σ) : Prop where
  follows : ∃ steps : List (Step σ), Follows steps yard
  queued : yard.isOpen = true → Queued yard

namespace Sound

theorem of_run {steps : List (Step σ)} (run : Run setting kept steps yard) : Sound yard :=
  ⟨⟨steps, run_follows run⟩, run_queued run⟩

theorem act (sound : Sound yard) (possible : yard.act setting action = some after) : Sound after := by
  obtain ⟨⟨steps, follows⟩, queued⟩ := sound
  cases outside : action.isOutside with
  | true =>
    have appends := act_appends outside possible
    refine ⟨⟨_, follows.outside outside appends⟩, fun isOpen => ?_⟩
    have earlier := appends.isOpen_eq ▸ isOpen
    exact (queued earlier).outside earlier outside possible
  | false =>
    cases action with
    | process =>
      obtain ⟨earlier, -⟩ := process_eq_some possible
      exact ⟨⟨_, follows.process possible⟩, fun isOpen =>
        (queued earlier).process follows possible isOpen⟩
    | abandon =>
      obtain ⟨earlier, -, same⟩ := abandon_eq_some possible
      refine ⟨⟨_, follows.abandon possible⟩, fun isOpen => ?_⟩
      rw [isOpen_eq_true_iff, follows.shows_ending earlier rfl same] at isOpen
      cases isOpen
    | _ => cases outside

/-- Who waits for proxies does not matter. -/
theorem relist (sound : Sound yard) (unjoined : List Nat) : Sound { yard with unjoined } := by
  obtain ⟨⟨steps, follows⟩, queued⟩ := sound
  refine ⟨⟨steps, ?_⟩, fun isOpen => ?_⟩
  · cases follows with
    | going board course dispatcher sent => exact .going board course dispatcher sent
    | stopped ending lost board sent stopped => exact .stopped ending lost board sent stopped
  · obtain ⟨once, present, proxies, callers⟩ := queued isOpen
    exact ⟨once, present, proxies, callers⟩

/-- **A proxy that has ended has ended for good.** -/
theorem exit_act (sound : Sound yard) (possible : yard.act setting action = some after)
    {exit : Exit} (ended : yard.exit? number = some exit) : after.exit? number = some exit := by
  obtain ⟨⟨steps, follows⟩, queued⟩ := sound
  obtain ⟨proxy, found, exits⟩ := Option.bind_eq_some_iff.mp ended
  obtain ⟨inside, -⟩ := List.getElem?_eq_some_iff.mp found
  have other : action.proxy? ≠ some number := by
    intro own
    obtain ⟨next, -, dealing⟩ := act_dealing own possible found
    rw [dealing.running] at exits
    cases exits
  rcases act_around follows queued possible other inside with same | ⟨proxy, job, known, waits, -⟩
  · rw [exit?, same]
    exact ended
  · obtain rfl := Option.some.inj (known.symm.trans found)
    rw [waits] at exits
    cases exits

end Sound

/-! ### Pools -/

/-- Adds a worker as far as starting its proxy, which nobody can wait for yet. -/
def launch (address : String) (limit : Option Nat) (yard : Yard σ) : Yard σ × Bool :=
  let (after, added) := yard.addWorker address limit
  ({ after with unjoined := yard.unjoined }, added)

/-- Records a proxy as one to wait for. -/
def enlist (proxy : Nat) (yard : Yard σ) : Yard σ := { yard with unjoined := yard.unjoined ++ [proxy] }

/-- Adding a worker is starting its proxy and recording it. -/
theorem addWorker_eq_enlist (address : String) (limit : Option Nat) (yard : Yard σ) :
    yard.addWorker address limit =
      if (yard.launch address limit).2 then
        ((yard.launch address limit).1.enlist yard.proxies.length, true)
      else (yard, false) := by
  rcases addWorker_cases address limit yard with same | ⟨registry, same⟩ <;>
    simp [launch, enlist, same]

/-- A yard, the proxies of its pool that are started and not recorded, and those who wait for all. -/
structure Pool (σ : Type) where
  yard : Yard σ
  launched : List Nat := []
  joins : List Join := []

/-- What can happen in a pool. -/
inductive Move where
  /-- A step of the yard; in one that adds a worker its proxy is recorded at once. -/
  | act (action : Action)
  /-- A worker is added, but its proxy is not recorded yet. -/
  | launch (address : String) (limit : Option Nat)
  /-- A proxy that was started is recorded. -/
  | enlist (proxy : Nat)
  /-- Someone comes to wait for all proxies. -/
  | come
  /-- One of those who wait does what it does next. -/
  | wait (number : Nat)

/-- What a move makes of a pool, if it is possible. -/
def Pool.perform (setting : Setting σ) (pool : Pool σ) : Move → Option (Pool σ)
  | .act action => (pool.yard.act setting action).map fun yard => { pool with yard }
  | .launch address limit => some { pool with
      yard := (pool.yard.launch address limit).1
      launched := pool.launched ++
        if (pool.yard.launch address limit).2 then [pool.yard.proxies.length] else [] }
  | .enlist proxy =>
    if proxy ∈ pool.launched then
      some { pool with yard := pool.yard.enlist proxy, launched := pool.launched.erase proxy }
    else none
  | .come => some { pool with joins := pool.joins ++ [{}] }
  | .wait number => (pool.joins[number]?.bind (Join.step pool.yard)).map fun next =>
    { pool with yard := next.1, joins := pool.joins.set number next.2 }

/-- A move, with the pools before and after it. -/
structure Stride (σ : Type) where
  before : Pool σ
  move : Move
  after : Pool σ

/-- The moves that lead from a fresh pool to another. -/
inductive PoolRun (setting : Setting σ) (kept : σ) : List (Stride σ) → Pool σ → Prop
  | fresh : PoolRun setting kept [] { yard := { log := kept } }
  | move {strides : List (Stride σ)} {before after : Pool σ} {move : Move}
    (run : PoolRun setting kept strides before)
    (possible : before.perform setting move = some after) :
    PoolRun setting kept (strides ++ [⟨before, move, after⟩]) after

/-- One move after another, if all of them are possible. -/
def roll (setting : Setting σ) :
    List Move → List (Stride σ) → Pool σ → Option (List (Stride σ) × Pool σ)
  | [], strides, pool => some (strides, pool)
  | move :: moves, strides, pool => (pool.perform setting move).bind fun after =>
    roll setting moves (strides ++ [⟨pool, move, after⟩]) after

theorem poolRun_of_roll {moves : List Move} {strides last : List (Stride σ)} {pool after : Pool σ}
    (run : PoolRun setting kept strides pool)
    (rolled : roll setting moves strides pool = some (last, after)) :
    PoolRun setting kept last after := by
  induction moves generalizing strides pool with
  | nil =>
    cases rolled
    exact run
  | cons move moves hypothesis =>
    obtain ⟨next, possible, rest⟩ := Option.bind_eq_some_iff.mp rolled
    exact hypothesis (run.move possible) rest

/-! ### What is recorded and taken -/

/-- The proxy that an action records. -/
def enlisted? (yard : Yard σ) : Action → Option Nat
  | .addWorker address limit =>
    if (yard.addWorker address limit).2 then some yard.proxies.length else none
  | _ => none

/-- The proxy recorded by a move. -/
def Stride.enlisted? (stride : Stride σ) : Option Nat :=
  match stride.move with
  | .act action => stride.before.yard.enlisted? action
  | .enlist proxy => some proxy
  | _ => none

/-- The proxies taken by a move, each behind the number of the one who takes it. -/
def Stride.takings (stride : Stride σ) : List (Nat × Nat) :=
  match stride.move with
  | .wait number =>
    if stride.before.joins[number]?.map Join.batch = some [] then
      stride.before.yard.unjoined.map (number, ·)
    else []
  | _ => []

/-- The proxies recorded, in order. -/
def enlisted (strides : List (Stride σ)) : List Nat := strides.filterMap Stride.enlisted?

/-- The proxies taken, in order, each behind the number of the one who took it. -/
def takings (strides : List (Stride σ)) : List (Nat × Nat) := strides.flatMap Stride.takings

/-- The proxies taken by one who waits, in order. -/
def takenBy (number : Nat) (strides : List (Stride σ)) : List Nat :=
  ((takings strides).filter (·.1 = number)).map Prod.snd

/-- The proxies taken by others. -/
def takenByOthers (number : Nat) (strides : List (Stride σ)) : List Nat :=
  ((takings strides).filter (·.1 ≠ number)).map Prod.snd

theorem takings_append (strides later : List (Stride σ)) :
    takings (strides ++ later) = takings strides ++ takings later :=
  List.flatMap_append

theorem enlisted_append (strides later : List (Stride σ)) :
    enlisted (strides ++ later) = enlisted strides ++ enlisted later :=
  List.filterMap_append

theorem takenBy_append (number : Nat) (strides later : List (Stride σ)) :
    takenBy number (strides ++ later) = takenBy number strides ++ takenBy number later := by
  simp [takenBy, takings_append]

theorem enlisted_singleton (stride : Stride σ) : enlisted [stride] = stride.enlisted?.toList := by
  rw [enlisted, filterMap_cons_eq]
  exact List.append_nil _

theorem takings_singleton (stride : Stride σ) : takings [stride] = stride.takings := List.append_nil _

/-- One who does not move takes nothing. -/
theorem takenBy_of_other {number : Nat} {pool next : Pool σ} {move : Move}
    (other : move ≠ .wait number) : takenBy number [⟨pool, move, next⟩] = [] := by
  rw [takenBy, takings_singleton]
  cases move with
  | wait mover =>
    have different : mover ≠ number := fun same => other (congrArg Move.wait same)
    simp only [Stride.takings]
    split <;> simp [different]
  | _ => rfl

/-! ### One move -/

/-- What one who waits does next. -/
inductive Join.Steps (yard : Yard σ) (join : Join) : Yard σ → Join → Prop
  /-- It finds no more proxies and is done. -/
  | finds (none : join.batch = []) (nothing : yard.unjoined = []) :
    Steps yard join yard { join with finished := true }
  /-- It takes the proxies that nobody has taken. -/
  | takes (none : join.batch = []) (some : yard.unjoined ≠ []) :
    Steps yard join { yard with unjoined := [] } { join with batch := yard.unjoined }
  /-- It sees the next proxy end. -/
  | sees {number : Nat} {rest : List Nat} {exit : Exit} (next : join.batch = number :: rest)
    (ended : yard.exit? number = .some exit) :
    Steps yard join yard { join with batch := rest, exits := join.exits ++ [exit] }

theorem Join.steps_of_step {join next : Join} (possible : join.step yard = some (after, next)) :
    join.finished = false ∧ join.Steps yard after next := by
  unfold Join.step at possible
  split at possible
  · cases possible
  · next running =>
    refine ⟨by simpa using running, ?_⟩
    split at possible
    · next none =>
      split at possible <;> cases possible
      · next nothing => exact .finds none nothing
      · next some => exact .takes none some
    · next number rest batch =>
      obtain ⟨exit, ended, same⟩ := Option.map_eq_some_iff.mp possible
      cases same
      exact .sees batch ended

/-- One who gets done has found no more proxies. -/
theorem Join.Steps.finds_of_finished {join later : Join} (steps : join.Steps yard after later)
    (running : join.finished = false) (finished : later.finished = true) :
    join.batch = [] ∧ yard.unjoined = [] := by
  cases steps with
  | finds none nothing => exact ⟨none, nothing⟩
  | takes | sees =>
    rw [running] at finished
    cases finished

/-- Someone who moves does what it does next. -/
theorem perform_wait {pool next : Pool σ} (possible : pool.perform setting (.wait number) = some next) :
    ∃ join yard later, pool.joins[number]? = some join ∧ join.finished = false ∧
      join.Steps pool.yard yard later ∧
      next = { pool with yard, joins := pool.joins.set number later } := by
  obtain ⟨⟨yard, later⟩, steps, rfl⟩ := Option.map_eq_some_iff.mp possible
  obtain ⟨join, known, steps⟩ := Option.bind_eq_some_iff.mp steps
  obtain ⟨running, steps⟩ := Join.steps_of_step steps
  exact ⟨join, yard, later, known, running, steps, rfl⟩

/-- One who does not move stays as it is, if it has not just come. -/
theorem perform_joins {pool next : Pool σ} {move : Move}
    (possible : pool.perform setting move = some next) (other : move ≠ .wait number) :
    next.joins[number]? = pool.joins[number]? ∨
      (pool.joins[number]? = none ∧ next.joins[number]? = some {}) := by
  cases move with
  | act action =>
    obtain ⟨yard, -, rfl⟩ := Option.map_eq_some_iff.mp possible
    exact .inl rfl
  | launch address limit =>
    cases possible
    exact .inl rfl
  | enlist proxy =>
    obtain ⟨-, same⟩ := Option.ite_none_right_eq_some.mp possible
    cases same
    exact .inl rfl
  | come =>
    cases possible
    rcases Nat.lt_trichotomy number pool.joins.length with inside | rfl | beyond
    · exact .inl (List.getElem?_append_left inside)
    · exact .inr ⟨List.getElem?_eq_none (Nat.le_refl _), List.getElem?_concat_length⟩
    · refine .inl ?_
      rw [List.getElem?_eq_none (Nat.le_of_lt beyond), List.getElem?_eq_none]
      rw [List.length_append]
      exact beyond
  | wait mover =>
    obtain ⟨join, yard, later, -, -, -, rfl⟩ := perform_wait possible
    exact .inl (List.getElem?_set_ne fun same => other (congrArg Move.wait same))

theorem hand_unjoined (job : Option Job) (yard : Yard σ) (requester : Requester) :
    (yard.hand job requester).unjoined = yard.unjoined := by
  rw [hand_frame]

theorem take_unjoined (log : Log σ) (turn : Turn Requester Nat) (rest : List Message)
    (yard : Yard σ) : (yard.take log turn rest).unjoined = yard.unjoined := by
  refine take_view Yard.unjoined hand_unjoined (fun yard message => ?_) (fun _ _ => rfl) log turn rest
    yard
  cases message with
  | request requester => exact hand_unjoined none yard requester
  | _ => rfl

theorem ProxyStep.unjoined (step : ProxyStep number yard after) : after.unjoined = yard.unjoined := by
  obtain ⟨proxy, messages, phase, found, moves, rfl⟩ := step
  rfl

/-- A step of the yard records the proxy that it starts for the pool, and nobody else touches what is
recorded. -/
theorem act_unjoined (possible : yard.act setting action = some after) :
    after.unjoined = yard.unjoined ++ (yard.enlisted? action).toList := by
  cases action with
  | addWorker address limit =>
    cases possible
    rcases addWorker_cases address limit yard with same | ⟨registry, same⟩ <;>
      simp [enlisted?, same]
  | process =>
    obtain ⟨-, event, rest, -, rfl⟩ := process_eq_some possible
    exact (take_unjoined setting.log _ rest yard).trans (List.append_nil _).symm
  | abandon =>
    obtain ⟨-, -, rfl⟩ := abandon_eq_some possible
    exact (take_unjoined setting.log _ [] yard).trans (List.append_nil _).symm
  | connect => exact (connect_proxyStep possible).unjoined.trans (List.append_nil _).symm
  | callEnded => exact (callEnded_proxyStep possible).unjoined.trans (List.append_nil _).symm
  | advanceProxy => exact (advanceProxy_proxyStep possible).unjoined.trans (List.append_nil _).symm
  | startProxy | hold | release =>
    cases possible
    exact (List.append_nil _).symm
  | submit | endOfInput | report | askStats | request | withdraw =>
    cases possible
    refine Eq.trans ?_ (List.append_nil _).symm
    simp only [submit, endOfInput, report, send, askStats, request, withdraw]
    split <;> rfl

/-- **What a move does to the proxies recorded**: it adds the one that it records behind them, or takes
them all. -/
theorem perform_unjoined {pool next : Pool σ} {move : Move}
    (possible : pool.perform setting move = some next) :
    pool.yard.unjoined ++ (Stride.enlisted? ⟨pool, move, next⟩).toList =
      (Stride.takings ⟨pool, move, next⟩).map Prod.snd ++ next.yard.unjoined := by
  cases move with
  | act action =>
    obtain ⟨yard, acts, rfl⟩ := Option.map_eq_some_iff.mp possible
    exact (act_unjoined acts).symm
  | launch address limit =>
    cases possible
    exact List.append_nil _
  | enlist proxy =>
    obtain ⟨-, same⟩ := Option.ite_none_right_eq_some.mp possible
    cases same
    rfl
  | come =>
    cases possible
    exact List.append_nil _
  | wait number =>
    obtain ⟨join, yard, later, known, -, steps, rfl⟩ := perform_wait possible
    refine (List.append_nil _).trans ?_
    cases steps with
    | finds none nothing => simp [Stride.takings, known, none, nothing]
    | takes none some => simp [Stride.takings, known, none, Function.comp_def]
    | sees next ended => simp [Stride.takings, known, next]

/-- A move keeps the yard sound, and proxies that have ended have ended for good. -/
theorem perform_sound {pool next : Pool σ} {move : Move} (sound : Sound pool.yard)
    (possible : pool.perform setting move = some next) :
    Sound next.yard ∧
      ∀ proxy exit, pool.yard.exit? proxy = some exit → next.yard.exit? proxy = some exit := by
  cases move with
  | act action =>
    obtain ⟨yard, acts, rfl⟩ := Option.map_eq_some_iff.mp possible
    exact ⟨sound.act acts, fun proxy exit => sound.exit_act acts⟩
  | launch address limit =>
    cases possible
    have acts : pool.yard.act setting (.addWorker address limit) =
        some (pool.yard.addWorker address limit).1 := rfl
    exact ⟨(sound.act acts).relist _, fun proxy exit ended => sound.exit_act acts ended⟩
  | enlist proxy =>
    obtain ⟨-, same⟩ := Option.ite_none_right_eq_some.mp possible
    cases same
    exact ⟨sound.relist _, fun _ _ ended => ended⟩
  | come =>
    cases possible
    exact ⟨sound, fun _ _ ended => ended⟩
  | wait number =>
    obtain ⟨join, yard, later, -, -, steps, rfl⟩ := perform_wait possible
    cases steps with
    | finds | sees => exact ⟨sound, fun _ _ ended => ended⟩
    | takes => exact ⟨sound.relist [], fun _ _ ended => ended⟩

/-! ### Runs of a pool -/

section Runs

variable {strides : List (Stride σ)} {pool : Pool σ}

theorem poolRun_sound (run : PoolRun setting kept strides pool) : Sound pool.yard := by
  induction run with
  | fresh =>
    have run : Run setting kept [] { log := kept } := .fresh
    exact .of_run run
  | move _ possible hypothesis => exact (perform_sound hypothesis possible).1

/-- **What is recorded is taken, in order, or still there to be taken.** -/
theorem poolRun_enlisted (run : PoolRun setting kept strides pool) :
    enlisted strides = (takings strides).map Prod.snd ++ pool.yard.unjoined := by
  induction run with
  | fresh => rfl
  | @move strides before after move _ possible hypothesis =>
    rw [enlisted_append, takings_append, hypothesis, enlisted_singleton, takings_singleton,
      List.append_assoc, perform_unjoined possible, List.map_append, List.append_assoc]

/-- What an action records is the proxy that it starts. -/
theorem enlisted_newcomer (yard : Yard σ) (action : Action) :
    (∀ proxy, yard.enlisted? action = some proxy → proxy = yard.proxies.length) ∧
      (yard.enlisted? action).toList.length ≤ (yard.newcomer? action).toList.length := by
  cases action with
  | addWorker address limit =>
    simp only [enlisted?, newcomer?]
    split
    · exact ⟨fun proxy same => (Option.some.inj same).symm, Nat.le_refl _⟩
    · simp
  | _ => simp [enlisted?]

/-- A move records or starts at most one proxy that has not been started before. -/
theorem perform_launched {next : Pool σ} {move : Move}
    (possible : pool.perform setting move = some next) :
    ∃ newcomer : Option Nat,
      (∀ proxy, newcomer = some proxy → proxy = pool.yard.proxies.length) ∧
      pool.yard.proxies.length + newcomer.toList.length ≤ next.yard.proxies.length ∧
      (Stride.enlisted? ⟨pool, move, next⟩).toList ++ next.launched ~
        pool.launched ++ newcomer.toList := by
  cases move with
  | act action =>
    obtain ⟨yard, acts, rfl⟩ := Option.map_eq_some_iff.mp possible
    obtain ⟨new, fewer⟩ := enlisted_newcomer pool.yard action
    exact ⟨pool.yard.enlisted? action, new,
      (act_proxies_length acts).symm ▸ Nat.add_le_add_left fewer _, List.perm_append_comm⟩
  | launch address limit =>
    cases possible
    obtain ⟨new, fewer⟩ := enlisted_newcomer pool.yard (.addWorker address limit)
    have acts : pool.yard.act setting (.addWorker address limit) =
        some (pool.yard.addWorker address limit).1 := rfl
    refine ⟨pool.yard.enlisted? (.addWorker address limit), new,
      (act_proxies_length acts).symm ▸ Nat.add_le_add_left fewer _, ?_⟩
    by_cases added : (pool.yard.addWorker address limit).2 = true <;>
      simp [Stride.enlisted?, enlisted?, launch, added]
  | enlist proxy =>
    obtain ⟨member, same⟩ := Option.ite_none_right_eq_some.mp possible
    cases same
    refine ⟨none, nofun, Nat.le_refl _, ?_⟩
    rw [Option.toList_none, List.append_nil]
    exact (List.perm_cons_erase member).symm
  | come =>
    cases possible
    exact ⟨none, nofun, Nat.le_refl _, by simp [Stride.enlisted?]⟩
  | wait number =>
    obtain ⟨join, yard, later, -, -, steps, rfl⟩ := perform_wait possible
    refine ⟨none, nofun, ?_, by simp [Stride.enlisted?]⟩
    cases steps <;> exact Nat.le_refl _

/-- **No proxy is recorded twice**, and those that are started and not recorded are others. -/
theorem poolRun_nodup (run : PoolRun setting kept strides pool) :
    (enlisted strides ++ pool.launched).Nodup ∧
      ∀ proxy ∈ enlisted strides ++ pool.launched, proxy < pool.yard.proxies.length := by
  induction run with
  | fresh => exact ⟨List.nodup_nil, nofun⟩
  | @move strides before after move run possible hypothesis =>
    obtain ⟨distinct, started⟩ := hypothesis
    obtain ⟨newcomer, new, length, perm⟩ := perform_launched possible
    have all : enlisted (strides ++ [⟨before, move, after⟩]) ++ after.launched ~
        enlisted strides ++ before.launched ++ newcomer.toList := by
      rw [enlisted_append, List.append_assoc, List.append_assoc, enlisted_singleton]
      exact perm.append_left _
    constructor
    · rw [all.nodup_iff, List.nodup_append]
      refine ⟨distinct, by cases newcomer <;> simp, fun proxy old other added same => ?_⟩
      have latest := new other (Option.mem_toList.mp added)
      have earlier := started proxy old
      omega
    · intro proxy member
      rcases List.mem_append.mp (all.subset member) with old | added
      · have earlier := started proxy old
        omega
      · have latest := new proxy (Option.mem_toList.mp added)
        have one := List.length_pos_of_mem added
        omega

/-- What one who waits has seen: it has seen all those end that it took, in order, but for those in
its batch. -/
structure Attends (strides : List (Stride σ)) (pool : Pool σ) (number : Nat) (join : Join) : Prop where
  seen : ∃ seen, takenBy number strides = seen ++ join.batch ∧
    seen.map pool.yard.exit? = join.exits.map some
  done : join.finished = true → join.batch = []

/-- A move by which one who waits takes nothing. -/
theorem Attends.keep {next : Pool σ} {move : Move} {join : Join}
    (attends : Attends strides pool number join)
    (nothing : takenBy number [⟨pool, move, next⟩] = [])
    (final : ∀ proxy exit, pool.yard.exit? proxy = some exit → next.yard.exit? proxy = some exit) :
    Attends (strides ++ [⟨pool, move, next⟩]) next number join := by
  obtain ⟨⟨seen, taken, exits⟩, done⟩ := attends
  refine ⟨⟨seen, ?_, ?_⟩, done⟩
  · rw [takenBy_append, nothing, List.append_nil]
    exact taken
  · rw [← exits]
    refine List.map_congr_left fun proxy member => ?_
    have ended : pool.yard.exit? proxy ∈ join.exits.map some := exits ▸ List.mem_map_of_mem member
    obtain ⟨exit, -, same⟩ := List.mem_map.mp ended
    rw [← same]
    exact final proxy exit same.symm

/-- What one who waits takes: all that are recorded, if it waits for none. -/
theorem takenBy_wait {next : Pool σ} {join : Join} (known : pool.joins[number]? = some join) :
    takenBy number [⟨pool, .wait number, next⟩] =
      if join.batch = [] then pool.yard.unjoined else [] := by
  rw [takenBy, takings_singleton]
  by_cases none : join.batch = []
  · simp [Stride.takings, known, none, List.filter_map, Function.comp_def]
  · simp [Stride.takings, known, none]

/-- One who waits does what it does next. -/
theorem Attends.wait {join later : Join} {launched : List Nat} {joins : List Join}
    (attends : Attends strides pool number join) (known : pool.joins[number]? = some join)
    (running : join.finished = false) (steps : join.Steps pool.yard after later) :
    Attends (strides ++ [⟨pool, .wait number, ⟨after, launched, joins⟩⟩]) ⟨after, launched, joins⟩
      number later := by
  have taken : takenBy number [⟨pool, .wait number, ⟨after, launched, joins⟩⟩] =
      if join.batch = [] then pool.yard.unjoined else [] := takenBy_wait known
  obtain ⟨⟨seen, before, exits⟩, -⟩ := attends
  cases steps with
  | finds none nothing =>
    refine ⟨⟨seen, ?_, exits⟩, fun _ => none⟩
    rw [takenBy_append, taken, if_pos none, nothing, List.append_nil]
    exact before
  | takes none some =>
    refine ⟨⟨seen, ?_, exits⟩, fun finished => ?_⟩
    · rw [takenBy_append, taken, if_pos none, before, none, List.append_nil]
    · rw [running] at finished
      cases finished
  | @sees proxy rest exit next ended =>
    refine ⟨⟨seen ++ [proxy], ?_, ?_⟩, fun finished => ?_⟩
    · rw [takenBy_append, taken, if_neg (by simp [next]), before, next, List.append_nil]
      exact List.append_cons _ _ _
    · rw [List.map_append, exits, List.map_append]
      exact congrArg (_ ++ [·]) ended
    · rw [running] at finished
      cases finished

/-- **Whoever waits has seen all those end that it took**, but for those it still waits for, and nobody
has taken any before coming. -/
theorem poolRun_attends (run : PoolRun setting kept strides pool) (number : Nat) :
    (∀ join, pool.joins[number]? = some join → Attends strides pool number join) ∧
      (pool.joins[number]? = none → takenBy number strides = []) := by
  induction run with
  | fresh => exact ⟨nofun, fun _ => rfl⟩
  | @move strides before after move run possible hypothesis =>
    obtain ⟨attends, absent⟩ := hypothesis
    by_cases other : move = .wait number
    · subst other
      obtain ⟨earlier, yard, later, known, running, steps, rfl⟩ := perform_wait possible
      obtain ⟨inside, -⟩ := List.getElem?_eq_some_iff.mp known
      have now : (before.joins.set number later)[number]? = some later := List.getElem?_set_self inside
      refine ⟨fun join found => ?_, fun missing => ?_⟩
      · obtain rfl := Option.some.inj (now.symm.trans found)
        exact (attends earlier known).wait known running steps
      · cases now.symm.trans missing
    · have nothing : takenBy number [⟨before, move, after⟩] = [] := takenBy_of_other other
      have still (missing : before.joins[number]? = none) :
          takenBy number (strides ++ [⟨before, move, after⟩]) = [] := by
        rw [takenBy_append, absent missing, nothing]
        rfl
      obtain ⟨-, final⟩ := perform_sound (poolRun_sound run) possible
      rcases perform_joins possible other with same | ⟨missing, comes⟩
      · rw [same]
        exact ⟨fun join found => (attends join found).keep nothing final, still⟩
      · rw [comes]
        refine ⟨fun join found => ?_, nofun⟩
        obtain rfl := Option.some.inj found
        exact ⟨⟨[], still missing, rfl⟩, fun _ => rfl⟩

/-- A move in which one who waits for no proxy finds none. -/
structure Stride.FindsNone (number : Nat) (stride : Stride σ) : Prop where
  waits : stride.move = .wait number
  batch : stride.before.joins[number]?.map Join.batch = some []
  unjoined : stride.before.yard.unjoined = []

/-- **One who is done has found none**, and has not moved since. -/
theorem poolRun_finished (run : PoolRun setting kept strides pool) {join : Join}
    (found : pool.joins[number]? = some join) (finished : join.finished = true) :
    ∃ before pass later, strides = before ++ pass :: later ∧
      PoolRun setting kept before pass.before ∧ pass.FindsNone number ∧
      ∀ stride ∈ later, stride.move ≠ .wait number := by
  induction run generalizing join with
  | fresh => cases found
  | @move strides before after move run possible hypothesis =>
    by_cases other : move = .wait number
    · subst other
      obtain ⟨earlier, yard, next, known, running, steps, rfl⟩ := perform_wait possible
      obtain ⟨inside, -⟩ := List.getElem?_eq_some_iff.mp known
      have now : (before.joins.set number next)[number]? = some next := List.getElem?_set_self inside
      obtain rfl := Option.some.inj (now.symm.trans found)
      obtain ⟨none, nothing⟩ := steps.finds_of_finished running finished
      have batch : before.joins[number]?.map Join.batch = some [] := by
        rw [known]
        exact congrArg some none
      exact ⟨strides, ⟨before, .wait number, _⟩, [], rfl, run, ⟨rfl, batch, nothing⟩,
        fun _ member => absurd member List.not_mem_nil⟩
    · have earlier : before.joins[number]? = some join := by
        rcases perform_joins possible other with same | ⟨-, comes⟩
        · exact same.symm.trans found
        · obtain rfl := Option.some.inj (comes.symm.trans found)
          cases finished
      obtain ⟨front, pass, later, rfl, reached, finds, unmoved⟩ := hypothesis earlier finished
      refine ⟨front, pass, later ++ [⟨before, move, after⟩], by simp, reached, finds,
        fun stride member => ?_⟩
      rcases List.mem_append.mp member with old | last
      · exact unmoved stride old
      · rw [List.mem_singleton.mp last]
        exact other

/-- The proxies that one who waits takes are those that are taken and that no other takes, if none is
taken twice. -/
theorem takenBy_eq_filter (number : Nat) (distinct : ((takings strides).map Prod.snd).Nodup) :
    takenBy number strides =
      ((takings strides).map Prod.snd).filter (· ∉ takenByOthers number strides) := by
  rw [takenBy, List.filter_map]
  refine congrArg _ (List.filter_congr fun taking member => ?_)
  refine decide_eq_decide.mpr ⟨fun mine others => ?_, fun others => ?_⟩
  · obtain ⟨other, taken, same⟩ := List.mem_map.mp others
    obtain ⟨inside, different⟩ := List.mem_filter.mp taken
    obtain rfl := List.inj_on_of_nodup_map distinct inside member same
    simp [mine] at different
  · by_contra different
    exact others (List.mem_map_of_mem (List.mem_filter.mpr ⟨member, by simpa using different⟩))

theorem move_of_mem_takings {stride : Stride σ} {taking : Nat × Nat}
    (member : taking ∈ stride.takings) : stride.move = .wait taking.1 := by
  unfold Stride.takings at member
  split at member
  · next mover waits =>
    split at member
    · obtain ⟨proxy, -, rfl⟩ := List.mem_map.mp member
      exact waits
    · cases member
  · cases member

/-- While one who waits does not move only others take proxies. -/
theorem takings_of_unmoved {later : List (Stride σ)}
    (unmoved : ∀ stride ∈ later, stride.move ≠ .wait number) :
    takenBy number later = [] ∧ takenByOthers number later = (takings later).map Prod.snd := by
  have others : ∀ taking ∈ takings later, taking.1 ≠ number := by
    intro taking member same
    obtain ⟨stride, inside, taken⟩ := List.mem_flatMap.mp member
    exact unmoved stride inside (same ▸ move_of_mem_takings taken)
  constructor
  · rw [takenBy, List.filter_eq_nil_iff.mpr fun taking member => by simp [others taking member]]
    rfl
  · rw [takenByOthers,
      List.filter_eq_self.mpr fun taking member => by simp [others taking member]]

/-- A move in which one who waits finds none records and takes none. -/
theorem idle_of_findsNone {stride : Stride σ} (finds : stride.FindsNone number) :
    enlisted [stride] = [] ∧ takings [stride] = [] := by
  obtain ⟨before, move, after⟩ := stride
  obtain ⟨rfl, batch, unjoined⟩ := finds
  have batch : before.joins[number]?.map Join.batch = some [] := batch
  have unjoined : before.yard.unjoined = [] := unjoined
  exact ⟨rfl, by simp [takings_singleton, Stride.takings, batch, unjoined]⟩

/-- **Waiting for all proxies loses none and sees none twice.** Workers are added before and meanwhile,
others wait, too, and proxies end in any order. No proxy is recorded twice. One who waited until the end
has, in a last pass, found no more proxies; what it has got is one exit for each proxy that was recorded
before this pass and not taken by another, in the order in which they were recorded. It has taken no
others: those recorded later are left for whoever comes next, in this order. -/
theorem join_complete (run : PoolRun setting kept strides pool) {join : Join}
    (found : pool.joins[number]? = some join) (finished : join.finished = true) :
    (enlisted strides).Nodup ∧ ∃ before pass later, strides = before ++ pass :: later ∧
      pass.FindsNone number ∧
      takenBy number strides = (enlisted before).filter (· ∉ takenByOthers number before) ∧
      join.exits.map some = (takenBy number strides).map pool.yard.exit? ∧
      pool.yard.unjoined = (enlisted later).filter (· ∉ takenByOthers number later) := by
  have distinct : (enlisted strides).Nodup := (poolRun_nodup run).1.of_append_left
  obtain ⟨⟨seen, taken, exits⟩, done⟩ := (poolRun_attends run number).1 join found
  obtain ⟨before, pass, later, rfl, reached, finds, unmoved⟩ := poolRun_finished run found finished
  obtain ⟨nothingNew, nothingTaken⟩ := idle_of_findsNone finds
  obtain ⟨mine, others⟩ := takings_of_unmoved unmoved
  have all := poolRun_enlisted run
  have front := poolRun_enlisted reached
  rw [finds.unjoined, List.append_nil] at front
  rw [List.append_cons, enlisted_append, enlisted_append, nothingNew, List.append_nil] at distinct
  refine ⟨by rwa [List.append_cons, enlisted_append, enlisted_append, nothingNew, List.append_nil],
    before, pass, later, rfl, finds, ?_, ?_, ?_⟩
  · have nothing : takenBy number [pass] = [] := by rw [takenBy, nothingTaken]; rfl
    rw [List.append_cons, takenBy_append, takenBy_append, mine, nothing, List.append_nil,
      List.append_nil, front]
    exact takenBy_eq_filter number (front ▸ distinct.of_append_left)
  · rw [taken, done finished, List.append_nil, exits]
  · -- what is recorded after the last pass is taken by others or still there to be taken
    have rest : enlisted later = (takings later).map Prod.snd ++ pool.yard.unjoined := by
      rw [List.append_cons, enlisted_append, enlisted_append, takings_append, takings_append,
        nothingNew, nothingTaken, List.append_nil, List.append_nil, front, List.map_append,
        List.append_assoc] at all
      exact List.append_cancel_left all
    have apart := rest ▸ distinct.of_append_right
    obtain ⟨-, -, disjoint⟩ := List.nodup_append.mp apart
    rw [others, rest, List.filter_append,
      List.filter_eq_nil_iff.mpr fun proxy member => by simpa using member, List.nil_append]
    refine (List.filter_eq_self.mpr fun proxy member => ?_).symm
    exact decide_eq_true fun taken => disjoint proxy taken proxy member rfl

/-! ### Coming to an end -/

namespace Join

/-- All proxies that one who waits will see have ended, if no more are recorded. -/
def Ready (yard : Yard σ) (join : Join) : Prop :=
  ∀ proxy ∈ join.batch ++ yard.unjoined, ∃ exit, yard.exit? proxy = some exit

/-- How many more moves it makes at most before the one in which it finds none. -/
def remaining (yard : Yard σ) (join : Join) : Nat := join.batch.length + 2 * yard.unjoined.length

variable {join next : Join}

/-- One who waits can go on if the proxies that it waits for have ended. -/
theorem Ready.step_possible (ready : join.Ready yard) (running : join.finished = false) :
    ∃ next, join.step yard = some next := by
  cases batch : join.batch with
  | nil => simp [step, running, batch]
  | cons proxy rest =>
    obtain ⟨exit, exits⟩ := ready proxy (by simp [batch])
    simp [step, running, batch, exits]

theorem Ready.steps (ready : join.Ready yard) (steps : join.Steps yard after next) :
    next.Ready after := by
  intro proxy member
  cases steps with
  | finds => exact ready proxy member
  | takes none some => exact ready proxy (by simpa [none] using member)
  | sees batch ended =>
    refine ready proxy ?_
    rw [batch]
    exact List.mem_cons_of_mem _ member

/-- A move sees one proxy end, or makes a batch of those recorded. -/
theorem Steps.advances (steps : join.Steps yard after next) :
    next.finished = true ∨ next.remaining after < join.remaining yard := by
  cases steps with
  | finds => exact .inl rfl
  | takes none some =>
    have present := List.length_pos_iff.mpr some
    refine .inr ?_
    simp only [remaining, none, List.length_nil]
    omega
  | sees batch ended =>
    refine .inr ?_
    simp only [remaining, batch, List.length_cons]
    omega

end Join

/-- By moves of its own one who waits gets done. -/
def GetsDone (setting : Setting σ) (number : Nat) (strides : List (Stride σ)) (pool : Pool σ) : Prop :=
  ∃ moves last next join, (∀ move ∈ moves, move = .wait number) ∧
    roll setting moves strides pool = some (last, next) ∧
    next.joins[number]? = some join ∧ join.finished = true

theorem GetsDone.of_finished {join : Join} (known : pool.joins[number]? = some join)
    (finished : join.finished = true) : GetsDone setting number strides pool :=
  ⟨[], strides, pool, join, nofun, rfl, known, finished⟩

theorem GetsDone.of_wait {next : Pool σ} (possible : pool.perform setting (.wait number) = some next)
    (done : GetsDone setting number (strides ++ [⟨pool, .wait number, next⟩]) next) :
    GetsDone setting number strides pool := by
  obtain ⟨moves, last, final, join, own, rolled, found, finished⟩ := done
  refine ⟨.wait number :: moves, last, final, join, by simpa using own, ?_, found, finished⟩
  rw [roll, possible]
  exact rolled

/-- **Whoever waits gets done** by moves of its own once the proxies that it waits for and those that
are recorded have ended. -/
theorem getsDone_of_ready (strides : List (Stride σ)) (pool : Pool σ) (join : Join)
    (known : pool.joins[number]? = some join) (ready : join.Ready pool.yard) :
    GetsDone setting number strides pool := by
  cases running : join.finished with
  | true => exact .of_finished known running
  | false =>
    obtain ⟨⟨yard, next⟩, possible⟩ := ready.step_possible running
    obtain ⟨-, steps⟩ := Join.steps_of_step possible
    obtain ⟨inside, -⟩ := List.getElem?_eq_some_iff.mp known
    have now : (pool.joins.set number next)[number]? = some next := List.getElem?_set_self inside
    have performs : pool.perform setting (.wait number) =
        some { pool with yard, joins := pool.joins.set number next } := by
      simp [Pool.perform, known, possible]
    refine .of_wait performs ?_
    rcases steps.advances with finished | fewer
    · exact .of_finished now finished
    · exact getsDone_of_ready _ _ _ now (ready.steps steps)
termination_by join.remaining pool.yard
decreasing_by exact fewer

end Runs

/-- Two workers are added before someone waits, one meanwhile, and one is started meanwhile but recorded
behind the last pass. They end in another order than they were added in. -/
def lateWorkers : List Move :=
  [.act (.addWorker "a" none), .act (.addWorker "b" none), .come, .wait 0,
    .act (.addWorker "c" none), .launch "d" none, .act (.connect 1 false), .act .endOfInput,
    .act .process, .act (.connect 2 false), .act (.connect 0 true), .act (.advanceProxy 0),
    .act (.advanceProxy 0), .wait 0, .wait 0, .wait 0, .wait 0, .wait 0, .enlist 3]

/-- The moves by which they do, and what comes of them. -/
def lateWorkersRun : List (Stride Unit) × Pool Unit :=
  (roll plain lateWorkers [] { yard := { log := () } }).get (by decide +kernel)

theorem join_complete_lateWorkers :
    PoolRun plain () lateWorkersRun.1 lateWorkersRun.2 ∧
      lateWorkersRun.2.joins[0]? = some ⟨[], [.drained, .connectFailed, .connectFailed], true⟩ ∧
      lateWorkersRun.2.yard.unjoined = [3] ∧ (enlisted lateWorkersRun.1).Nodup ∧
      ∃ before pass later, lateWorkersRun.1 = before ++ pass :: later ∧ pass.FindsNone 0 ∧
        takenBy 0 lateWorkersRun.1 = (enlisted before).filter (· ∉ takenByOthers 0 before) ∧
        takenBy 0 lateWorkersRun.1 = [0, 1, 2] := by
  have rolled : roll plain lateWorkers [] { yard := { log := () } } = some lateWorkersRun :=
    (Option.some_get _).symm
  have run : PoolRun plain () lateWorkersRun.1 lateWorkersRun.2 := poolRun_of_roll .fresh rolled
  have found : lateWorkersRun.2.joins[0]? =
      some ⟨[], [.drained, .connectFailed, .connectFailed], true⟩ := by decide +kernel
  obtain ⟨distinct, before, pass, later, split, finds, taken, -⟩ := join_complete run found rfl
  exact ⟨run, found, by decide +kernel, distinct, before, pass, later, split, finds, taken,
    by decide +kernel⟩

end Workyard.Yard
