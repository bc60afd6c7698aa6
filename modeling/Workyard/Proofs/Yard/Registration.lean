/-
**One proxy to an address.**

The pool registers the address of a proxy in the step in which it starts it. A proxy that could not
reach its worker or has lost it gives the address back in the step in which it ends. Only a dispatcher
that has stopped tells a proxy that there is no more work, so that until then no proxy ends otherwise.

* `Yard.live`: the addresses of the proxies of the pool that have not ended;
* `Registered`: as long as the dispatcher takes events these are the addresses registered;
* `run_registered`: it is so in every run, and no address has two such proxies;
* `proxy_per_address`: what adding a worker therefore comes to.
-/

import Workyard.Proofs.Yard.Calls
import Workyard.Proofs.Yard.Observers

namespace Workyard.Yard

open Dispatch
open scoped List

variable {σ : Type} {setting : Setting σ} {kept : σ} {steps : List (Step σ)} {yard after : Yard σ}
  {action : Action}

/-! ### Addresses with a proxy -/

/-- The address that a proxy of the pool is there for until it ends. -/
def Proxy.live? (proxy : Proxy) : Option String :=
  if proxy.pooled && proxy.phase.exit?.isNone then some proxy.address else none

/-- The addresses of the proxies of the pool that have not ended. -/
def live (yard : Yard σ) : List String := yard.proxies.filterMap Proxy.live?

/-- Whether a proxy has been told that there is no more work. -/
def Phase.isDismissed : Phase → Bool
  | .handed none | .ended .drained => true
  | _ => false

theorem Proxy.live_of_running {proxy : Proxy} (running : proxy.phase.exit? = none) :
    proxy.live? = if proxy.pooled then some proxy.address else none := by
  simp [live?, running]

/-- An address that is new to a registry is registered with the others. -/
theorem insertAddress_perm {address : String} {addresses : List String}
    (new : address ∉ addresses) : insertAddress address addresses ~ address :: addresses := by
  induction addresses with
  | nil => exact List.Perm.refl _
  | cons first rest hypothesis =>
    obtain ⟨different, absent⟩ := not_or.mp (mt List.mem_cons.mpr new)
    rw [insertAddress, if_neg different]
    split
    · exact List.Perm.refl _
    · exact ((hypothesis absent).cons first).trans (List.Perm.swap address first rest)

/-! ### Steps that are not a proxy's -/

/-- A worker is added exactly if its address is not registered, and gets one proxy. -/
theorem addWorker_of_isOpen (isOpen : yard.isOpen = true) (address : String) (limit : Option Nat) :
    yard.addWorker address limit =
      if address ∈ yard.registry.addresses then (yard, false)
      else ({ yard with
          registry := (yard.registry.add address).1
          proxies := yard.proxies ++ [⟨address, limit, true, .connecting⟩]
          unjoined := yard.unjoined ++ [yard.proxies.length] }, true) := by
  by_cases known : address ∈ yard.registry.addresses <;>
    simp [addWorker, isOpen, Registry.add, Registry.contains, known]

theorem addWorker_of_shut (shut : ¬ yard.isOpen = true) (address : String) (limit : Option Nat) :
    yard.addWorker address limit = (yard, false) := by
  simp [addWorker, shut]

/-- Only adding a worker and a proxy that ends change what is registered. -/
theorem act_registry (bystanding : action.isBystanding = true)
    (other : ∀ address limit, action ≠ .addWorker address limit)
    (possible : yard.act setting action = some after) :
    after.registry = yard.registry ∧ after.live = yard.live := by
  cases action with
  | addWorker address limit => exact absurd rfl (other address limit)
  | startProxy address limit =>
    cases possible
    exact ⟨rfl, (List.filterMap_append).trans (List.append_nil _)⟩
  | hold | release =>
    cases possible
    exact ⟨rfl, rfl⟩
  | submit command =>
    cases possible
    unfold submit
    dsimp only
    split <;> exact ⟨rfl, rfl⟩
  | endOfInput | report report =>
    cases possible
    simp only [Yard.endOfInput, Yard.report, send]
    split <;> exact ⟨rfl, rfl⟩
  | askStats =>
    cases possible
    unfold askStats
    dsimp only
    split <;> exact ⟨rfl, rfl⟩
  | _ => cases bystanding

/-- Answering leaves the registry alone. -/
theorem hand_registry (job : Option Job) (yard : Yard σ) (requester : Requester) :
    (yard.hand job requester).registry = yard.registry := by
  rw [hand_frame]

/-- The dispatcher leaves the registry alone. -/
theorem take_registry (log : Log σ) (turn : Turn Requester Nat) (rest : List Message)
    (yard : Yard σ) : (yard.take log turn rest).registry = yard.registry := by
  refine take_view Yard.registry hand_registry (fun yard message => ?_) (fun _ _ => rfl) log turn
    rest yard
  cases message with
  | request requester => exact hand_registry none yard requester
  | _ => rfl

/-- A proxy that is answered has not ended, before and after. -/
theorem Answers.live_eq {given : List Job} (answers : Answers given yard after) :
    after.live = yard.live := by
  have same := answers.map_eq fun proxy answered (told : proxy.Answered given answered) => by
    show answered.live? = proxy.live?
    cases told with
    | untouched => rfl
    | told job pending among =>
      have running : proxy.phase.exit? = none := by
        cases phase : proxy.phase <;> rw [phase] at pending <;> first | rfl | cases pending
      rw [Proxy.live_of_running running]
      exact Proxy.live_of_running rfl
  have compose : ∀ yard : Yard σ, yard.live = (yard.proxies.map Proxy.live?).filterMap id :=
    fun yard => by rw [List.filterMap_map]; rfl
  rw [compose, compose, same]

/-! ### The registry and the proxies -/

/-- **The addresses registered are those of the proxies that have not ended**, as long as the
dispatcher takes events. -/
structure Registered (yard : Yard σ) : Prop where
  addresses : yard.registry.addresses ~ yard.live
  undismissed : ∀ proxy ∈ yard.proxies, proxy.phase.isDismissed = false

/-- A proxy is dismissed by a dispatcher that has stopped, and by no other. -/
theorem Phase.Moves.undismissed {number : Nat} {phase next : Phase} {messages : List Message}
    (moves : phase.Moves number true messages next) (still : phase.isDismissed = false) :
    next.isDismissed = false := by
  cases moves with
  | connects success => cases success <;> rfl
  | asks taken => rfl
  | turnedAway shut | unheard report shut => cases shut
  | collects job => cases job <;> first | rfl | cases still
  | returns job outcome => rfl
  | reports report taken => cases report <;> rfl

section ProxySteps

variable {number : Nat} {proxy : Proxy} {next : Phase} {messages : List Message}

/-- A proxy that takes a step keeps its address until it ends. -/
theorem live_of_set (found : yard.proxies[number]? = some proxy)
    (running : proxy.phase.exit? = none)
    (replaced : after.proxies = yard.proxies.set number { proxy with phase := next }) :
    (if next.exit?.isSome && proxy.pooled then [proxy.address] else []) ++ after.live ~
      yard.live := by
  have grown : proxy.live?.toList ++ after.live ~
      (Proxy.live? { proxy with phase := next }).toList ++ yard.live := by
    rw [live, replaced]
    exact filterMap_set_perm Proxy.live? found _
  rw [Proxy.live_of_running running] at grown
  cases pooled : proxy.pooled with
  | false => simpa [Proxy.live?, pooled] using grown
  | true =>
    cases ends : next.exit? with
    | none =>
      simp only [Proxy.live?, pooled, ends, Option.isNone_none, Bool.and_self, if_true,
        Option.toList_some] at grown
      simpa using (List.perm_append_left_iff _).mp grown
    | some exit => simpa [Proxy.live?, pooled, ends] using grown

/-- A proxy that ends, but is not told that there is no more work, gives its address back. -/
theorem setPhase_registry (yard : Yard σ) (number : Nat) (proxy : Proxy)
    (still : next.isDismissed = false) :
    (yard.setPhase number proxy next).registry =
      if next.exit?.isSome && proxy.pooled then (yard.registry.remove proxy.address).1
      else yard.registry := by
  cases next with
  | ended exit =>
    cases exit with
    | drained => cases still
    | _ => cases pooled : proxy.pooled <;> simp [setPhase, Phase.exit?, pooled]
  | _ => rfl

/-- The addresses with a proxy are distinct if they were before its step. -/
theorem ProxyStep.live_nodup (step : ProxyStep number yard after) (once : yard.live.Nodup) :
    after.live.Nodup := by
  obtain ⟨proxy, messages, next, found, moves, same⟩ := step
  have replaced : after.proxies = yard.proxies.set number { proxy with phase := next } := same ▸ rfl
  have left := live_of_set found moves.running replaced
  exact List.Nodup.of_append_right (left.symm.nodup_iff.mp once)

/-- A step of a proxy. -/
theorem Registered.move (registered : Registered yard) (once : yard.live.Nodup)
    (isOpen : yard.isOpen = true) (step : ProxyStep number yard after) : Registered after := by
  obtain ⟨proxy, messages, next, found, moves, same⟩ := step
  rw [isOpen] at moves
  have replaced : after.proxies = yard.proxies.set number { proxy with phase := next } := same ▸ rfl
  have still := moves.undismissed (registered.undismissed proxy (List.mem_of_getElem? found))
  have left := live_of_set found moves.running replaced
  have registry : after.registry = (yard.setPhase number proxy next).registry := same ▸ rfl
  rw [setPhase_registry yard number proxy still] at registry
  refine ⟨?_, fun other member => ?_⟩
  · rw [registry]
    cases gives : next.exit?.isSome && proxy.pooled with
    | false =>
      rw [gives] at left
      exact registered.addresses.trans left.symm
    | true =>
      rw [gives] at left
      have split : yard.registry.addresses ~ proxy.address :: after.live :=
        registered.addresses.trans left.symm
      have others : proxy.address ∉ after.live :=
        (List.nodup_cons.mp (left.symm.nodup_iff.mp once)).1
      have removed := split.filter (fun address => decide (address ≠ proxy.address))
      have unchanged : after.live.filter (fun address => decide (address ≠ proxy.address)) =
          after.live := List.filter_eq_self.mpr fun address member =>
        decide_eq_true fun equal => others (equal ▸ member)
      rwa [List.filter_cons_of_neg (by simp), unchanged] at removed
  · rw [replaced] at member
    rcases List.mem_or_eq_of_mem_set member with known | rfl
    · exact registered.undismissed other known
    · exact still

end ProxySteps

/-- One who is handed a job is not told that there is no more work. -/
theorem hand_undismissed (job : Job) (requester : Requester)
    (undismissed : ∀ proxy ∈ yard.proxies, proxy.phase.isDismissed = false) :
    ∀ proxy ∈ (yard.hand (some job) requester).proxies, proxy.phase.isDismissed = false := by
  cases requester with
  | caller number =>
    have same : (yard.hand (some job) (.caller number)).proxies = yard.proxies := by
      simp only [hand]
      split <;> rfl
    rwa [same]
  | proxy number =>
    intro proxy member
    obtain ⟨other, found⟩ := List.getElem?_of_mem member
    have found : (yard.proxies.modify number _)[other]? = some proxy := found
    rw [List.getElem?_modify] at found
    obtain ⟨earlier, known, rfl⟩ := Option.map_eq_some_iff.mp found
    by_cases same : number = other
    · rw [if_pos same]
      rfl
    · rw [if_neg same]
      exact undismissed earlier (List.mem_of_getElem? known)

/-! ### Steps of the pool -/

/-- A worker that is added gives its address to one more proxy. -/
theorem live_of_added (isOpen : yard.isOpen = true) {address : String} {limit : Option Nat}
    (new : address ∉ yard.registry.addresses) :
    (yard.addWorker address limit).1.live = yard.live ++ [address] := by
  rw [addWorker_of_isOpen isOpen, if_neg new]
  exact List.filterMap_append

namespace Registered

/-- A worker is added, or is not. -/
theorem addWorker (registered : Registered yard) (isOpen : yard.isOpen = true) (address : String)
    (limit : Option Nat) : Registered (yard.addWorker address limit).1 := by
  by_cases known : address ∈ yard.registry.addresses
  · rw [addWorker_of_isOpen isOpen, if_pos known]
    exact registered
  · refine ⟨?_, fun proxy member => ?_⟩
    · rw [live_of_added isOpen known, addWorker_of_isOpen isOpen, if_neg known]
      calc insertAddress address yard.registry.addresses
          ~ address :: yard.registry.addresses := insertAddress_perm known
        _ ~ address :: yard.live := registered.addresses.cons address
        _ ~ yard.live ++ [address] := (List.perm_append_singleton _ _).symm
    · rw [addWorker_of_isOpen isOpen, if_neg known] at member
      rcases List.mem_append.mp member with present | newcomer
      · exact registered.undismissed proxy present
      · rw [List.mem_singleton.mp newcomer]
        rfl

/-- An address that is added has no proxy yet. -/
theorem addWorker_nodup (registered : Registered yard) (once : yard.live.Nodup)
    (isOpen : yard.isOpen = true) (address : String) (limit : Option Nat) :
    (yard.addWorker address limit).1.live.Nodup := by
  by_cases known : address ∈ yard.registry.addresses
  · rw [addWorker_of_isOpen isOpen, if_pos known]
    exact once
  · rw [live_of_added isOpen known]
    refine (List.perm_append_singleton _ _).nodup_iff.mpr (List.nodup_cons.mpr ⟨?_, once⟩)
    exact fun inside => known (registered.addresses.mem_iff.mpr inside)

/-- A step that neither ends a proxy nor starts one of the pool. -/
theorem keep (registered : Registered yard) (registry : after.registry = yard.registry)
    (live : after.live = yard.live)
    (undismissed : ∀ proxy ∈ after.proxies, proxy.phase.isDismissed = false) : Registered after :=
  ⟨by rw [registry, live]; exact registered.addresses, undismissed⟩

/-- A dispatcher that goes on tells nobody that there is no more work. -/
theorem process (registered : Registered yard) (queued : Queued yard) (follows : Follows steps yard)
    (possible : yard.process setting.log = some after) (going : after.isOpen = true) :
    Registered after := by
  obtain ⟨given, answers, -⟩ := queued.process_answers follows possible
  refine registered.keep ?_ answers.live_eq ?_
  · obtain ⟨-, event, rest, -, same⟩ := process_eq_some possible
    rw [same, take_registry]
  · obtain ⟨event, rest, ledger, -, -, -, same⟩ := follows.process_going possible going
    rw [same]
    have start : ∀ proxy ∈ (yard.turned setting.log (yard.dispatcher.handle yard.presence event)
        rest).proxies, proxy.phase.isDismissed = false := registered.undismissed
    generalize yard.turned setting.log _ rest = turned at start ⊢
    generalize (yard.dispatcher.handle yard.presence event).delivered = jobs
    induction jobs generalizing turned with
    | nil => exact start
    | cons delivery jobs hypothesis =>
      exact hypothesis _ (hand_undismissed delivery.2 delivery.1 start)

end Registered

/-! ### Runs -/

/-- **The addresses registered are those of the proxies that have not ended**, in every run until the
dispatcher stops, and no address ever has two such proxies. -/
theorem run_registered (run : Run setting kept steps yard) :
    yard.live.Nodup ∧ (yard.isOpen = true → Registered yard) := by
  induction run with
  | fresh => exact ⟨List.nodup_nil, fun _ => ⟨List.Perm.refl _, nofun⟩⟩
  | @step steps before after action run possible hypothesis =>
    obtain ⟨once, registered⟩ := hypothesis
    -- what is so of the new yard while it is open follows from the old one, which was open too
    have earlier : after.isOpen = true → before.isOpen = true := fun isOpen => by
      by_contra shut
      exact shut (isOpen_of_board (act_shut shut possible) ▸ isOpen)
    have alone (registry : after.registry = before.registry)
        (proxies : after.proxies = before.proxies) :
        after.live.Nodup ∧ (after.isOpen = true → Registered after) := by
      have live : after.live = before.live := congrArg (List.filterMap Proxy.live?) proxies
      exact ⟨live ▸ once, fun isOpen => (registered (earlier isOpen)).keep registry live
        (proxies ▸ (registered (earlier isOpen)).undismissed)⟩
    cases act_involves possible with
    | nobody bystanding proxies callers =>
      by_cases adds : ∃ address limit, action = .addWorker address limit
      · obtain ⟨address, limit, rfl⟩ := adds
        cases possible
        by_cases isOpen : before.isOpen = true
        · exact ⟨(registered isOpen).addWorker_nodup once isOpen address limit,
            fun _ => (registered isOpen).addWorker isOpen address limit⟩
        · rw [addWorker_of_shut isOpen] at earlier ⊢
          exact ⟨once, registered⟩
      · obtain ⟨registry, live⟩ := act_registry bystanding
          (fun address limit same => adds ⟨address, limit, same⟩) possible
        refine ⟨live ▸ once, fun isOpen => (registered (earlier isOpen)).keep registry live
          fun proxy member => ?_⟩
        rw [proxies] at member
        rcases List.mem_append.mp member with known | newcomer
        · exact (registered (earlier isOpen)).undismissed proxy known
        · rw [newcomer_connecting (Option.mem_toList.mp newcomer)]
          rfl
    | proxy acts step =>
      exact ⟨step.live_nodup once, fun isOpen =>
        (registered (earlier isOpen)).move once (earlier isOpen) step⟩
    | request same =>
      refine alone ?_ ?_ <;>
        · rw [same, Yard.request]
          split <;> rfl
    | withdraw same =>
      refine alone ?_ ?_ <;>
        · rw [same, Yard.withdraw]
          split <;> rfl
    | process possible =>
      obtain ⟨isOpen, -⟩ := process_eq_some possible
      obtain ⟨given, answers, -⟩ :=
        (run_queued run isOpen).process_answers (run_follows run) possible
      exact ⟨answers.live_eq ▸ once, fun going =>
        (registered isOpen).process (run_queued run isOpen) (run_follows run) possible going⟩
    | abandon possible =>
      obtain ⟨isOpen, -, same⟩ := abandon_eq_some possible
      refine ⟨((run_queued run isOpen).abandon_answers possible).live_eq ▸ once, fun going => ?_⟩
      rw [isOpen_eq_true_iff, (run_follows run).shows_ending isOpen rfl same] at going
      cases going

/-- **One live proxy to an address.** In every run no address has two proxies of the pool that have not
ended. Until the event loop returns, the addresses registered are exactly those of such proxies;
adding a worker whose address is not among them succeeds, starts one proxy and registers the address,
and adding another fails and does nothing. Once the event loop has returned, adding a worker fails and
does nothing. -/
theorem proxy_per_address (run : Run setting kept steps yard) :
    yard.live.Nodup ∧
    (result? steps = none →
      yard.registry.addresses ~ yard.live ∧
      ∀ address limit,
        (address ∈ yard.live → yard.addWorker address limit = (yard, false)) ∧
        (address ∉ yard.live →
          (yard.addWorker address limit).2 = true ∧
          (yard.addWorker address limit).1.proxies =
            yard.proxies ++ [⟨address, limit, true, .connecting⟩] ∧
          (yard.addWorker address limit).1.registry.addresses ~
            address :: yard.registry.addresses)) ∧
    ((result? steps).isSome = true →
      ∀ address limit, yard.addWorker address limit = (yard, false)) := by
  obtain ⟨once, registered⟩ := run_registered run
  have shows : yard.isOpen = !(result? steps).isSome := by rw [isOpen, run_isClosed run]
  refine ⟨once, fun going => ?_, fun ended address limit => ?_⟩
  · rw [going] at shows
    have same := (registered shows).addresses
    refine ⟨same, fun address limit => ⟨fun present => ?_, fun new => ?_⟩⟩
    · rw [addWorker_of_isOpen shows, if_pos (same.mem_iff.mpr present)]
    · have unknown : address ∉ yard.registry.addresses := fun known => new (same.mem_iff.mp known)
      rw [addWorker_of_isOpen shows, if_neg unknown]
      exact ⟨rfl, rfl, insertAddress_perm unknown⟩
  · rw [ended] at shows
    exact addWorker_of_shut (by simp [shows]) address limit

/-- A worker is lost in a call, comes back, cannot be reached and comes back again; another one is added
meanwhile. -/
def lostTwice : List Action :=
  [.addWorker "a" none, .submit "true", .connect 0 true, .advanceProxy 0, .process, .process,
    .advanceProxy 0, .addWorker "a" none, .addWorker "b" none, .callEnded 0 (.late 5),
    .advanceProxy 0, .addWorker "a" none, .connect 2 false, .process, .addWorker "a" none,
    .connect 3 true, .advanceProxy 3, .process]

/-- The run in which it does. -/
def lostTwiceRun : List (Step Unit) × Yard Unit :=
  (play plain lostTwice [] { log := () }).get (by decide +kernel)

/-- Then the job is done, and the input ends. -/
def inTheEnd : List Action :=
  [.advanceProxy 3, .callEnded 3 (.ok ()), .advanceProxy 3, .endOfInput, .process, .process]

/-- The run with its end. -/
def endedRun : List (Step Unit) × Yard Unit :=
  (play plain inTheEnd lostTwiceRun.1 lostTwiceRun.2).get (by decide +kernel)

theorem proxy_per_address_lostTwice :
    Run plain () lostTwiceRun.1 lostTwiceRun.2 ∧ result? lostTwiceRun.1 = none ∧
      lostTwiceRun.2.proxies.length = 4 ∧ lostTwiceRun.2.live = ["b", "a"] ∧
      lostTwiceRun.2.addWorker "a" none = (lostTwiceRun.2, false) ∧
      (lostTwiceRun.2.addWorker "c" none).2 = true ∧
      Run plain () endedRun.1 endedRun.2 ∧ result? endedRun.1 = some (.ok ⟨1, 0⟩) ∧
      endedRun.2.addWorker "c" none = (endedRun.2, false) := by
  have played : play plain lostTwice [] { log := () } = some lostTwiceRun := (Option.some_get _).symm
  have run : Run plain () lostTwiceRun.1 lostTwiceRun.2 := run_of_play .fresh played
  have going : result? lostTwiceRun.1 = none := by decide +kernel
  have live : lostTwiceRun.2.live = ["b", "a"] := by decide +kernel
  have playedOn : play plain inTheEnd lostTwiceRun.1 lostTwiceRun.2 = some endedRun :=
    (Option.some_get _).symm
  have further : Run plain () endedRun.1 endedRun.2 := run_of_play run playedOn
  have ended : result? endedRun.1 = some (.ok ⟨1, 0⟩) := by rfl
  obtain ⟨-, running, -⟩ := proxy_per_address run
  obtain ⟨-, adds⟩ := running going
  obtain ⟨added, -⟩ := (adds "c" none).2 (by rw [live]; decide)
  obtain ⟨-, -, stopped⟩ := proxy_per_address further
  exact ⟨run, going, by decide +kernel, live, (adds "a" none).1 (by rw [live]; decide), added,
    further, ended, stopped (by rw [ended]; rfl) "c" none⟩

end Workyard.Yard
