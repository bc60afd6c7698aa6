/-
**In whose hands jobs are.**

A job that is handed to a proxy is held by it until it reports on the job, and is then carried by
the report until the dispatcher handles that. A caller keeps what it is handed. Nothing but these
steps changes who has what.

* `Yard.held`, `Yard.carried`, `Yard.taken`: the jobs that proxies hold, that reports carry and that
  callers have;
* `held_of_set`, `presence_of_set`: what one proxy changes by going to another phase;
* `hand_reaches`, `deliver_reaches`: what handing out jobs changes;
* `react_custody`: what an event changes;
* `Phase.Moves.held_eq`, `Phase.Moves.requester_eq`: what a step of a proxy changes.
-/

import Mathlib.Data.List.Perm.Basic
import Workyard.Proofs.Dispatch.Conservation
import Workyard.Proofs.Yard.Steps

namespace Workyard.Yard

open Dispatch
open scoped List

variable {σ α β : Type}

/-! ### Who holds what -/

/-- The jobs that proxies hold. -/
def held (yard : Yard σ) : List Job := yard.proxies.filterMap (·.phase.held?)

/-- The jobs that the reports in the channel are about. -/
def carried (yard : Yard σ) : List Job := (reports yard.channel).map Report.job

/-- The jobs that proxies hold or reports carry. -/
def custody (yard : Yard σ) : List Job := yard.held ++ yard.carried

/-- The job that a caller has been given. -/
def Caller.job? : Caller → Option Job
  | .answered job => job
  | _ => none

/-- The jobs that callers have been given. -/
def taken (yard : Yard σ) : List Job := yard.callers.filterMap Caller.job?

/-- Whether a proxy holds a job of this identifier. -/
def Proxy.holds (proxy : Proxy) (id : JobId) : Bool := proxy.phase.held?.any (·.id = id)

/-- Those who asked for a job and have no answer: the dispatcher knows of them, or their request is
in the channel. -/
def requests (yard : Yard σ) : List Requester :=
  yard.dispatcher.waiting ++ yard.channel.filterMap Event.requester?

theorem presence_proxy {yard : Yard σ} {number : Nat} {proxy : Proxy}
    (found : yard.proxies[number]? = some proxy) :
    yard.presence (.proxy number) = if proxy.phase = .waiting then .present else .gone := by
  simp only [presence, found]

/-- One who is present is a proxy or a caller that waits. -/
theorem present_iff {yard : Yard σ} {requester : Requester} :
    yard.presence requester = .present ↔
      (∃ number proxy, requester = .proxy number ∧ yard.proxies[number]? = some proxy ∧
        proxy.phase = .waiting) ∨
      ∃ number, requester = .caller number ∧ yard.callers[number]? = some .waiting := by
  cases requester with
  | caller number => by_cases waits : yard.callers[number]? = some .waiting <;> simp [presence, waits]
  | proxy number =>
    cases found : yard.proxies[number]? with
    | none => simp [presence, found]
    | some proxy => by_cases waits : proxy.phase = .waiting <;> simp [presence, found, waits]

/-! ### One proxy changes its phase -/

/-- Replacing an item of a list replaces what can be seen of it. -/
theorem filterMap_set_perm (view : β → Option α) {items : List β} {number : Nat} {item : β}
    (found : items[number]? = some item) (next : β) :
    (view item).toList ++ (items.set number next).filterMap view ~
      (view next).toList ++ items.filterMap view := by
  obtain ⟨inside, same⟩ := List.getElem?_eq_some_iff.mp found
  have replaced := (List.set_perm_cons_eraseIdx inside next).filterMap view
  have original := (List.getElem_cons_eraseIdx_perm inside).filterMap view
  rw [filterMap_cons_eq] at replaced original
  rw [same] at original
  calc (view item).toList ++ (items.set number next).filterMap view
      ~ (view item).toList ++ ((view next).toList ++ (items.eraseIdx number).filterMap view) :=
        replaced.append_left _
    _ ~ (view next).toList ++ ((view item).toList ++ (items.eraseIdx number).filterMap view) := by
        rw [← List.append_assoc, ← List.append_assoc]
        exact List.perm_append_comm.append_right _
    _ ~ (view next).toList ++ items.filterMap view := original.append_left _

section Replace

variable {yard after : Yard σ} {number : Nat} {proxy : Proxy} {next : Phase}

theorem held_of_set (found : yard.proxies[number]? = some proxy)
    (replaced : after.proxies = yard.proxies.set number { proxy with phase := next }) :
    proxy.phase.held?.toList ++ after.held ~ next.held?.toList ++ yard.held := by
  unfold held
  rw [replaced]
  exact filterMap_set_perm (fun proxy : Proxy => proxy.phase.held?) found _

theorem presence_of_set (found : yard.proxies[number]? = some proxy)
    (replaced : after.proxies = yard.proxies.set number { proxy with phase := next })
    (callers : after.callers = yard.callers) (requester : Requester) :
    after.presence requester =
      if requester = .proxy number then (if next = .waiting then .present else .gone)
      else yard.presence requester := by
  obtain ⟨inside, -⟩ := List.getElem?_eq_some_iff.mp found
  by_cases same : requester = .proxy number
  · subst same
    have now : after.proxies[number]? = some { proxy with phase := next } := by
      rw [replaced, List.getElem?_set_self inside]
    rw [if_pos rfl, presence_proxy now]
  · rw [if_neg same]
    cases requester with
    | caller other => simp only [presence, callers]
    | proxy other =>
      have different : number ≠ other := fun equal => same (congrArg Requester.proxy equal.symm)
      simp only [presence, replaced, List.getElem?_set_ne different]

end Replace

/-- One caller that waits is answered or gives up. -/
theorem presence_of_callers_set {yard after : Yard σ} {number : Nat} {caller : Caller}
    (inside : number < yard.callers.length)
    (replaced : after.callers = yard.callers.set number caller) (served : caller ≠ .waiting)
    (proxies : after.proxies = yard.proxies) (requester : Requester) :
    after.presence requester =
      if requester = .caller number then .gone else yard.presence requester := by
  cases requester with
  | proxy other => simp only [presence, proxies, reduceCtorEq, if_false]
  | caller other =>
    by_cases same : other = number
    · subst same
      simp [presence, replaced, List.getElem?_set_self inside, served]
    · have different : number ≠ other := fun equal => same equal.symm
      simp [presence, replaced, List.getElem?_set_ne different, same]

/-- A new proxy holds nothing and waits for nothing. -/
theorem held_append (yard : Yard σ) {newcomer : Option Proxy}
    (connecting : ∀ proxy, newcomer = some proxy → proxy.phase = .connecting) :
    (yard.proxies ++ newcomer.toList).filterMap (·.phase.held?) = yard.held := by
  cases newcomer with
  | none => rw [Option.toList_none, List.append_nil]; rfl
  | some proxy => simp [held, connecting proxy rfl, Phase.held?]

/-- Where nobody but a new proxy comes, nobody has got a job, lost one or come to wait. -/
theorem undisturbed {yard after : Yard σ} {newcomer : Option Proxy}
    (connecting : ∀ proxy, newcomer = some proxy → proxy.phase = .connecting)
    (proxies : after.proxies = yard.proxies ++ newcomer.toList)
    (callers : after.callers = yard.callers) :
    after.held = yard.held ∧ ∀ requester, after.presence requester = yard.presence requester := by
  refine ⟨by rw [held, proxies, held_append yard connecting], fun requester => ?_⟩
  cases requester with
  | caller number => simp only [presence, callers]
  | proxy number =>
    simp only [presence, proxies]
    rcases Nat.lt_or_ge number yard.proxies.length with inside | beyond
    · rw [List.getElem?_append_left inside]
    · rw [List.getElem?_append_right beyond, List.getElem?_eq_none beyond]
      cases newcomer with
      | none => rfl
      | some proxy =>
        cases number - yard.proxies.length with
        | zero => simp [connecting proxy rfl]
        | succ more => rfl

/-! ### Handing out jobs -/

theorem hand_proxies {yard : Yard σ} {number : Nat} {proxy : Proxy} (job : Option Job)
    (found : yard.proxies[number]? = some proxy) :
    (yard.hand job (.proxy number)).proxies =
      yard.proxies.set number { proxy with phase := .handed job } := by
  show yard.proxies.modify number _ = _
  rw [List.modify_eq_set_getElem?, found]
  rfl

/-- Answering others leaves a proxy alone. -/
theorem hand_proxies_of_ne {number : Nat} {other : Requester} (different : other ≠ .proxy number)
    (job : Option Job) (yard : Yard σ) :
    (yard.hand job other).proxies[number]? = yard.proxies[number]? := by
  cases other with
  | caller place =>
    simp only [hand]
    split <;> rfl
  | proxy place =>
    have apart : place ≠ number := fun equal => different (congrArg Requester.proxy equal)
    exact List.getElem?_modify_ne _ _ apart

/-- An answer reaches one who is present, and no one else is concerned. -/
theorem hand_reaches {yard : Yard σ} {requester : Requester}
    (present : yard.presence requester = .present) (job : Option Job) :
    (yard.hand job requester).held ++ (yard.hand job requester).taken ~
        job.toList ++ (yard.held ++ yard.taken) ∧
      (yard.hand job requester).callers.length = yard.callers.length ∧
      ∀ other, (yard.hand job requester).presence other =
        if other = requester then .gone else yard.presence other := by
  rcases present_iff.mp present with ⟨number, proxy, rfl, found, waits⟩ | ⟨number, rfl, waits⟩
  · have replaced := hand_proxies job found
    have callers : (yard.hand job (.proxy number)).callers = yard.callers := rfl
    have grown := held_of_set found replaced
    rw [waits] at grown
    refine ⟨?_, rfl, presence_of_set found replaced callers⟩
    rw [← List.append_assoc]
    exact grown.append_right _
  · obtain ⟨inside, -⟩ := List.getElem?_eq_some_iff.mp waits
    have same : yard.hand job (.caller number) =
        { yard with callers := yard.callers.set number (.answered job) } := if_pos waits
    have grown : (yard.callers.set number (.answered job)).filterMap Caller.job? ~
        job.toList ++ yard.taken := filterMap_set_perm Caller.job? waits _
    rw [same]
    refine ⟨?_, List.length_set, presence_of_callers_set inside rfl nofun rfl⟩
    calc yard.held ++ (yard.callers.set number (.answered job)).filterMap Caller.job?
        ~ yard.held ++ (job.toList ++ yard.taken) := grown.append_left _
      _ ~ job.toList ++ (yard.held ++ yard.taken) := by
          rw [← List.append_assoc, ← List.append_assoc]
          exact List.perm_append_comm.append_right _

/-- A delivery reaches those who are present, and no one else is concerned. -/
theorem deliver_reaches {jobs : List (Requester × Job)} {yard : Yard σ}
    (distinct : (jobs.map Prod.fst).Nodup)
    (present : ∀ requester ∈ jobs.map Prod.fst, yard.presence requester = .present) :
    (yard.deliver jobs).held ++ (yard.deliver jobs).taken ~
        jobs.map Prod.snd ++ (yard.held ++ yard.taken) ∧
      (yard.deliver jobs).callers.length = yard.callers.length ∧
      ∀ requester, (yard.deliver jobs).presence requester =
        if requester ∈ jobs.map Prod.fst then .gone else yard.presence requester := by
  induction jobs generalizing yard with
  | nil => exact ⟨List.Perm.refl _, rfl, fun requester => by simp [deliver]⟩
  | cons delivery jobs hypothesis =>
    obtain ⟨requester, job⟩ := delivery
    rw [List.map_cons, List.nodup_cons] at distinct
    -- the first is handed its job, and the others are still present
    obtain ⟨first, sameNumber, others⟩ := hand_reaches (present requester (by simp)) (some job)
    obtain ⟨grown, sameLength, gone⟩ := hypothesis distinct.2 fun other member => by
      have different : other ≠ requester := fun same => distinct.1 (same ▸ member)
      rw [others, if_neg different]
      exact present other (List.mem_cons_of_mem _ member)
    refine ⟨?_, sameLength.trans sameNumber, fun other => ?_⟩
    · calc ((yard.hand (some job) requester).deliver jobs).held ++
            ((yard.hand (some job) requester).deliver jobs).taken
          ~ jobs.map Prod.snd ++ ((yard.hand (some job) requester).held ++
              (yard.hand (some job) requester).taken) := grown
        _ ~ jobs.map Prod.snd ++ (job :: (yard.held ++ yard.taken)) := first.append_left _
        _ ~ job :: jobs.map Prod.snd ++ (yard.held ++ yard.taken) := List.perm_middle
    · show ((yard.hand (some job) requester).deliver jobs).presence other = _
      rw [gone, others, List.map_cons]
      by_cases same : other = requester
      · subst same
        simp
      · simp only [List.mem_cons, same, false_or, if_false]

/-! ### What an event does with its job -/

/-- A job that is handed out leaves the ledger with the report on it; jobs come from submissions. -/
theorem react_custody {event : Message} {rest : List Message} {ledger next : Ledger}
    {held : List Job} (distinct : (ledger.inFlight.map Job.id).Nodup)
    (reacted : ledger.react event = .ok next)
    (custody : ledger.inFlight ~ held ++ (reports (event :: rest)).map Report.job) :
    next.inFlight ~ held ++ (reports rest).map Report.job ∧
      ∀ job ∈ next.queue ++ next.inFlight,
        job ∈ ledger.queue ++ ledger.inFlight ∨ job ∈ submitted [event] := by
  cases event with
  | submit job =>
    cases reacted
    refine ⟨custody, fun other member => ?_⟩
    rcases List.mem_cons.mp member with rfl | member
    · exact .inr (List.mem_singleton.mpr rfl)
    · exact .inl member
  | report report =>
    have takes := Ledger.takes_of_apply reacted
    have split : held ++ (reports (Event.report report :: rest)).map Report.job ~
        report.job :: (held ++ (reports rest).map Report.job) := List.perm_middle
    have member : report.job ∈ ledger.inFlight := (custody.trans split).mem_iff.mpr (by simp)
    constructor
    · rw [takes.inFlight]
      exact ((cons_without_perm distinct member).trans (custody.trans split)).cons_inv
    · intro job inside
      rw [takes.queue, takes.inFlight, List.append_assoc] at inside
      refine .inl ?_
      rcases List.mem_append.mp inside with back | inside
      · have same : job = report.job := by
          cases report <;> simp_all [Report.sentBack?, Report.job]
        exact List.mem_append_right _ (same ▸ member)
      · exact (((without_sublist report.job.id ledger.inFlight).append_left _).subset inside)
  | request requester | endOfInput | stats asker =>
    cases reacted
    exact ⟨custody, fun job member => .inl member⟩

/-! ### What a proxy does with its job -/

namespace Phase.Moves

variable {number : Nat} {phase next : Phase} {messages : List Message}

/-- As long as the dispatcher takes events, a proxy keeps its job or sends a report on it. -/
theorem held_eq (moves : phase.Moves number true messages next) :
    phase.held?.toList = next.held?.toList ++ (Dispatch.reports messages).map Report.job := by
  cases moves with
  | connects success => cases success <;> rfl
  | asks taken => rfl
  | turnedAway shut => cases shut
  | collects job => cases job <;> rfl
  | returns job outcome =>
    rcases outcome with (reason | reason) | _ <;> rfl
  | reports report taken => cases report <;> rfl
  | unheard report shut => cases shut

/-- A proxy does not come to hold a job of its own. -/
theorem held_of_held {isOpen : Bool} (moves : phase.Moves number isOpen messages next) {job : Job}
    (holds : next.held? = some job) : phase.held? = some job := by
  cases moves with
  | connects success => cases success <;> cases holds
  | asks taken | turnedAway shut | unheard report shut => cases holds
  | collects job =>
    cases job with
    | none => cases holds
    | some job => exact holds
  | returns job outcome => rcases outcome with (reason | reason) | _ <;> exact holds
  | reports report taken => cases report <;> cases holds

/-- A proxy waits exactly after asking. -/
theorem requester_eq (moves : phase.Moves number true messages next) :
    messages.filterMap Event.requester? =
      if next = .waiting then [Requester.proxy number] else [] := by
  cases moves with
  | connects success => cases success <;> rfl
  | asks taken => rfl
  | turnedAway shut => cases shut
  | collects job => cases job <;> rfl
  | returns job outcome => rfl
  | reports report taken => cases report <;> rfl
  | unheard report shut => cases shut

/-- A proxy that waits does nothing of its own. -/
theorem not_waiting {isOpen : Bool} (moves : phase.Moves number isOpen messages next) :
    phase ≠ .waiting := by
  cases moves <;> nofun

end Phase.Moves

end Workyard.Yard
