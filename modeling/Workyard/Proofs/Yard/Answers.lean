/-
**What the dispatcher makes of the proxies.**

The dispatcher answers proxies that have asked for a job and leaves all others alone. This is so
whether it goes on or stops, when it also answers those whose request is lost.

* `Answers`: what a step of the dispatcher does to the proxies, and no more;
* `Answers.map_eq`: what is seen of proxies that have not asked stays as it is;
* `Queued.process_answers`, `Queued.abandon_answers`: the steps of the dispatcher do it.
-/

import Workyard.Proofs.Yard.Requests

namespace Workyard.Yard

open Dispatch
open scoped List

variable {σ : Type} {setting : Setting σ} {steps : List (Step σ)} {yard after : Yard σ}

/-! ### Answers -/

/-- Whether a proxy has asked for a job: it waits, or has not looked at its answer yet. -/
def Phase.isPending : Phase → Bool
  | .waiting | .handed _ => true
  | _ => false

/-- What the dispatcher makes of a proxy that it may answer with one of these jobs. -/
inductive Proxy.Answered (given : List Job) (proxy : Proxy) : Proxy → Prop
  | untouched : Answered given proxy proxy
  | told (job : Option Job) (pending : proxy.phase.isPending = true)
    (among : ∀ found, job = some found → found ∈ given) :
    Answered given proxy { proxy with phase := .handed job }

/-- **What the dispatcher makes of the proxies**: it answers some that have asked, at most with these
jobs. -/
def Answers (given : List Job) (yard after : Yard σ) : Prop :=
  ∀ number : Nat, Option.Rel (Proxy.Answered given) yard.proxies[number]? after.proxies[number]?

/-- A proxy that asks has asked. -/
def hasAsked (yard : Yard σ) (requester : Requester) : Prop :=
  ∀ number proxy, requester = .proxy number → yard.proxies[number]? = some proxy →
    proxy.phase.isPending = true

namespace Answers

variable {given : List Job} {next : Yard σ}

theorem refl (given : List Job) (yard : Yard σ) : Answers given yard yard := by
  intro number
  cases yard.proxies[number]? with
  | none => exact .none
  | some proxy => exact .some .untouched

theorem of_proxies_eq (same : after.proxies = yard.proxies) : Answers given yard after := by
  intro number
  rw [same]
  exact refl given yard number

/-- Each proxy comes from one that was answered or left alone. -/
theorem source (answers : Answers given yard after) {number : Nat} {proxy : Proxy}
    (found : after.proxies[number]? = some proxy) :
    ∃ earlier, yard.proxies[number]? = some earlier ∧ earlier.Answered given proxy := by
  have related := answers number
  rw [found] at related
  cases known : yard.proxies[number]? with
  | none =>
    rw [known] at related
    cases related
  | some earlier =>
    rw [known] at related
    cases related with
    | some answered => exact ⟨earlier, rfl, answered⟩

theorem trans (first : Answers given yard after) (second : Answers given after next) :
    Answers given yard next := by
  intro number
  cases found : next.proxies[number]? with
  | none =>
    have related := second number
    rw [found] at related
    cases missing : after.proxies[number]? with
    | some proxy =>
      rw [missing] at related
      cases related
    | none =>
      have before := first number
      rw [missing] at before
      exact before
  | some proxy =>
    obtain ⟨between, middle, later⟩ := second.source found
    obtain ⟨earlier, start, sooner⟩ := first.source middle
    rw [start]
    refine .some ?_
    -- an answer to one that has been answered already replaces the answer
    cases later with
    | untouched => exact sooner
    | told job pending among =>
      cases sooner with
      | untouched => exact .told job pending among
      | told other before _ => exact .told job before among

/-- One that has asked has still asked when others or it have been answered. -/
theorem hasAsked (answers : Answers given yard after) {requester : Requester}
    (asked : yard.hasAsked requester) : after.hasAsked requester := by
  intro number proxy same found
  obtain ⟨earlier, before, answered⟩ := answers.source found
  cases answered with
  | untouched => exact asked number _ same before
  | told job pending among => rfl

/-- Answering one that has asked. -/
theorem hand {job : Option Job} {requester : Requester} (asked : yard.hasAsked requester)
    (among : ∀ found, job = some found → found ∈ given) :
    Answers given yard (yard.hand job requester) := by
  cases requester with
  | caller number =>
    refine of_proxies_eq ?_
    simp only [Yard.hand]
    split <;> rfl
  | proxy number =>
    intro other
    show Option.Rel _ _ (yard.proxies.modify number _)[other]?
    rw [List.getElem?_modify]
    cases found : yard.proxies[other]? with
    | none => exact .none
    | some proxy =>
      refine .some ?_
      by_cases same : number = other
      · simp only [same, if_true]
        exact .told job (asked other proxy (congrArg Requester.proxy same) found) among
      · simp only [same, if_false]
        exact .untouched

/-- Answering some that have asked. -/
theorem foldl {β : Type} {step : Yard σ → β → Yard σ} (items : List β)
    (each : ∀ item ∈ items, ∀ later, Answers given yard later → Answers given later (step later item))
    (start : Answers given yard after) : Answers given yard (items.foldl step after) := by
  induction items generalizing after with
  | nil => exact start
  | cons item items hypothesis =>
    exact hypothesis (fun other member => each other (List.mem_cons_of_mem _ member))
      (start.trans (each item List.mem_cons_self after start))

/-- A turn of the dispatcher in which only such requesters are answered that have asked. -/
theorem take (log : Log σ) (turn : Turn Requester Nat) (rest : List Message)
    (asked : ∀ requester ∈
      turn.delivered.map Prod.fst ++ turn.released ++ rest.filterMap Event.requester?,
        yard.hasAsked requester) :
    Answers (turn.delivered.map Prod.snd) yard (yard.take log turn rest) := by
  have delivered : Answers (turn.delivered.map Prod.snd) yard
      ((yard.turned log turn rest).deliver turn.delivered) := by
    refine foldl _ (fun delivery member later answers => ?_) (of_proxies_eq rfl)
    refine hand (answers.hasAsked (asked delivery.1 ?_)) fun job same => ?_
    · simp only [List.mem_append, List.mem_map]
      exact .inl (.inl ⟨delivery, member, rfl⟩)
    · cases same
      exact List.mem_map_of_mem member
  have released : Answers (turn.delivered.map Prod.snd) yard (turn.released.foldl (Yard.hand none)
      ((yard.turned log turn rest).deliver turn.delivered)) := by
    refine foldl _ (fun requester member later answers => ?_) delivered
    refine hand (answers.hasAsked (asked requester ?_)) nofun
    simp only [List.mem_append]
    exact .inl (.inr member)
  cases stops : turn.ending with
  | none =>
    simp only [Yard.take, stops]
    exact released
  | some ending =>
    simp only [Yard.take, stops, stop]
    refine foldl _ (fun message member later answers => ?_) (released.trans (of_proxies_eq rfl))
    cases message with
    | request requester =>
      refine hand (answers.hasAsked (asked requester ?_)) nofun
      simp only [List.mem_append, List.mem_filterMap]
      exact .inr ⟨.request requester, member, rfl⟩
    | _ => exact of_proxies_eq rfl

/-- What is seen of each proxy does not change if it is not seen who has asked. -/
theorem map_eq {α : Type} (answers : Answers given yard after) {view : Proxy → α}
    (unseen : ∀ proxy answered : Proxy, proxy.Answered given answered → view answered = view proxy) :
    after.proxies.map view = yard.proxies.map view := by
  refine List.ext_getElem? fun number => ?_
  rw [List.getElem?_map, List.getElem?_map]
  have related := answers number
  cases found : after.proxies[number]? with
  | some proxy =>
    obtain ⟨earlier, before, answered⟩ := answers.source found
    rw [before]
    exact congrArg some (unseen earlier proxy answered)
  | none =>
    rw [found] at related
    cases missing : yard.proxies[number]? with
    | none => rfl
    | some proxy =>
      rw [missing] at related
      cases related

/-- A proxy holds what it has held or one of the jobs given. -/
theorem mem_held (answers : Answers given yard after) {job : Job} (member : job ∈ after.held) :
    job ∈ yard.held ∨ job ∈ given := by
  obtain ⟨proxy, inside, holds⟩ := List.mem_filterMap.mp member
  obtain ⟨number, found⟩ := List.getElem?_of_mem inside
  obtain ⟨earlier, before, answered⟩ := answers.source found
  cases answered with
  | untouched => exact .inl (List.mem_filterMap.mpr ⟨proxy, List.mem_of_getElem? before, holds⟩)
  | told other pending among => exact .inr (among job holds)

end Answers

/-! ### The steps of the dispatcher -/

/-- Those whom a turn of the dispatcher answers, and those whose request is lost if it stops, have
asked before. -/
theorem turn_requesters {presence : Requester → Presence} {dispatcher : Dispatcher Requester}
    {event : Message} {turn : Turn Requester Nat}
    (turnsOut : TurnsOut presence dispatcher event turn) :
    turn.delivered.map Prod.fst ++ turn.released ⊆
        dispatcher.waiting ++ event.requester?.toList ∧
      (turn.ending ≠ none → turn.delivered = []) := by
  cases turnsOut with
  | refused error reacted same =>
    subst same
    exact ⟨List.subset_append_left _ _, fun _ => rfl⟩
  | closes ledger reacted decisive complete same =>
    subst same
    exact ⟨List.subset_append_left _ _, fun _ => rfl⟩
  | goesOn ledger reacted incomplete going released serves =>
    rw [released, List.append_nil]
    exact ⟨((List.sublist_append_left _ _).trans serves.requesters).subset, absurd going⟩

namespace Queued

theorem hasAsked (queued : Queued yard) {requester : Requester}
    (member : requester ∈ yard.requests) : yard.hasAsked requester := by
  rintro number proxy rfl found
  have waits := queued.proxies number member
  rw [presence_proxy found] at waits
  split at waits
  · next waiting =>
    rw [waiting]
    rfl
  · cases waits

/-- Handling an event answers some that have asked with the jobs that it hands out. -/
theorem process_given (queued : Queued yard) {event : Message} {rest : List Message}
    (channel : yard.channel = event :: rest) (possible : yard.process setting.log = some after) :
    Answers ((yard.dispatcher.handle yard.presence event).delivered.map Prod.snd) yard after := by
  obtain ⟨-, _, _, known, same⟩ := process_eq_some possible
  cases channel.symm.trans known
  obtain ⟨asked, -⟩ := turn_requesters (handle_turnsOut yard.presence yard.dispatcher event)
  rw [same]
  refine Answers.take setting.log _ rest fun requester member => queued.hasAsked ?_
  rw [requests_of_channel channel]
  rcases List.mem_append.mp member with told | lost
  · exact List.mem_append_left _ (asked told)
  · exact List.mem_append_right _ lost

/-- **Handling an event answers some that have asked**; nobody gets a job if the dispatcher stops. -/
theorem process_answers (queued : Queued yard) (follows : Follows steps yard)
    (possible : yard.process setting.log = some after) :
    ∃ given, Answers given yard after ∧ (after.isOpen = false → given = []) := by
  obtain ⟨isOpen, event, rest, channel, same⟩ := process_eq_some possible
  obtain ⟨-, nothing⟩ := turn_requesters (handle_turnsOut yard.presence yard.dispatcher event)
  refine ⟨_, queued.process_given channel possible, fun shut => ?_⟩
  rw [nothing, List.map_nil]
  intro going
  obtain ⟨board, -⟩ := follows.of_isOpen isOpen
  obtain ⟨-, -, -, released, -⟩ := handle_of_going going
  rw [take_of_going setting.log rest yard going released] at same
  have stillOpen : after.isOpen = true := by
    rw [isOpen_eq_true_iff, same, deliver_board]
    exact congrArg Board.ending board
  rw [stillOpen] at shut
  cases shut

/-- A dispatcher that is abandoned answers some that have asked, and nobody gets a job. -/
theorem abandon_answers (queued : Queued yard)
    (possible : yard.abandon setting.log = some after) : Answers [] yard after := by
  obtain ⟨isOpen, channel, same⟩ := abandon_eq_some possible
  rw [same]
  refine Answers.take setting.log yard.dispatcher.abandon [] fun requester member =>
    queued.hasAsked ?_
  rw [requests]
  simp only [Dispatcher.abandon, List.map_nil, List.nil_append, List.filterMap_nil,
    List.append_nil] at member
  exact List.mem_append_left _ member

end Queued

end Workyard.Yard
