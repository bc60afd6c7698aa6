/-
**Who has asked for a job and has no answer.**

Whoever asks for a job waits until the dispatcher answers. Meanwhile the request is in the channel or
known to the dispatcher, once. A caller may give up before it is answered; a proxy does not, so that
the dispatcher hands jobs to nobody who does anything else than wait.

* `Queued`: what is so of the requests that have no answer;
* `Queued.serving`: what the dispatcher hands out in a step after which it still takes events;
* `run_queued`: the requests of every run are queued as long as the dispatcher takes events.
-/

import Workyard.Proofs.Yard.Hands
import Workyard.Proofs.Yard.Run

namespace Workyard.Yard

open Dispatch
open scoped List

variable {σ : Type} {setting : Setting σ} {kept : σ} {steps : List (Step σ)}
  {yard after : Yard σ} {action : Action}

/-! ### Requests without an answer -/

/-- **What is so of the requests that have no answer** as long as the dispatcher takes events. -/
structure Queued (yard : Yard σ) : Prop where
  /-- Nobody asks twice. -/
  once : yard.requests.Nodup
  /-- Those who wait have asked. -/
  present : ∀ requester, yard.presence requester = .present → requester ∈ yard.requests
  /-- A proxy that has asked waits. -/
  proxies : ∀ number, .proxy number ∈ yard.requests → yard.presence (.proxy number) = .present
  callers : ∀ number, .caller number ∈ yard.requests → number < yard.callers.length

/-- A step that sends no request leaves them as they are. -/
theorem Appends.requests_eq (appends : Appends setting yard action after)
    (noRequest : (yard.message? setting action).bind Event.requester? = none) :
    after.requests = yard.requests := by
  rw [requests, appends.channel, List.filterMap_append, filterMap_said_eq_nil noRequest,
    List.append_nil, appends.dispatcher]
  rfl

namespace Queued

/-- A step by which nobody asks and no proxy stops waiting. -/
theorem keep (queued : Queued yard) (requests : after.requests = yard.requests)
    (proxies : ∀ number, after.presence (.proxy number) = yard.presence (.proxy number))
    (callers : ∀ number, after.presence (.caller number) = .present →
      yard.presence (.caller number) = .present)
    (length : after.callers.length = yard.callers.length) : Queued after := by
  refine ⟨requests ▸ queued.once, fun requester present => ?_, fun number member => ?_,
    fun number member => ?_⟩
  · rw [requests]
    cases requester with
    | proxy number => exact queued.present _ (proxies number ▸ present)
    | caller number => exact queued.present _ (callers number present)
  · rw [requests] at member
    rw [proxies]
    exact queued.proxies number member
  · rw [requests] at member
    rw [length]
    exact queued.callers number member

/-- A step of a proxy. -/
theorem move {number : Nat} (queued : Queued yard) (isOpen : yard.isOpen = true)
    (step : ProxyStep number yard after) : Queued after := by
  obtain ⟨proxy, messages, phase, found, moves, same⟩ := step
  rw [isOpen] at moves
  have callers : after.callers = yard.callers := same ▸ rfl
  have replaced : after.proxies = yard.proxies.set number { proxy with phase } := same ▸ rfl
  have presence := presence_of_set found replaced callers
  have requests : after.requests =
      yard.requests ++ if phase = .waiting then [Requester.proxy number] else [] := by
    rw [Yard.requests, Yard.requests, same, List.filterMap_append, moves.requester_eq,
      ← List.append_assoc]
    rfl
  have absent : Requester.proxy number ∉ yard.requests := by
    intro member
    have waits := queued.proxies number member
    rw [presence_proxy found, if_neg moves.not_waiting] at waits
    cases waits
  refine ⟨?_, fun requester present => ?_, fun other member => ?_, fun other member => ?_⟩
  · rw [requests]
    by_cases waits : phase = .waiting
    · rw [if_pos waits]
      exact (List.perm_append_singleton _ _).nodup_iff.mpr
        (List.nodup_cons.mpr ⟨absent, queued.once⟩)
    · rw [if_neg waits, List.append_nil]
      exact queued.once
  · rw [presence] at present
    rw [requests]
    by_cases mover : requester = .proxy number
    · rw [if_pos mover] at present
      by_cases waits : phase = .waiting
      · simp [waits, mover]
      · rw [if_neg waits] at present
        cases present
    · rw [if_neg mover] at present
      exact List.mem_append_left _ (queued.present requester present)
  · rw [requests] at member
    rw [presence]
    by_cases mover : Requester.proxy other = .proxy number
    · rw [if_pos mover]
      by_cases waits : phase = .waiting
      · rw [if_pos waits]
      · rw [if_neg waits, List.append_nil, mover] at member
        exact absurd member absent
    · rw [if_neg mover]
      refine queued.proxies other ((List.mem_append.mp member).resolve_right fun added => ?_)
      split at added
      · exact mover (List.mem_singleton.mp added)
      · cases added
  · rw [requests] at member
    rw [callers]
    refine queued.callers other ((List.mem_append.mp member).resolve_right fun added => ?_)
    split at added
    · cases List.mem_singleton.mp added
    · cases added

/-- A new caller asks. -/
theorem request (queued : Queued yard) (isOpen : yard.isOpen = true) : Queued yard.request.1 := by
  rw [request_of_isOpen isOpen]
  have requests : (({ yard with callers := yard.callers ++ [Caller.waiting] } : Yard σ).push
      (.request (.caller yard.callers.length))).requests =
        yard.requests ++ [.caller yard.callers.length] := by
    simp [Yard.requests, push, Event.requester?]
  have absent : Requester.caller yard.callers.length ∉ yard.requests := fun member =>
    Nat.lt_irrefl _ (queued.callers _ member)
  refine ⟨?_, fun requester present => ?_, fun number member => ?_, fun number member => ?_⟩
  · rw [requests]
    exact (List.perm_append_singleton _ _).nodup_iff.mpr (List.nodup_cons.mpr ⟨absent, queued.once⟩)
  · rw [requests]
    rcases present_iff.mp present with ⟨number, proxy, rfl, found, waits⟩ | ⟨number, rfl, waits⟩
    · exact List.mem_append_left _
        (queued.present _ (present_iff.mpr (.inl ⟨number, proxy, rfl, found, waits⟩)))
    · have waits : (yard.callers ++ [Caller.waiting])[number]? = some .waiting := waits
      rcases Nat.lt_or_ge number yard.callers.length with inside | beyond
      · rw [List.getElem?_append_left inside] at waits
        exact List.mem_append_left _ (queued.present _ (present_iff.mpr (.inr ⟨number, rfl, waits⟩)))
      · have last : number = yard.callers.length := by
          obtain ⟨within, -⟩ := List.getElem?_eq_some_iff.mp waits
          simp only [List.length_append, List.length_singleton] at within
          omega
        exact List.mem_append_right _ (by simp [last])
  · rw [requests] at member
    exact queued.proxies number (by simpa using member)
  · rw [requests] at member
    show number < (yard.callers ++ [Caller.waiting]).length
    rw [List.length_append, List.length_singleton]
    rcases List.mem_append.mp member with earlier | last
    · exact Nat.lt_succ_of_lt (queued.callers number earlier)
    · cases List.mem_singleton.mp last
      exact Nat.lt_succ_self _

/-- A caller gives up. -/
theorem withdraw (queued : Queued yard) (caller : Nat) : Queued (yard.withdraw caller) := by
  by_cases waits : yard.callers[caller]? = some .waiting
  · have same : yard.withdraw caller =
        { yard with callers := yard.callers.set caller .withdrawn } := if_pos waits
    obtain ⟨inside, -⟩ := List.getElem?_eq_some_iff.mp waits
    have replaced : (yard.withdraw caller).callers = yard.callers.set caller .withdrawn := by
      rw [same]
    have presence := presence_of_callers_set inside replaced nofun (by rw [same])
    refine queued.keep (by rw [same]; rfl) (fun number => ?_) (fun number present => ?_) ?_
    · rw [presence, if_neg nofun]
    · rw [presence] at present
      split at present
      · cases present
      · exact present
    · rw [replaced, List.length_set]
  · have same : yard.withdraw caller = yard := if_neg waits
    rw [same]
    exact queued

/-- **A step that is not the dispatcher's.** -/
theorem outside (queued : Queued yard) (isOpen : yard.isOpen = true)
    (isOutside : action.isOutside = true) (possible : yard.act setting action = some after) :
    Queued after := by
  have appends := act_appends isOutside possible
  cases act_involves possible with
  | nobody bystanding proxies callers =>
    obtain ⟨-, presence⟩ := undisturbed (fun _ => newcomer_connecting) proxies callers
    have noRequest : (yard.message? setting action).bind Event.requester? = none := by
      cases action <;> first | rfl | cases bystanding
    exact queued.keep (appends.requests_eq noRequest) (fun _ => presence _)
      (fun _ present => (presence _).symm.trans present) (by rw [callers])
  | proxy _ step => exact queued.move isOpen step
  | request same => exact same ▸ queued.request isOpen
  | withdraw same => exact same ▸ queued.withdraw _
  | process | abandon => cases isOutside

end Queued

/-! ### What the dispatcher hands out -/

/-- What the dispatcher does in a step after which it still takes events: it handles the oldest one
and hands out jobs to some of those who wait. -/
structure Serving (yard : Yard σ) (event : Message) (rest : List Message) (ledger : Ledger)
    (jobs : List (Requester × Job)) (after : Yard σ) : Prop where
  before : yard.channel = event :: rest
  channel : after.channel = rest
  reacted : yard.dispatcher.ledger.react event = .ok ledger
  serves : Serves yard.presence ledger (yard.dispatcher.waiting ++ event.requester?.toList)
    ⟨jobs, after.dispatcher⟩
  /-- The jobs reach those who asked for them. -/
  reached : after.held ++ after.taken ~ jobs.map Prod.snd ++ (yard.held ++ yard.taken)
  callers : after.callers.length = yard.callers.length
  presence : ∀ requester, after.presence requester =
    if requester ∈ jobs.map Prod.fst then .gone else yard.presence requester

/-- The requests that are known when an event is handled, and those behind it. -/
theorem requests_of_channel {event : Message} {rest : List Message}
    (channel : yard.channel = event :: rest) :
    yard.requests =
      yard.dispatcher.waiting ++ event.requester?.toList ++ rest.filterMap Event.requester? := by
  rw [requests, channel, filterMap_cons_eq, List.append_assoc]

namespace Queued

/-- **What the dispatcher hands out reaches those who asked for it**, if it goes on. -/
theorem serving (queued : Queued yard) (follows : Follows steps yard)
    (possible : yard.process setting.log = some after) (going : after.isOpen = true) :
    ∃ event rest ledger jobs, Serving yard event rest ledger jobs after := by
  obtain ⟨event, rest, ledger, before, reacted, serves, same⟩ :=
    follows.process_going possible going
  generalize yard.dispatcher.handle yard.presence event = turn at serves same
  obtain ⟨served, -⟩ := serves.remaining (requests_of_channel before ▸ queued.once)
  have present : ∀ requester ∈ turn.delivered.map Prod.fst,
      (yard.turned setting.log turn rest).presence requester = .present :=
    fun requester member => serves.present_of_delivered member
  obtain ⟨reached, callers, presence⟩ := deliver_reaches served present
  rw [← same] at reached callers presence
  have dispatcher : after.dispatcher = turn.dispatcher := by
    rw [same, deliver_dispatcher]
    rfl
  have channel : after.channel = rest := by
    rw [same, deliver_channel]
    rfl
  rw [← dispatcher] at serves
  exact ⟨event, rest, ledger, turn.delivered, before, channel, reacted, serves, reached, callers,
    presence⟩

/-- The dispatcher handles an event and goes on. -/
theorem process (queued : Queued yard) (follows : Follows steps yard)
    (possible : yard.process setting.log = some after) (going : after.isOpen = true) :
    Queued after := by
  obtain ⟨event, rest, ledger, jobs, serving⟩ := queued.serving follows possible going
  have known := requests_of_channel serving.before
  have still : after.requests = after.dispatcher.waiting ++ rest.filterMap Event.requester? := by
    rw [requests, serving.channel]
  obtain ⟨-, left, asked, stays⟩ := serving.serves.remaining (known ▸ queued.once)
  rw [← still] at left
  rw [← known, ← still] at asked stays
  refine ⟨left, fun requester present => ?_, fun number member => ?_, fun number member => ?_⟩
  · rw [serving.presence] at present
    split at present
    · cases present
    · next unserved => exact stays requester (queued.present requester present) present unserved
  · obtain ⟨before, unserved⟩ := asked _ member
    rw [serving.presence, if_neg unserved]
    exact queued.proxies number before
  · rw [serving.callers]
    exact queued.callers number (asked _ member).1

end Queued

/-- **The requests of every run are queued** as long as the dispatcher takes events. -/
theorem run_queued (run : Run setting kept steps yard) (isOpen : yard.isOpen = true) :
    Queued yard := by
  induction run using Run.kind_induction with
  | fresh =>
    refine ⟨List.nodup_nil, fun requester present => ?_, nofun, nofun⟩
    cases requester <;> simp [presence] at present
  | outside steps before after action _ isOutside possible hypothesis =>
    have earlier := (act_appends isOutside possible).isOpen_eq ▸ isOpen
    exact (hypothesis earlier).outside earlier isOutside possible
  | process steps before after run possible hypothesis =>
    obtain ⟨earlier, -⟩ := process_eq_some possible
    exact (hypothesis earlier).process (run_follows run) possible isOpen
  | abandon steps before after run possible _ =>
    obtain ⟨earlier, -, same⟩ := abandon_eq_some possible
    rw [isOpen_eq_true_iff, (run_follows run).shows_ending earlier rfl same] at isOpen
    cases isOpen

end Workyard.Yard
