/-
**Who asks for counters, and what they are told.**

As long as the dispatcher takes events it answers from its ledger, and a ledger only counts up. Once
it has stopped, the counters are made from its ending: they say that it is closed, and they hold the
results if it did close and nothing at all if it was aborted. The ending does not know how many jobs
were sent back, so that this counter falls to zero.

* `Ledger.Grows`, `Ledger.Grows.handle`: what an event does to the counters;
* `take_answers`: whom a step answers, and with what;
* `run_asked`: each who asked is still in the channel or has one answer;
* `Onward`, `run_polled`: how later answers compare with earlier ones.
-/

import Workyard.Proofs.Dispatch.Sights
import Workyard.Proofs.Yard.Run

namespace Workyard

namespace Dispatch

variable {ρ κ : Type}

/-! ### Counting up -/

/-- A ledger whose counters are those of an earlier one or more. -/
structure Ledger.Grows (earlier later : Ledger) : Prop where
  ok : earlier.tally.ok ≤ later.tally.ok
  failed : earlier.tally.failed ≤ later.tally.failed
  reposted : earlier.reposted ≤ later.reposted
  gotEof : earlier.gotEof = true → later.gotEof = true

namespace Ledger.Grows

variable {presence : ρ → Presence} {earlier later ledger next : Ledger} {event : Event ρ κ}

/-- An event that is accepted takes no count back, and closes nothing yet. -/
theorem react (reacted : ledger.react event = .ok next) :
    ledger.Grows next ∧ next.closed = ledger.closed := by
  cases event with
  | report report =>
    have known := (ledger.apply_isOk_iff report).mp ⟨next, reacted⟩
    have applied : ledger.apply report = .ok next := reacted
    unfold Ledger.apply at applied
    rw [if_pos known] at applied
    cases report <;> cases applied <;> exact ⟨⟨by simp, by simp, by simp, id⟩, rfl⟩
  | endOfInput =>
    cases reacted
    exact ⟨⟨Nat.le_refl _, Nat.le_refl _, Nat.le_refl _, fun _ => rfl⟩, rfl⟩
  | submit job | request requester | stats asker =>
    cases reacted
    exact ⟨⟨Nat.le_refl _, Nat.le_refl _, Nat.le_refl _, id⟩, rfl⟩

/-- Handing out jobs counts nothing. -/
theorem serve {waiting : List ρ} {pairing : Pairing ρ} (grows : earlier.Grows later)
    (serves : Serves presence later waiting pairing) :
    earlier.Grows pairing.dispatcher.ledger ∧
      pairing.dispatcher.ledger.closed = later.closed := by
  rw [serves.frame]
  exact ⟨⟨grows.ok, grows.failed, grows.reposted, grows.gotEof⟩, rfl⟩

/-- **A dispatcher that goes on counts up.** -/
theorem handle {dispatcher : Dispatcher ρ}
    (going : (dispatcher.handle presence event).ending = none) :
    dispatcher.ledger.Grows (dispatcher.handle presence event).dispatcher.ledger ∧
      (dispatcher.handle presence event).dispatcher.ledger.closed = dispatcher.ledger.closed := by
  obtain ⟨ledger, reacted, -, -, serves⟩ := handle_of_going going
  obtain ⟨grows, open'⟩ := react reacted
  obtain ⟨grows, same⟩ := grows.serve serves
  exact ⟨grows, same.trans open'⟩

/-- A dispatcher that closes has counted up to the tally that it shows. -/
theorem closing {dispatcher : Dispatcher ρ} {tally : Tally}
    (closes : (dispatcher.handle presence event).ending = some (.closed tally)) :
    dispatcher.ledger.tally.ok ≤ tally.ok ∧ dispatcher.ledger.tally.failed ≤ tally.failed := by
  cases handle_turnsOut presence dispatcher event with
  | refused error reacted same =>
    rw [same] at closes
    cases closes
  | goesOn ledger reacted incomplete going released serves =>
    rw [going] at closes
    cases closes
  | closes ledger reacted decisive complete same =>
    rw [same] at closes
    cases closes
    obtain ⟨grows, -⟩ := react reacted
    exact ⟨grows.ok, grows.failed⟩

end Ledger.Grows

/-- A dispatcher does not answer at the event that makes it stop. -/
theorem handle_silent (presence : ρ → Presence) (dispatcher : Dispatcher ρ) (event : Event ρ κ)
    (stops : (dispatcher.handle presence event).ending.isSome) :
    (dispatcher.handle presence event).answer = none := by
  rw [handle_answer]
  cases event with
  | stats asker => cases stops
  | _ => rfl

end Dispatch

namespace Yard

open Dispatch
open scoped List

variable {σ : Type} {setting : Setting σ} {kept : σ} {yard after : Yard σ} {action : Action}

/-! ### Answers -/

/-- Whether a dispatcher has stopped can be seen on the board. -/
theorem isOpen_of_board (same : after.board = yard.board) : after.isOpen = yard.isOpen :=
  congrArg (fun board => !Board.isClosed board) same

/-- The counters of a dispatcher that has stopped can be seen on the board, too. -/
theorem finalStats_of_board (same : after.board = yard.board) :
    after.finalStats = yard.finalStats := by
  rw [finalStats, finalStats, same]

/-- Those in the channel who ask for counters. -/
def asking (messages : List Message) : List Nat := messages.filterMap Event.asker?

theorem asking_append (messages later : List Message) :
    asking (messages ++ later) = asking messages ++ asking later :=
  List.filterMap_append

theorem asking_cons (message : Message) (messages : List Message) :
    asking (message :: messages) = message.asker?.toList ++ asking messages :=
  filterMap_cons_eq Event.asker? message messages

/-- The answers that those in a lost channel get. -/
def consoled (yard : Yard σ) (lost : List Message) : List (Nat × Stats) :=
  ((asking lost).map fun asker => (asker, yard.finalStats)).reverse

theorem foldl_discard_answers (lost : List Message) (yard : Yard σ) :
    (lost.foldl discard yard).answers = yard.consoled lost ++ yard.answers := by
  induction lost generalizing yard with
  | nil => rfl
  | cons message lost hypothesis =>
    have sameStats : (yard.discard message).finalStats = yard.finalStats :=
      finalStats_of_board (discard_frame yard message).2.2
    rw [List.foldl_cons, hypothesis, consoled, sameStats]
    cases message with
    | stats asker => simp [discard, consoled, asking, Event.asker?]
    | request requester =>
      rw [discard, (hand_asides none yard requester).2.2]
      rfl
    | _ => rfl

/-- **Whom a turn of the dispatcher answers**: the one who asks in it, and when it stops those who
are left in the channel. -/
theorem take_answers (log : Log σ) (turn : Turn Requester Nat) (rest : List Message)
    (yard : Yard σ) :
    (yard.take log turn rest).answers =
      (if turn.ending.isSome then (yard.take log turn rest).consoled rest else []) ++
        (turn.answer.toList ++ yard.answers) := by
  have told : (turn.released.foldl (hand none)
      ((yard.turned log turn rest).deliver turn.delivered)).answers =
        turn.answer.toList ++ yard.answers := by
    rw [foldl_keeps Yard.answers fun yard requester => (hand_asides none yard requester).2.2]
    exact foldl_keeps Yard.answers (fun yard delivery =>
      (hand_asides (some delivery.2) yard delivery.1).2.2) turn.delivered _
  cases ends : turn.ending with
  | none =>
    simp only [take, ends]
    exact told
  | some ending =>
    have board : ∀ stopped : Yard σ, (rest.foldl discard stopped).consoled rest =
        stopped.consoled rest := by
      intro stopped
      rw [consoled, finalStats_of_board
        (foldl_keeps Yard.board (fun yard message => (discard_frame yard message).2.2) rest stopped)]
      rfl
    simp only [take, ends, stop, Option.isSome_some, if_true]
    rw [board, foldl_discard_answers]
    exact congrArg _ told

/-- Whoever does not ask for counters leaves those who do alone. -/
theorem act_asides (outside : action.isOutside = true) (other : action ≠ .askStats)
    (possible : yard.act setting action = some after) :
    after.askers = yard.askers ∧ after.answers = yard.answers := by
  have proxies : ∀ {number}, ProxyStep number yard after →
      after.askers = yard.askers ∧ after.answers = yard.answers := by
    rintro number ⟨proxy, messages, phase, found, moves, rfl⟩
    exact ⟨rfl, rfl⟩
  cases action with
  | connect number success => exact proxies (connect_proxyStep possible)
  | callEnded number outcome => exact proxies (callEnded_proxyStep possible)
  | advanceProxy number => exact proxies (advanceProxy_proxyStep possible)
  | process | abandon => cases outside
  | askStats => exact absurd rfl other
  | startProxy address limit | hold | release =>
    cases possible
    exact ⟨rfl, rfl⟩
  | addWorker address limit =>
    cases possible
    rcases addWorker_cases address limit yard with same | ⟨registry, same⟩
    · rw [same]
      exact ⟨rfl, rfl⟩
    · rw [same]
      exact ⟨rfl, rfl⟩
  | withdraw caller =>
    cases possible
    unfold withdraw
    split <;> exact ⟨rfl, rfl⟩
  | submit command =>
    cases possible
    unfold submit
    dsimp only
    split <;> exact ⟨rfl, rfl⟩
  | request =>
    cases possible
    unfold request
    dsimp only
    split <;> exact ⟨rfl, rfl⟩
  | endOfInput | report report =>
    cases possible
    simp only [Yard.endOfInput, Yard.report, send]
    split <;> exact ⟨rfl, rfl⟩

/-! ### Who has been answered -/

/-- Those who have asked: the ones in the channel and the ones answered. -/
def asked (yard : Yard σ) : List Nat := asking yard.channel ++ yard.answers.map Prod.fst

/-- A turn of the dispatcher loses nobody who asked. -/
theorem take_asked (log : Log σ) (turn : Turn Requester Nat) (rest : List Message)
    (yard : Yard σ) :
    (yard.take log turn rest).asked ~
      (turn.answer.map Prod.fst).toList ++ (asking rest ++ yard.answers.map Prod.fst) := by
  have answered : turn.answer.toList.map Prod.fst = (turn.answer.map Prod.fst).toList := by
    cases turn.answer <;> rfl
  have moved (those : List Nat) (same : those ~ asking rest) :
      those ++ ((turn.answer.map Prod.fst).toList ++ yard.answers.map Prod.fst) ~
        (turn.answer.map Prod.fst).toList ++ (asking rest ++ yard.answers.map Prod.fst) := by
    rw [← List.append_assoc, ← List.append_assoc]
    exact (List.perm_append_comm.trans (same.append_left _)).append_right _
  rw [asked, take_channel, take_answers]
  cases turn.ending with
  | none =>
    simp only [Option.isSome_none, Bool.false_eq_true, if_false, List.nil_append, List.map_append,
      answered]
    exact moved _ (.refl _)
  | some ending =>
    simp only [Option.isSome_some, if_true, List.map_append, answered, consoled, List.map_reverse,
      List.map_map]
    refine moved _ ((List.reverse_perm _).trans ?_)
    simp [Function.comp_def]

/-- Whoever does not ask for counters sends no such request. -/
theorem asking_said (other : action ≠ .askStats) : asking (yard.said setting action) = [] := by
  refine filterMap_said_eq_nil ?_
  cases action with
  | askStats => exact absurd rfl other
  | connect number _ | callEnded number _ | advanceProxy number =>
    cases found : yard.proxies[number]? with
    | none => simp [message?, found]
    | some proxy =>
      cases phase : proxy.phase <;> simp [message?, found, Phase.message?, phase, Event.asker?]
  | _ => rfl

/-- One who asks is one more who has asked. -/
theorem askStats_asked (yard : Yard σ) : yard.askStats.1.asked ~ yard.askers :: yard.asked := by
  by_cases isOpen : yard.isOpen = true
  · rw [askStats_of_isOpen isOpen]
    show asking (yard.channel ++ [.stats yard.askers]) ++ _ ~ _
    rw [asking_append]
    exact (List.perm_append_singleton _ _).append_right _
  · rw [askStats_of_shut isOpen]
    exact List.perm_middle

theorem askStats_askers (yard : Yard σ) : yard.askStats.1.askers = yard.askers + 1 := by
  by_cases isOpen : yard.isOpen = true
  · rw [askStats_of_isOpen isOpen]
    rfl
  · rw [askStats_of_shut isOpen]

/-- **Each who asked for counters is in the channel or has one answer.** -/
theorem run_asked {steps : List (Step σ)} (run : Run setting kept steps yard) :
    yard.asked ~ List.range yard.askers := by
  induction run using Run.kind_induction with
  | fresh => exact .refl _
  | outside steps before after action _ isOutside possible hypothesis =>
    by_cases asks : action = .askStats
    · subst asks
      obtain rfl : before.askStats.1 = after := Option.some.inj possible
      rw [askStats_askers, List.range_succ]
      exact (askStats_asked before).trans
        ((hypothesis.cons _).trans (List.perm_append_singleton _ _).symm)
    · obtain ⟨sameAskers, sameAnswers⟩ := act_asides isOutside asks possible
      rw [asked, (act_appends isOutside possible).channel, asking_append, asking_said asks,
        List.append_nil, sameAskers, sameAnswers]
      exact hypothesis
  | process steps before after _ possible hypothesis =>
    obtain ⟨-, event, rest, channel, rfl⟩ := process_eq_some possible
    rw [take_askers]
    refine (take_asked _ _ _ _).trans (.trans (.of_eq ?_) hypothesis)
    rw [handle_answer, asked, channel, asking_cons, List.append_assoc, Option.map_map]
    cases event.asker? <;> rfl
  | abandon steps before after _ possible hypothesis =>
    obtain ⟨-, channel, rfl⟩ := abandon_eq_some possible
    rw [take_askers]
    refine (take_asked _ _ _ _).trans (.trans (.of_eq ?_) hypothesis)
    rw [asked, channel]
    rfl

/-! ### From one answer to the next -/

/-- A snapshot from the same side of the end as an earlier one, in which nothing is less. -/
structure Below (earlier later : Stats) : Prop where
  ok : earlier.ok ≤ later.ok
  failed : earlier.failed ≤ later.failed
  reposted : earlier.reposted ≤ later.reposted
  gotEof : earlier.gotEof = true → later.gotEof = true
  closed : earlier.closed = later.closed

namespace Below

theorem refl (stats : Stats) : Below stats stats :=
  ⟨Nat.le_refl _, Nat.le_refl _, Nat.le_refl _, id, rfl⟩

theorem trans {first second third : Stats} (earlier : Below first second)
    (later : Below second third) : Below first third :=
  ⟨Nat.le_trans earlier.ok later.ok, Nat.le_trans earlier.failed later.failed,
    Nat.le_trans earlier.reposted later.reposted, later.gotEof ∘ earlier.gotEof,
    earlier.closed.trans later.closed⟩

theorem of_grows {earlier later : Ledger} (grows : earlier.Grows later)
    (same : later.closed = earlier.closed) : Below earlier.stats later.stats :=
  ⟨grows.ok, grows.failed, grows.reposted, grows.gotEof, same.symm⟩

end Below

/-- A snapshot that may follow on an earlier one, given how the dispatcher has stopped. -/
inductive Onward (ending : Ending) (earlier later : Stats) : Prop
  /-- Both are from before the end or both from after it. -/
  | within (below : Below earlier later)
  /-- The later one is made from the ending; the results are in it if the dispatcher closed. -/
  | across (running : earlier.closed = false) (stopped : later = ending.stats)
    (results : ∀ tally, ending = .closed tally →
      earlier.ok ≤ tally.ok ∧ earlier.failed ≤ tally.failed)

/-- How the answers of a yard follow on one another, the newest being the first. -/
inductive Polled (yard : Yard σ) : Prop
  /-- The dispatcher goes on. -/
  | going (board : yard.board = {}) (running : yard.dispatcher.ledger.closed = false)
    (ordered : yard.answers.Pairwise fun later earlier => Below earlier.2 later.2)
    (current : ∀ answer ∈ yard.answers, Below answer.2 yard.dispatcher.ledger.stats)
  /-- It has stopped. -/
  | stopped (ending : Ending) (board : yard.board.ending = some ending)
    (ordered : yard.answers.Pairwise fun later earlier => Onward ending earlier.2 later.2)
    (current : ∀ answer ∈ yard.answers, Onward ending answer.2 ending.stats)

/-- When the dispatcher stops, those who still ask are answered out of its ending. -/
theorem Polled.stop {turn : Turn Requester Nat} {ending : Ending} {answered : List (Nat × Stats)}
    {rest : List Message} {log : Log σ} (board : yard.board = {})
    (stops : turn.ending = some ending) (toldNow : turn.answer.toList ++ yard.answers = answered)
    (ordered : answered.Pairwise fun later earlier => Below earlier.2 later.2)
    (running : ∀ answer ∈ answered, answer.2.closed = false)
    (results : ∀ tally, ending = .closed tally → ∀ answer ∈ answered,
      answer.2.ok ≤ tally.ok ∧ answer.2.failed ≤ tally.failed) :
    Polled (yard.take log turn rest) := by
  have published : (yard.take log turn rest).board.ending = some ending := by
    rw [take_board, stops, board]
    rfl
  have last : (yard.take log turn rest).finalStats = ending.stats := by
    rw [finalStats, published]
  have final : ∀ answer ∈ (yard.take log turn rest).consoled rest, answer.2 = ending.stats := by
    intro answer member
    obtain ⟨asker, -, rfl⟩ := List.mem_map.mp (List.mem_reverse.mp member)
    exact last
  have crosses : ∀ answer ∈ answered, Onward ending answer.2 ending.stats := fun answer member =>
    .across (running answer member) rfl fun tally closed => results tally closed answer member
  have answers : (yard.take log turn rest).answers =
      (yard.take log turn rest).consoled rest ++ answered := by
    rw [take_answers, stops, toldNow]
    rfl
  refine .stopped ending published ?_ ?_ <;> rw [answers]
  · refine List.pairwise_append.mpr ⟨?_, ordered.imp .within, ?_⟩
    · refine List.pairwise_of_forall_mem_list fun later isFinal earlier isFinalToo => ?_
      rw [final later isFinal, final earlier isFinalToo]
      exact .within (.refl _)
    · intro later isFinal earlier member
      rw [final later isFinal]
      exact crosses earlier member
  · intro answer member
    rcases List.mem_append.mp member with isFinal | member
    · rw [final answer isFinal]
      exact .within (.refl _)
    · exact crosses answer member

/-- A new answer out of the ledger is the highest so far. -/
theorem Below.answered {stats : Stats} {answers : List (Nat × Stats)} (asks : Option Nat)
    (ordered : answers.Pairwise fun later earlier => Below earlier.2 later.2)
    (current : ∀ answer ∈ answers, Below answer.2 stats) :
    ((asks.map fun asker => (asker, stats)).toList ++ answers).Pairwise
        (fun later earlier => Below earlier.2 later.2) ∧
      ∀ answer ∈ (asks.map fun asker => (asker, stats)).toList ++ answers, Below answer.2 stats := by
  cases asks with
  | none => exact ⟨ordered, current⟩
  | some asker =>
    refine ⟨List.pairwise_cons.mpr ⟨current, ordered⟩, fun answer member => ?_⟩
    rcases List.mem_cons.mp member with rfl | member
    · exact .refl stats
    · exact current answer member

namespace Polled

/-- A yard that has not stopped is one whose answers come out of the ledger. -/
theorem of_isOpen (polled : Polled yard) (isOpen : yard.isOpen = true) :
    yard.board = {} ∧ yard.dispatcher.ledger.closed = false ∧
      (yard.answers.Pairwise fun later earlier => Below earlier.2 later.2) ∧
      ∀ answer ∈ yard.answers, Below answer.2 yard.dispatcher.ledger.stats := by
  cases polled with
  | going board running ordered current => exact ⟨board, running, ordered, current⟩
  | stopped ending board ordered current =>
    rw [isOpen_eq_true_iff, board] at isOpen
    cases isOpen

theorem outside (polled : Polled yard) (isOutside : action.isOutside = true)
    (possible : yard.act setting action = some after) : Polled after := by
  have appends := act_appends isOutside possible
  have same (sameAnswers : after.answers = yard.answers) : Polled after := by
    cases polled with
    | going board running ordered current =>
      refine .going (appends.board.trans board) ?_ ?_ ?_ <;>
        simpa only [appends.dispatcher, sameAnswers]
    | stopped ending board ordered current =>
      refine .stopped ending (by rw [appends.board, board]) ?_ ?_ <;> simpa only [sameAnswers]
  by_cases asks : action = .askStats
  · subst asks
    obtain rfl : yard.askStats.1 = after := Option.some.inj possible
    by_cases isOpen : yard.isOpen = true
    · refine same ?_
      rw [askStats_of_isOpen isOpen]
      rfl
    · cases polled with
      | going board running ordered current =>
        rw [isOpen_eq_true_iff, board] at isOpen
        exact absurd rfl isOpen
      | stopped ending board ordered current =>
        have last : yard.finalStats = ending.stats := by rw [finalStats, board]
        rw [askStats_of_shut isOpen, last]
        refine .stopped ending board (List.pairwise_cons.mpr ⟨current, ordered⟩) fun answer member => ?_
        rcases List.mem_cons.mp member with rfl | member
        · exact .within (.refl _)
        · exact current answer member
  · exact same (act_asides isOutside asks possible).2

theorem process (polled : Polled yard) (possible : yard.process setting.log = some after) :
    Polled after := by
  obtain ⟨isOpen, event, rest, -, rfl⟩ := process_eq_some possible
  obtain ⟨board, running, ordered, current⟩ := polled.of_isOpen isOpen
  obtain ⟨ordered, current⟩ := Below.answered event.asker? ordered current
  rw [← handle_answer yard.presence yard.dispatcher event] at ordered current
  cases turned : (yard.dispatcher.handle yard.presence event).ending with
  | none =>
    obtain ⟨grows, same⟩ := Ledger.Grows.handle turned
    have answers := take_answers setting.log (yard.dispatcher.handle yard.presence event) rest yard
    rw [turned] at answers
    refine .going ?_ ?_ ?_ ?_
    · rw [take_board, turned]
      exact board
    · rw [take_dispatcher, same, running]
    · rw [answers]
      exact ordered
    · rw [answers, take_dispatcher]
      exact fun answer member => (current answer member).trans (.of_grows grows same)
  | some ending =>
    refine stop board turned rfl ordered
      (fun answer member => (current answer member).closed.trans running)
      fun tally closed answer member => ?_
    have counted := Ledger.Grows.closing (turned.trans (congrArg some closed))
    exact ⟨Nat.le_trans (current answer member).ok counted.1,
      Nat.le_trans (current answer member).failed counted.2⟩

theorem abandon (polled : Polled yard) (possible : yard.abandon setting.log = some after) :
    Polled after := by
  obtain ⟨isOpen, -, rfl⟩ := abandon_eq_some possible
  obtain ⟨board, running, ordered, current⟩ := polled.of_isOpen isOpen
  exact stop board rfl rfl ordered
    (fun answer member => (current answer member).closed.trans running) nofun

end Polled

/-- **Answers follow on one another**: they count up until the dispatcher stops, and are all made
from its ending then. -/
theorem run_polled {steps : List (Step σ)} (run : Run setting kept steps yard) : Polled yard := by
  induction run using Run.kind_induction with
  | fresh => exact .going rfl rfl .nil nofun
  | outside steps before after action _ isOutside possible polled =>
    exact polled.outside isOutside possible
  | process steps before after _ possible polled => exact polled.process possible
  | abandon steps before after _ possible polled => exact polled.abandon possible

end Yard

end Workyard
