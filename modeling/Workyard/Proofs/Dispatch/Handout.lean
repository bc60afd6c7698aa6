/-
**Who is handed which job.**

The laws of pairing leave it no choice: those who wait and are present are handed the jobs from the top
of the queue, in order of arrival, until one or the other runs out. One who is gone, or goes while a job
is on its way, changes nothing for the others.

* `Serves.lots`: what is handed out, what stays in the queue and who still waits;
* `pair_inFlight`: the jobs handed out are marked, and no others are;
* `pair_handsOut`: all of this for one pairing.
-/

import Workyard.Proofs.Dispatch.Pairing

namespace Workyard.Dispatch

variable {ρ κ : Type}

/-! ### Dealing out -/

/-- Those who are present, in order of arrival. -/
def here (presence : ρ → Presence) (waiting : List ρ) : List ρ :=
  waiting.filter (presence · = .present)

/-- **Pairs that use up one of two lists are the lists side by side**, and what is left of a list is
what is behind the length of the other. -/
theorem eq_zip_of_append {α β : Type} {pairs : List (α × β)} {first left : List α}
    {second right : List β} (firsts : pairs.map Prod.fst ++ left = first)
    (seconds : pairs.map Prod.snd ++ right = second) (exhausted : right = [] ∨ left = []) :
    pairs = first.zip second ∧ left = first.drop second.length ∧ right = second.drop first.length ∧
      pairs.map Prod.snd = second.take first.length := by
  subst firsts seconds
  have sides : (pairs.map Prod.fst).zip (pairs.map Prod.snd) = pairs := by
    rw [List.zip_map']
    exact List.map_id _
  have long : (pairs.map Prod.fst).length = (pairs.map Prod.snd).length := by simp
  rw [List.zip_append long, sides]
  rcases exhausted with rfl | rfl
  · simp [List.take_of_length_le]
  · simp

/-- **What pairing deals out**, once nothing is queued or nobody waits. -/
theorem Serves.lots {presence : ρ → Presence} {ledger : Ledger} {waiting : List ρ}
    {pairing : Pairing ρ} (serves : Serves presence ledger waiting pairing)
    (exhausted : pairing.dispatcher.ledger.queue = [] ∨ pairing.dispatcher.waiting = []) :
    pairing.delivered = (here presence waiting).zip ledger.queue ∧
      here presence pairing.dispatcher.waiting = (here presence waiting).drop ledger.queue.length ∧
      pairing.dispatcher.ledger.queue = ledger.queue.drop (here presence waiting).length ∧
      pairing.delivered.map Prod.snd = ledger.queue.take (here presence waiting).length := by
  refine eq_zip_of_append serves.live serves.jobs (exhausted.imp_right fun nobody => ?_)
  rw [nobody]
  rfl

/-! ### Marking -/

/-- Whether the jobs to hand out are none of those handed out, and different from each other. -/
structure Ledger.Fresh (ledger : Ledger) : Prop where
  distinct : (ledger.queue.map Job.id).Nodup
  unmarked : ∀ job ∈ ledger.queue, job.id ∉ ledger.inFlight.map Job.id

namespace Ledger.Fresh

theorem of_nodup {ledger : Ledger} (distinct : ledger.unresolved.Nodup) : ledger.Fresh := by
  rw [unresolved, List.map_append] at distinct
  obtain ⟨queue, -, apart⟩ := List.nodup_append.mp distinct
  exact ⟨queue, fun job member marked => apart job.id (List.mem_map_of_mem member) _ marked rfl⟩

variable {ledger next : Ledger} {job : Job}

/-- A job that is taken is marked, and the others stay as they are. -/
theorem take (fresh : ledger.Fresh) (took : ledger.takeNext = some (job, next)) :
    next.inFlight = job :: ledger.inFlight ∧ next.Fresh := by
  obtain ⟨rest, queue, rfl⟩ := Ledger.takeNext_eq_some took
  obtain ⟨distinct, unmarked⟩ := fresh
  rw [queue] at distinct unmarked
  obtain ⟨single, distinctRest⟩ := List.nodup_cons.mp distinct
  obtain ⟨free, others⟩ := List.forall_mem_cons.mp unmarked
  rw [without_eq_self free]
  refine ⟨rfl, distinctRest, fun other member marked => ?_⟩
  rcases List.mem_cons.mp marked with same | marked
  · exact single (same ▸ List.mem_map_of_mem member)
  · exact others other member marked

/-- A job that is taken and given back leaves no trace. -/
theorem giveBack (fresh : ledger.Fresh) (took : ledger.takeNext = some (job, next)) :
    next.returnUndelivered job = ledger := by
  rw [Ledger.returnUndelivered_takeNext took]
  obtain ⟨rest, queue, -⟩ := Ledger.takeNext_eq_some took
  have free := fresh.unmarked job (by rw [queue]; exact List.mem_cons_self)
  rw [without_eq_self free]

end Ledger.Fresh

/-- **The jobs handed out are marked**, the last of them first, and no others are. -/
theorem pair_inFlight (presence : ρ → Presence) {ledger : Ledger} (waiting : List ρ)
    (fresh : ledger.Fresh) :
    (pair presence ledger waiting).dispatcher.ledger.inFlight =
      ((pair presence ledger waiting).delivered.map Prod.snd).reverse ++ ledger.inFlight := by
  induction waiting generalizing ledger with
  | nil => rfl
  | cons requester rest hypothesis =>
    unfold pair
    split
    · exact hypothesis fresh
    · split
      · rfl
      · next job next took =>
        obtain ⟨marked, freshNext⟩ := fresh.take took
        have grown := hypothesis freshNext
        rw [marked] at grown
        simp [grown]
    · split
      · rfl
      · next job next took =>
        rw [fresh.giveBack took]
        exact hypothesis fresh

/-! ### One pairing -/

/-- **What one pairing hands out.** -/
structure HandsOut (presence : ρ → Presence) (ledger : Ledger) (waiting : List ρ)
    (pairing : Pairing ρ) : Prop where
  /-- Those who are present are handed the jobs from the top, in order of arrival. -/
  delivered : pairing.delivered = (here presence waiting).zip ledger.queue
  /-- What is handed out comes to what was, and nothing else does. -/
  inFlight : pairing.dispatcher.ledger.inFlight =
    (pairing.delivered.map Prod.snd).reverse ++ ledger.inFlight
  /-- The other jobs stay in their order. -/
  queue : pairing.dispatcher.ledger.queue = ledger.queue.drop (here presence waiting).length
  /-- The others who are present still wait, in their order. -/
  stillWaiting : here presence pairing.dispatcher.waiting =
    (here presence waiting).drop ledger.queue.length
  /-- Nobody waits who did not. -/
  nobodyNew : pairing.dispatcher.waiting.Sublist waiting
  /-- No counter changes. -/
  counters : pairing.dispatcher.ledger.outstanding = ledger.outstanding ∧
    pairing.dispatcher.ledger.tally = ledger.tally ∧
    pairing.dispatcher.ledger.reposted = ledger.reposted ∧
    pairing.dispatcher.ledger.gotEof = ledger.gotEof ∧
    pairing.dispatcher.ledger.closed = ledger.closed
  /-- Nobody waits while a job is queued. -/
  exhausted : pairing.dispatcher.ledger.queue = [] ∨ pairing.dispatcher.waiting = []

/-- **Pairing hands out jobs from the top in order of arrival**, whoever is gone or goes while a job is
on its way: if no job is queued twice or handed out already, nothing else changes, and it ends when no
job is queued or nobody waits. -/
theorem pair_handsOut (presence : ρ → Presence) (ledger : Ledger) (waiting : List ρ)
    (distinct : (ledger.queue.map Job.id).Nodup)
    (unmarked : ∀ job ∈ ledger.queue, job.id ∉ ledger.inFlight.map Job.id) :
    HandsOut presence ledger waiting (pair presence ledger waiting) := by
  have serves := pair_serves presence ledger waiting
  have exhausted := pair_exhausts presence ledger waiting
  obtain ⟨delivered, waits, queue, -⟩ := serves.lots exhausted
  refine ⟨delivered, pair_inFlight presence waiting ⟨distinct, unmarked⟩, queue, waits, ?_, ?_,
    exhausted⟩
  · exact (List.sublist_append_right _ _).trans serves.requesters
  · rw [serves.frame]
    exact ⟨rfl, rfl, rfl, rfl, rfl⟩

/-- Three jobs to hand out, one of which was sent back, and one that is handed out. -/
def threeQueued : Ledger where
  queue := [⟨"job-2", "false"⟩, ⟨"job-4", "true"⟩, ⟨"job-1", "exit 3"⟩]
  inFlight := [⟨"job-3", "ls"⟩]
  outstanding := 4
  reposted := 1

/-- The first and the last who ask are present; of the two between them one is gone and one goes while
a job is on its way. -/
def twoPresent : Nat → Presence
  | 1 => .gone
  | 2 => .vanishing
  | _ => .present

theorem pair_handsOut_twoPresent :
    (threeQueued.queue.map Job.id).Nodup ∧
      (∀ job ∈ threeQueued.queue, job.id ∉ threeQueued.inFlight.map Job.id) ∧
      HandsOut twoPresent threeQueued [0, 1, 2, 3] (pair twoPresent threeQueued [0, 1, 2, 3]) ∧
      (pair twoPresent threeQueued [0, 1, 2, 3]).delivered =
        [(0, ⟨"job-2", "false"⟩), (3, ⟨"job-4", "true"⟩)] ∧
      (pair twoPresent threeQueued [0, 1, 2, 3]).dispatcher.ledger.queue =
        [⟨"job-1", "exit 3"⟩] := by
  have distinct : (threeQueued.queue.map Job.id).Nodup := by decide
  have unmarked : ∀ job ∈ threeQueued.queue, job.id ∉ threeQueued.inFlight.map Job.id := by decide
  have handsOut := pair_handsOut twoPresent threeQueued [0, 1, 2, 3] distinct unmarked
  exact ⟨distinct, unmarked, handsOut, handsOut.delivered, handsOut.queue⟩

end Workyard.Dispatch
