/-
**What pairing does.**

Pairing walks along those who wait and hands each of them that is present the next job. Whatever it
does, jobs leave the queue from the top, requesters are served in order, no counter changes, and no
job is made up.

* `Serves`: these laws, for a pairing that may also have done nothing;
* `pair_serves`: pairing obeys them, also when a requester vanishes while a job is on its way;
* `pair_exhausts`: it goes on until nothing is queued or nobody waits;
* `Serves.unresolved_perm`: jobs whose identifiers do not repeat are only moved.
-/

import Mathlib.Data.List.Perm.Subperm
import Workyard.Dispatch.Loop

namespace Workyard.Dispatch

open scoped List

variable {ρ κ : Type}

/-! ### Jobs by identifier -/

/-- Removing an identifier that no job has removes nothing. -/
theorem without_eq_self {id : JobId} {jobs : List Job} (absent : id ∉ jobs.map Job.id) :
    without id jobs = jobs := by
  refine List.filter_eq_self.mpr fun job member => ?_
  have different : job.id ≠ id := fun same => absent (same ▸ List.mem_map_of_mem member)
  simpa using different

theorem without_sublist (id : JobId) (jobs : List Job) : (without id jobs).Sublist jobs :=
  List.filter_sublist

theorem not_mem_without (id : JobId) (jobs : List Job) : id ∉ (without id jobs).map Job.id := by
  simp [without]

/-- A job that is there accounts for one of the identifiers, whatever is removed with it. -/
theorem cons_without_subperm {id : JobId} {jobs : List Job} (present : id ∈ jobs.map Job.id) :
    (id :: (without id jobs).map Job.id).Subperm (jobs.map Job.id) :=
  List.cons_subperm_of_not_mem_of_mem (not_mem_without id jobs) present
    ((without_sublist id jobs).map Job.id).subperm

namespace Ledger

/-- The identifiers of the jobs that wait or are handed out. -/
def unresolved (ledger : Ledger) : List JobId := (ledger.queue ++ ledger.inFlight).map Job.id

theorem isInFlight_iff (ledger : Ledger) (id : JobId) :
    ledger.isInFlight id = true ↔ id ∈ ledger.inFlight.map Job.id := by
  simp [isInFlight]

/-- If identifiers do not repeat, those of the jobs handed out do not. -/
theorem inFlight_nodup {ledger : Ledger} (distinct : ledger.unresolved.Nodup) :
    (ledger.inFlight.map Job.id).Nodup := by
  rw [unresolved, List.map_append] at distinct
  exact distinct.sublist (List.sublist_append_right _ _)

/-! ### Taking a job and giving it back -/

theorem takeNext_eq_some {ledger next : Ledger} {job : Job}
    (took : ledger.takeNext = some (job, next)) :
    ∃ rest, ledger.queue = job :: rest ∧
      next = { ledger with queue := rest, inFlight := job :: without job.id ledger.inFlight } := by
  unfold takeNext at took
  split at took
  · cases took
  · next head rest queue =>
    cases took
    exact ⟨rest, queue, rfl⟩

theorem takeNext_eq_none {ledger : Ledger} (nothing : ledger.takeNext = none) :
    ledger.queue = [] := by
  unfold takeNext at nothing
  split at nothing
  · assumption
  · cases nothing

/-- A job that is taken and given back is where it was; only a job of its identifier that was handed
out is gone. -/
theorem returnUndelivered_takeNext {ledger next : Ledger} {job : Job}
    (took : ledger.takeNext = some (job, next)) :
    next.returnUndelivered job = { ledger with inFlight := without job.id ledger.inFlight } := by
  obtain ⟨rest, queue, rfl⟩ := takeNext_eq_some took
  simp [returnUndelivered, queue, without]

/-- Taking a job adds no identifier. -/
theorem takeNext_unresolved_subperm {ledger next : Ledger} {job : Job}
    (took : ledger.takeNext = some (job, next)) : next.unresolved.Subperm ledger.unresolved := by
  obtain ⟨rest, queue, rfl⟩ := takeNext_eq_some took
  have fewer : (rest ++ job :: without job.id ledger.inFlight).Subperm
      (job :: rest ++ ledger.inFlight) :=
    List.perm_middle.subperm.trans
      (((without_sublist job.id ledger.inFlight).append_left (job :: rest)).subperm)
  obtain ⟨part, same, within⟩ := fewer
  unfold unresolved
  rw [queue]
  exact ⟨part.map Job.id, same.map Job.id, within.map Job.id⟩

/-- Removing an identifier from the jobs handed out adds none. -/
theorem unresolved_without_subperm (ledger : Ledger) (id : JobId) :
    ({ ledger with inFlight := without id ledger.inFlight } : Ledger).unresolved.Subperm
      ledger.unresolved :=
  (((without_sublist id ledger.inFlight).append_left ledger.queue).map Job.id).subperm

/-- If identifiers do not repeat, the top job is not handed out yet. -/
theorem top_not_inFlight {ledger : Ledger} {job : Job} {below : List Job}
    (queue : ledger.queue = job :: below) (distinct : ledger.unresolved.Nodup) :
    job.id ∉ ledger.inFlight.map Job.id := by
  intro inside
  rw [unresolved, queue, List.cons_append, List.map_cons, List.map_append] at distinct
  exact (List.nodup_cons.mp distinct).1 (List.mem_append_right _ inside)

/-- If identifiers do not repeat, taking a job only moves it. -/
theorem takeNext_of_nodup {ledger next : Ledger} {job : Job}
    (took : ledger.takeNext = some (job, next)) (distinct : ledger.unresolved.Nodup) :
    next.inFlight = job :: ledger.inFlight ∧ next.unresolved.Perm ledger.unresolved := by
  obtain ⟨below, queue, rfl⟩ := takeNext_eq_some took
  have kept := without_eq_self (top_not_inFlight queue distinct)
  have moved : (below ++ job :: ledger.inFlight).Perm (job :: below ++ ledger.inFlight) :=
    List.perm_middle
  refine ⟨by rw [kept], ?_⟩
  unfold unresolved
  rw [queue, kept]
  exact moved.map Job.id

end Ledger

/-! ### The laws of pairing -/

/-- **The laws of pairing** for a ledger and those who wait. -/
structure Serves (presence : ρ → Presence) (ledger : Ledger) (waiting : List ρ)
    (pairing : Pairing ρ) : Prop where
  /-- Jobs leave the queue from the top. -/
  jobs : pairing.delivered.map Prod.snd ++ pairing.dispatcher.ledger.queue = ledger.queue
  /-- Each requester is served, still waits or is dropped. -/
  requesters : (pairing.delivered.map Prod.fst ++ pairing.dispatcher.waiting).Sublist waiting
  /-- Only those who are not present are dropped; the others are served first come first served. -/
  live : pairing.delivered.map Prod.fst ++
      pairing.dispatcher.waiting.filter (presence · = .present) =
    waiting.filter (presence · = .present)
  /-- No identifier is made up. -/
  unresolved : pairing.dispatcher.ledger.unresolved.Subperm ledger.unresolved
  /-- The jobs handed out are those that were and those delivered, if identifiers do not repeat. -/
  inFlight : ledger.unresolved.Nodup →
    pairing.dispatcher.ledger.inFlight.Perm (pairing.delivered.map Prod.snd ++ ledger.inFlight)
  /-- Nothing but the jobs changes. -/
  frame : pairing.dispatcher.ledger = { ledger with
    queue := pairing.dispatcher.ledger.queue, inFlight := pairing.dispatcher.ledger.inFlight }

namespace Serves

variable {presence : ρ → Presence} {ledger next : Ledger} {waiting rest : List ρ} {requester : ρ}
  {job : Job} {pairing : Pairing ρ}

/-- Doing nothing obeys the laws. -/
theorem idle (presence : ρ → Presence) (ledger : Ledger) (waiting : List ρ) :
    Serves presence ledger waiting ⟨[], ⟨ledger, waiting⟩⟩ where
  jobs := rfl
  requesters := List.Sublist.refl _
  live := rfl
  unresolved := List.Subperm.refl _
  inFlight _ := List.Perm.refl _
  frame := rfl

/-- One who is not present may be dropped. -/
theorem drop (absent : presence requester ≠ .present)
    (serves : Serves presence ledger rest pairing) :
    Serves presence ledger (requester :: rest) pairing where
  jobs := serves.jobs
  requesters := serves.requesters.trans (List.sublist_cons_self requester rest)
  live := by
    rw [serves.live, List.filter_cons_of_neg (by simpa using absent)]
  unresolved := serves.unresolved
  inFlight := serves.inFlight
  frame := serves.frame

/-- One who is present may be handed the top job. -/
theorem deliver (took : ledger.takeNext = some (job, next))
    (present : presence requester = .present) (serves : Serves presence next rest pairing) :
    Serves presence ledger (requester :: rest)
      { pairing with delivered := (requester, job) :: pairing.delivered } := by
  have fewer := Ledger.takeNext_unresolved_subperm took
  have moved := Ledger.takeNext_of_nodup took
  obtain ⟨below, queue, rfl⟩ := Ledger.takeNext_eq_some took
  have jobs := serves.jobs
  refine ⟨?_, ?_, ?_, serves.unresolved.trans fewer, fun distinct => ?_, serves.frame⟩
  · rw [queue]
    exact congrArg (job :: ·) jobs
  · exact serves.requesters.cons_cons requester
  · rw [List.filter_cons_of_pos (by simpa using present), ← serves.live]
    rfl
  · obtain ⟨marked, same⟩ := moved distinct
    have grown := serves.inFlight (same.nodup_iff.mpr distinct)
    rw [marked] at grown
    exact grown.trans List.perm_middle

/-- A job on its way to one who vanishes may be given back. -/
theorem giveBack (took : ledger.takeNext = some (job, next))
    (absent : presence requester ≠ .present)
    (serves : Serves presence (next.returnUndelivered job) rest pairing) :
    Serves presence ledger (requester :: rest) pairing := by
  rw [Ledger.returnUndelivered_takeNext took] at serves
  obtain ⟨below, queue, -⟩ := Ledger.takeNext_eq_some took
  have dropped := serves.drop absent
  refine ⟨dropped.jobs, dropped.requesters, dropped.live,
    dropped.unresolved.trans (ledger.unresolved_without_subperm job.id), fun distinct => ?_,
    dropped.frame⟩
  have kept : { ledger with inFlight := without job.id ledger.inFlight } = ledger := by
    rw [without_eq_self (Ledger.top_not_inFlight queue distinct)]
  have grown := dropped.inFlight
  rw [kept] at grown
  exact grown distinct

theorem outstanding_eq (serves : Serves presence ledger waiting pairing) :
    pairing.dispatcher.ledger.outstanding = ledger.outstanding := by
  rw [serves.frame]

/-- One who is served was present. -/
theorem present_of_delivered (serves : Serves presence ledger waiting pairing)
    (served : requester ∈ pairing.delivered.map Prod.fst) : presence requester = .present := by
  have inside : requester ∈ waiting.filter (presence · = .present) := by
    rw [← serves.live]
    exact List.mem_append_left _ served
  simpa using (List.mem_filter.mp inside).2

/-- One who is present and not served still waits. -/
theorem delivered_or_waiting (serves : Serves presence ledger waiting pairing)
    (member : requester ∈ waiting) (present : presence requester = .present) :
    requester ∈ pairing.delivered.map Prod.fst ∨ requester ∈ pairing.dispatcher.waiting := by
  have inside : requester ∈ waiting.filter (presence · = .present) :=
    List.mem_filter.mpr ⟨member, by simpa using present⟩
  rw [← serves.live] at inside
  exact (List.mem_append.mp inside).imp id List.mem_of_mem_filter

/-- No job is made up. -/
theorem mem_ledger (serves : Serves presence ledger waiting pairing)
    (distinct : ledger.unresolved.Nodup)
    (member : job ∈ pairing.dispatcher.ledger.queue ++ pairing.dispatcher.ledger.inFlight) :
    job ∈ ledger.queue ++ ledger.inFlight := by
  have handedOut := (serves.inFlight distinct).mem_iff (a := job)
  rw [← serves.jobs]
  simp only [List.mem_append, handedOut] at member ⊢
  tauto

/-- If nobody asks twice, nobody is served twice, and those who still ask are those who asked and were
not served, less some who are not present; `later` are those who ask later. -/
theorem remaining {later : List ρ} (serves : Serves presence ledger waiting pairing)
    (once : (waiting ++ later).Nodup) :
    (pairing.delivered.map Prod.fst).Nodup ∧ (pairing.dispatcher.waiting ++ later).Nodup ∧
      (∀ requester ∈ pairing.dispatcher.waiting ++ later,
        requester ∈ waiting ++ later ∧ requester ∉ pairing.delivered.map Prod.fst) ∧
      ∀ requester ∈ waiting ++ later, presence requester = .present →
        requester ∉ pairing.delivered.map Prod.fst →
          requester ∈ pairing.dispatcher.waiting ++ later := by
  have kept := serves.requesters.append_right later
  rw [List.append_assoc] at kept
  obtain ⟨served, left, apart⟩ := List.nodup_append.mp (once.sublist kept)
  refine ⟨served, left, fun requester member => ⟨?_, fun delivered => ?_⟩, ?_⟩
  · exact kept.subset (List.mem_append_right _ member)
  · exact apart requester delivered requester member rfl
  · intro requester member present unserved
    rcases List.mem_append.mp member with waits | asksLater
    · have stays := (serves.delivered_or_waiting waits present).resolve_left unserved
      exact List.mem_append_left _ stays
    · exact List.mem_append_right _ asksLater

/-- **Jobs whose identifiers do not repeat are only moved**: none is lost and none is added. -/
theorem unresolved_perm (serves : Serves presence ledger waiting pairing)
    (distinct : ledger.unresolved.Nodup) :
    pairing.dispatcher.ledger.unresolved.Perm ledger.unresolved := by
  have moved : (pairing.dispatcher.ledger.queue ++ pairing.dispatcher.ledger.inFlight).Perm
      (ledger.queue ++ ledger.inFlight) := by
    calc pairing.dispatcher.ledger.queue ++ pairing.dispatcher.ledger.inFlight
        ~ pairing.dispatcher.ledger.queue ++
            (pairing.delivered.map Prod.snd ++ ledger.inFlight) :=
          (serves.inFlight distinct).append_left _
      _ ~ pairing.delivered.map Prod.snd ++ pairing.dispatcher.ledger.queue ++
            ledger.inFlight := by
          rw [← List.append_assoc]
          exact List.perm_append_comm.append_right _
      _ = ledger.queue ++ ledger.inFlight := by rw [serves.jobs]
  exact moved.map Job.id

end Serves

/-- Pairing goes on until nothing is queued or nobody waits. -/
theorem pair_exhausts (presence : ρ → Presence) (ledger : Ledger) (waiting : List ρ) :
    (pair presence ledger waiting).dispatcher.ledger.queue = [] ∨
      (pair presence ledger waiting).dispatcher.waiting = [] := by
  induction waiting generalizing ledger with
  | nil => exact .inr rfl
  | cons requester rest hypothesis =>
    unfold pair
    split
    · exact hypothesis ledger
    · split
      · next nothing => exact .inl (Ledger.takeNext_eq_none nothing)
      · next job next took => exact hypothesis next
    · split
      · next nothing => exact .inl (Ledger.takeNext_eq_none nothing)
      · next job next took => exact hypothesis _

/-- **Pairing obeys the laws**, whoever is gone or vanishes. -/
theorem pair_serves (presence : ρ → Presence) (ledger : Ledger) (waiting : List ρ) :
    Serves presence ledger waiting (pair presence ledger waiting) := by
  induction waiting generalizing ledger with
  | nil => exact Serves.idle presence ledger []
  | cons requester rest hypothesis =>
    unfold pair
    split
    · next gone => exact (hypothesis ledger).drop (by simp [gone])
    · next present =>
      split
      · exact Serves.idle presence ledger (requester :: rest)
      · next job next took => exact (hypothesis next).deliver took present
    · next vanishing =>
      split
      · exact Serves.idle presence ledger (requester :: rest)
      · next job next took => exact (hypothesis _).giveBack took (by simp [vanishing])

end Workyard.Dispatch
