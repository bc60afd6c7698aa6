/-
**The jobs that proxies hold.**

If only proxies report, no two of them hold the same job, and no result has been reported for a job
that a proxy holds. When the dispatcher stops, nobody holds a job any more: if it closes, everything
is resolved, and if it is abandoned, all proxies have ended.

* `held_outside`: only the dispatcher makes a proxy hold a job;
* `Stilled`: a yard in which no proxy holds a job and no report is on its way;
* `run_stopped`: a yard whose dispatcher has stopped is still;
* `Keeping`, `run_keeping`: what is so of the jobs that proxies hold.
-/

import Workyard.Proofs.Yard.Answers
import Workyard.Proofs.Yard.Custody

namespace Workyard.Yard

open Dispatch
open scoped List

variable {σ : Type} {setting : Setting σ} {kept : σ} {steps : List (Step σ)} {yard after : Yard σ}
  {action : Action}

/-! ### Coming to hold a job -/

/-- Nobody comes to hold a job unless the dispatcher hands it out. -/
theorem held_outside (isOutside : action.isOutside = true)
    (possible : yard.act setting action = some after) : after.held ⊆ yard.held := by
  cases act_involves possible with
  | nobody bystanding proxies callers =>
    rw [(undisturbed (fun _ => newcomer_connecting) proxies callers).1]
    exact List.Subset.refl _
  | @proxy _ number acts step =>
    obtain ⟨proxy, messages, phase, found, moves, same⟩ := step
    have replaced : after.proxies = yard.proxies.set number { proxy with phase } := same ▸ rfl
    intro job member
    have moved := (held_of_set found replaced).subset (List.mem_append_right _ member)
    rcases List.mem_append.mp moved with now | before
    · have held := moves.held_of_held (Option.mem_toList.mp now)
      exact List.mem_filterMap.mpr ⟨proxy, List.mem_of_getElem? found, held⟩
    · exact before
  | request same =>
    rw [same, Yard.request]
    split <;> exact List.Subset.refl _
  | withdraw same =>
    rw [same, Yard.withdraw]
    split <;> exact List.Subset.refl _
  | process | abandon => cases isOutside

/-! ### After the dispatcher has stopped -/

/-- Whether no proxy holds a job, all reports having been handled. -/
structure Stilled (steps : List (Step σ)) (yard : Yard σ) : Prop where
  held : yard.held = []
  reports : reports (sent steps) = reports (handled steps)

/-- A yard that is still stays so until the dispatcher hands out a job. -/
theorem Stilled.outside (stilled : Stilled steps yard) (shut : yard.isOpen = false)
    (isOutside : action.isOutside = true) (possible : yard.act setting action = some after) :
    Stilled (steps ++ [⟨yard, action, after⟩]) after where
  held := List.subset_nil.mp (stilled.held ▸ held_outside isOutside possible)
  reports := by
    rw [sent_append, (act_appends isOutside possible).sent_eq isOutside,
      said_of_shut (by simp [shut]), List.append_nil, handled_outside steps isOutside]
    exact stilled.reports

/-- Nobody comes to hold a job when nobody is given one. -/
theorem Answers.held_eq_nil (answers : Answers [] yard after) (held : yard.held = []) :
    after.held = [] := by
  refine List.eq_nil_iff_forall_not_mem.mpr fun job member => ?_
  rcases answers.mem_held member with before | given
  · rw [held] at before
    cases before
  · cases given

/-- A dispatcher that closes leaves nobody with a job. -/
theorem Traced.stilled (traced : Traced steps yard) (queued : Queued yard)
    (follows : Follows steps yard) (distinct : ((submitted (handled steps)).map Job.id).Nodup)
    (possible : yard.process setting.log = some after) (shut : after.isOpen = false) :
    Stilled (steps ++ [⟨yard, .process, after⟩]) after := by
  obtain ⟨isOpen, -⟩ := process_eq_some possible
  obtain ⟨ending, stopped⟩ : ∃ ending, after.board.ending = some ending := by
    have stopped : after.board.ending ≠ none := fun going => by
      rw [(isOpen_eq_true_iff after).mpr going] at shut
      cases shut
    exact Option.ne_none_iff_exists'.mp stopped
  obtain ⟨event, rest, ledger, channel, reacted, complete, -⟩ :=
    traced.process_closes follows possible stopped
  -- the ledger is complete, so that nothing is handed out, held or on its way
  obtain ⟨-, course, dispatcher, sent⟩ := follows.of_isOpen isOpen
  have accounts := course_accounts (occasions steps) course
  rw [dispatcher] at accounts
  obtain ⟨-, settled⟩ := ledger.isComplete_iff.mp complete
  obtain ⟨-, inFlight, -⟩ := (accounts.react reacted).settled settled
  obtain ⟨left, -⟩ := traced.react (accounts.unresolved_nodup distinct) channel reacted
  rw [inFlight] at left
  obtain ⟨people, onItsWay⟩ := List.append_eq_nil_iff.mp left.symm.eq_nil
  obtain ⟨held, -⟩ := List.append_eq_nil_iff.mp people
  refine ⟨?_, ?_⟩
  · obtain ⟨given, answers, nothing⟩ := queued.process_answers follows possible
    rw [nothing shut] at answers
    exact answers.held_eq_nil held
  · rw [sent_process, handled_process steps channel, sent, channel, List.append_cons,
      reports_append, List.map_eq_nil_iff.mp onItsWay, List.append_nil]

/-- A dispatcher that is abandoned leaves nobody with a job. -/
theorem Queued.stilled (queued : Queued yard) (follows : Follows steps yard)
    (possible : yard.abandon setting.log = some after) :
    Stilled (steps ++ [⟨yard, .abandon, after⟩]) after := by
  obtain ⟨isOpen, channel, -⟩ := abandon_eq_some possible
  obtain ⟨-, -, -, sent⟩ := follows.of_isOpen isOpen
  refine ⟨(queued.abandon_answers possible).held_eq_nil ?_, ?_⟩
  · refine List.filterMap_eq_nil_iff.mpr fun proxy member => ?_
    have ended := ended_of_abandon possible proxy member
    cases phase : proxy.phase with
    | ended exit => rfl
    | _ =>
      rw [phase] at ended
      cases ended
  · rw [sent_abandon, handled_abandon, sent, channel, List.append_nil]

/-- **When the dispatcher has stopped, nobody holds a job and no report is on its way.** -/
theorem run_stopped (run : Run setting kept steps yard)
    (unreported : ∀ step ∈ steps, step.action.isReport = false)
    (distinct : ((submitted (handled steps)).map Job.id).Nodup) (shut : yard.isOpen = false) :
    Stilled steps yard := by
  induction run using Run.kind_induction with
  | fresh => cases shut
  | outside steps before after action _ isOutside possible hypothesis =>
    have earlier := (act_appends isOutside possible).isOpen_eq ▸ shut
    have stilled := hypothesis (fun step member => unreported step (List.mem_append_left _ member))
      (distinct_of_append distinct) earlier
    exact stilled.outside earlier isOutside possible
  | process steps before after run possible _ =>
    obtain ⟨isOpen, -⟩ := process_eq_some possible
    have before := distinct_of_append distinct
    obtain ⟨traced, -⟩ := run_traced run
      (fun step member => unreported step (List.mem_append_left _ member)) before
    exact (traced isOpen).stilled (run_queued run isOpen) (run_follows run) before possible shut
  | abandon steps before after run possible _ =>
    obtain ⟨isOpen, -⟩ := abandon_eq_some possible
    exact (run_queued run isOpen).stilled (run_follows run) possible

/-! ### All runs -/

/-- What is so of the jobs that proxies hold. -/
structure Keeping (steps : List (Step σ)) (yard : Yard σ) : Prop where
  /-- No two proxies hold jobs of the same identifier. -/
  apart : (yard.held.map Job.id).Nodup
  known : ∀ job ∈ yard.held, job ∈ submitted (handled steps)
  /-- No result has been reported for a job that a proxy holds. -/
  unresolved : ∀ job ∈ yard.held, job.id ∉ (resolved (sent steps)).map Job.id

/-- What is held, reported on or resolved are jobs of different identifiers. -/
theorem Traced.apart (traced : Traced steps yard) (follows : Follows steps yard)
    (distinct : ((submitted (handled steps)).map Job.id).Nodup) (isOpen : yard.isOpen = true) :
    ((yard.held ++ yard.carried ++ resolved (handled steps)).map Job.id).Nodup := by
  obtain ⟨-, course, dispatcher, -⟩ := follows.of_isOpen isOpen
  have accounts := course_accounts (occasions steps) course
  rw [dispatcher] at accounts
  have places : (yard.held ++ yard.carried).Subperm yard.dispatcher.ledger.inFlight := by
    refine List.Subperm.trans ?_ traced.places.symm.subperm
    rw [List.append_assoc]
    exact ((List.sublist_append_right _ _).append_left _).subperm
  obtain ⟨part, same, sublist⟩ := places
  have handedOut : ((yard.held ++ yard.carried).map Job.id).Subperm
      yard.dispatcher.ledger.unresolved := by
    have inFlight : ((yard.held ++ yard.carried).map Job.id).Subperm
        (yard.dispatcher.ledger.inFlight.map Job.id) :=
      ⟨part.map Job.id, same.map Job.id, sublist.map Job.id⟩
    exact inFlight.trans ((List.sublist_append_right _ _).map Job.id).subperm
  rw [List.map_append]
  obtain ⟨all, perm, within⟩ :=
    ((List.subperm_append_right _).mpr handedOut).trans accounts.kept
  exact perm.nodup_iff.mp (distinct.sublist within)

/-- **What is so of the jobs that proxies hold** in every run in which only proxies report. -/
theorem run_keeping (run : Run setting kept steps yard)
    (unreported : ∀ step ∈ steps, step.action.isReport = false)
    (distinct : ((submitted (handled steps)).map Job.id).Nodup) : Keeping steps yard := by
  cases isOpen : yard.isOpen with
  | false =>
    have held := (run_stopped run unreported distinct isOpen).held
    exact ⟨by simp [held], by simp [held], by simp [held]⟩
  | true =>
    have follows := run_follows run
    obtain ⟨-, -, -, sent⟩ := follows.of_isOpen isOpen
    have traced := (run_traced run unreported distinct).1 isOpen
    have apart := traced.apart follows distinct isOpen
    rw [List.append_assoc, List.map_append] at apart
    obtain ⟨heldApart, -, disjoint⟩ := List.nodup_append.mp apart
    refine ⟨heldApart, fun job member => ?_, fun job member done => ?_⟩
    · refine traced.known job (List.mem_append_right _ (traced.places.mem_iff.mpr ?_))
      exact List.mem_append_left _ (List.mem_append_left _ member)
    · refine disjoint job.id (List.mem_map_of_mem member) job.id ?_ rfl
      rw [sent, resolved_append, List.map_append] at done
      rw [List.map_append]
      rcases List.mem_append.mp done with handled | onItsWay
      · exact List.mem_append_right _ handled
      · -- a result on its way is carried by a report
        obtain ⟨other, reported, same⟩ := List.mem_map.mp onItsWay
        obtain ⟨report, inside, resolves⟩ := List.mem_filterMap.mp reported
        have carries : other ∈ yard.carried := by
          refine List.mem_map.mpr ⟨report, inside, ?_⟩
          cases report <;> cases resolves <;> rfl
        exact List.mem_append_left _ (same ▸ List.mem_map_of_mem carries)

end Workyard.Yard
