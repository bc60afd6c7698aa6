/-
**No job is lost or counted twice.**

A ledger accounts for the events handled so far: its counters are what the events say, and the
identifiers that it holds or that were resolved are among those submitted, each at most as often.

* `Accounts.react`: an event that is accepted keeps the accounts;
* `course_accounts`: they hold whenever a dispatcher waits for its next event, also if identifiers
  repeat;
* `course_delivered`: nothing is handed out that was not submitted;
* `course_conserves`: if no identifier repeats, those queued, handed out and resolved are together
  exactly those submitted, each once, and every snapshot adds up.
-/

import Workyard.Proofs.Dispatch.Course

namespace Workyard.Dispatch

open scoped List

variable {ρ κ : Type}

/-! ### Removing one job -/

/-- If identifiers do not repeat, removing one removes one job. -/
theorem cons_without_perm {job : Job} {jobs : List Job} (distinct : (jobs.map Job.id).Nodup)
    (present : job ∈ jobs) : (job :: without job.id jobs).Perm jobs := by
  induction jobs with
  | nil => cases present
  | cons first rest hypothesis =>
    rw [List.map_cons] at distinct
    obtain ⟨absent, distinctRest⟩ := List.nodup_cons.mp distinct
    rcases List.mem_cons.mp present with rfl | inside
    · have removed : without job.id (job :: rest) = rest := by
        rw [without, List.filter_cons_of_neg (by simp)]
        exact without_eq_self absent
      rw [removed]
    · have different : first.id ≠ job.id := fun same =>
        absent (same ▸ List.mem_map_of_mem inside)
      have kept : without job.id (first :: rest) = first :: without job.id rest :=
        List.filter_cons_of_pos (by simpa using different)
      rw [kept]
      exact (List.Perm.swap first job _).trans ((hypothesis distinctRest inside).cons first)

/-- What an accepted report does to the ledger. -/
structure Ledger.Takes (ledger : Ledger) (report : Report) (next : Ledger) : Prop where
  present : report.job.id ∈ ledger.inFlight.map Job.id
  queue : next.queue = report.sentBack?.toList ++ ledger.queue
  inFlight : next.inFlight = without report.job.id ledger.inFlight
  outstanding : next.outstanding = ledger.outstanding - report.resolved?.toList.length
  completed : next.tally.completed = ledger.tally.completed + report.resolved?.toList.length
  reposted : next.reposted = ledger.reposted + report.sentBack?.toList.length
  gotEof : next.gotEof = ledger.gotEof

theorem Ledger.takes_of_apply {ledger next : Ledger} {report : Report}
    (applied : ledger.apply report = .ok next) : ledger.Takes report next := by
  have known : ledger.isInFlight report.job.id = true :=
    (ledger.apply_isOk_iff report).mp ⟨next, applied⟩
  have present := (ledger.isInFlight_iff report.job.id).mp known
  unfold Ledger.apply at applied
  rw [if_pos known] at applied
  cases report with
  | ok job =>
    cases applied
    exact ⟨present, rfl, rfl, rfl, by simp [Tally.completed, Report.resolved?]; omega, rfl, rfl⟩
  | fail job reason =>
    cases applied
    exact ⟨present, rfl, rfl, rfl, by simp [Tally.completed, Report.resolved?]; omega, rfl, rfl⟩
  | repost job =>
    cases applied
    exact ⟨present, rfl, rfl, rfl, rfl, rfl, rfl⟩

/-- A report either resolves its job or sends it back. -/
theorem reported_ids (report : Report) (ids : List JobId) :
    ((report.sentBack?.toList).map Job.id ++ ids ++ (report.resolved?.toList).map Job.id).Perm
      (report.job.id :: ids) := by
  cases report with
  | ok job => exact List.perm_append_singleton job.id ids
  | fail job reason => exact List.perm_append_singleton job.id ids
  | repost job => exact List.Perm.of_eq (List.append_nil _)

/-- Each report either resolves its job or sends it back. -/
theorem reports_length (events : List (Event ρ κ)) :
    (reports events).length = (resolved events).length + (sentBack events).length := by
  unfold resolved sentBack
  induction reports events with
  | nil => rfl
  | cons report reports hypothesis =>
    cases report <;>
      simp [List.filterMap_cons, Report.resolved?, Report.sentBack?, hypothesis] <;> omega

/-! ### The accounts -/

/-- **The ledger accounts for the events handled.** -/
structure Accounts (events : List (Event ρ κ)) (ledger : Ledger) : Prop where
  /-- What is held or resolved was submitted. -/
  kept : (ledger.unresolved ++ (resolved events).map Job.id).Subperm
    ((submitted events).map Job.id)
  balance : ledger.outstanding + (resolved events).length = (submitted events).length
  completed : ledger.tally.completed = (resolved events).length
  reposted : ledger.reposted = (sentBack events).length
  gotEof : ledger.gotEof = true ↔ .endOfInput ∈ events

namespace Accounts

variable {events : List (Event ρ κ)} {event : Event ρ κ} {ledger next : Ledger}

/-- A ledger holds no more jobs than are outstanding. -/
theorem unresolved_le (accounts : Accounts events ledger) :
    ledger.unresolved.length ≤ ledger.outstanding := by
  have fewer := accounts.kept.length_le
  have balance := accounts.balance
  simp only [List.length_append, List.length_map] at fewer
  omega

theorem submit (accounts : Accounts events ledger) (job : Job) :
    Accounts (events ++ [.submit job]) (ledger.post job) where
  kept := by
    have more := (List.subperm_cons job.id).mpr accounts.kept
    simpa [Ledger.unresolved, Ledger.post] using
      more.trans (List.perm_append_singleton job.id _).symm.subperm
  balance := by
    have balance := accounts.balance
    simp [Ledger.post]
    omega
  completed := by simpa [Ledger.post] using accounts.completed
  reposted := by simpa [Ledger.post] using accounts.reposted
  gotEof := by simpa [Ledger.post] using accounts.gotEof

theorem report (accounts : Accounts events ledger) {report : Report}
    (takes : ledger.Takes report next) : Accounts (events ++ [.report report]) next where
  kept := by
    -- the job reported on is one of those handed out; it is resolved or queued again
    have regrouped : (next.unresolved ++ (resolved (events ++ [.report report])).map Job.id).Perm
        (report.job.id :: (ledger.queue ++ without report.job.id ledger.inFlight).map Job.id ++
          (resolved events).map Job.id) := by
      have ids := (reported_ids report
        ((ledger.queue ++ without report.job.id ledger.inFlight).map Job.id)).append_right
          ((resolved events).map Job.id)
      refine List.Perm.trans ?_ ids
      rw [Ledger.unresolved, takes.queue, takes.inFlight]
      simp only [resolved_append, resolved_cons, resolved_nil, Event.report?, Option.bind_some,
        List.map_append, List.append_nil, List.append_assoc]
      exact ((List.perm_append_comm.append_left _).append_left _).append_left _
    have held : (report.job.id ::
        (ledger.queue ++ without report.job.id ledger.inFlight).map Job.id).Subperm
          ledger.unresolved := by
      rw [List.map_append, Ledger.unresolved, List.map_append]
      exact List.perm_middle.symm.subperm.trans
        ((List.subperm_append_left _).mpr (cons_without_subperm takes.present))
    have nothingNew : submitted (events ++ [.report report]) = submitted events := by simp
    rw [nothingNew]
    exact regrouped.subperm.trans (((List.subperm_append_right _).mpr held).trans accounts.kept)
  balance := by
    -- the job reported on is outstanding, so that the subtraction is exact
    have room := accounts.unresolved_le
    have held := List.length_pos_of_mem takes.present
    have atMostOne : report.resolved?.toList.length ≤ 1 := Option.length_toList_le
    have balance := accounts.balance
    rw [takes.outstanding]
    simp only [Ledger.unresolved, List.length_append, List.length_map] at room held
    simp
    omega
  completed := by
    rw [takes.completed, accounts.completed]
    simp
  reposted := by
    rw [takes.reposted, accounts.reposted]
    simp
  gotEof := by
    rw [takes.gotEof]
    simpa using accounts.gotEof

theorem endOfInput (accounts : Accounts events ledger) :
    Accounts (events ++ [.endOfInput]) ledger.endOfInput where
  kept := by simpa [Ledger.endOfInput, Ledger.unresolved] using accounts.kept
  balance := by simpa [Ledger.endOfInput] using accounts.balance
  completed := by simpa [Ledger.endOfInput] using accounts.completed
  reposted := by simpa [Ledger.endOfInput] using accounts.reposted
  gotEof := by simp [Ledger.endOfInput]

/-- **An event that is accepted keeps the accounts.** -/
theorem react (accounts : Accounts events ledger) (reacted : ledger.react event = .ok next) :
    Accounts (events ++ [event]) next := by
  cases event with
  | submit job =>
    cases reacted
    exact accounts.submit job
  | report report => exact accounts.report (Ledger.takes_of_apply reacted)
  | endOfInput =>
    cases reacted
    exact accounts.endOfInput
  | request requester =>
    cases reacted
    exact ⟨by simpa using accounts.kept, by simpa using accounts.balance,
      by simpa using accounts.completed, by simpa using accounts.reposted,
      by simpa using accounts.gotEof⟩
  | stats asker =>
    cases reacted
    exact ⟨by simpa using accounts.kept, by simpa using accounts.balance,
      by simpa using accounts.completed, by simpa using accounts.reposted,
      by simpa using accounts.gotEof⟩

/-- A ledger that differs only in the jobs that it holds, and holds no others, keeps the accounts. -/
theorem shrink (accounts : Accounts events ledger)
    (fewer : next.unresolved.Subperm ledger.unresolved)
    (frame : next = { ledger with queue := next.queue, inFlight := next.inFlight }) :
    Accounts events next := by
  have less := (List.subperm_append_right ((resolved events).map Job.id)).mpr fewer
  refine ⟨less.trans accounts.kept, ?_, ?_, ?_, ?_⟩
  · rw [frame]
    exact accounts.balance
  · rw [frame]
    exact accounts.completed
  · rw [frame]
    exact accounts.reposted
  · rw [frame]
    exact accounts.gotEof

/-- Handing out jobs keeps the accounts. -/
theorem serve {presence : ρ → Presence} {waiting : List ρ} {pairing : Pairing ρ}
    (accounts : Accounts events ledger) (serves : Serves presence ledger waiting pairing) :
    Accounts events pairing.dispatcher.ledger :=
  accounts.shrink serves.unresolved serves.frame

/-- If nothing is outstanding, nothing is held and exactly what was submitted is resolved. -/
theorem settled (accounts : Accounts events ledger) (none' : ledger.outstanding = 0) :
    ledger.queue = [] ∧ ledger.inFlight = [] ∧
      ((resolved events).map Job.id).Perm ((submitted events).map Job.id) := by
  have empty : ledger.unresolved = [] := by
    have room := accounts.unresolved_le
    rw [none'] at room
    exact List.eq_nil_of_length_eq_zero (Nat.le_zero.mp room)
  have kept := accounts.kept
  have balance := accounts.balance
  rw [empty, List.nil_append] at kept
  obtain ⟨queue, inFlight⟩ := List.append_eq_nil_iff.mp (List.map_eq_nil_iff.mp empty)
  refine ⟨queue, inFlight, kept.perm_of_length_le ?_⟩
  simp only [List.length_map]
  omega

/-- If no identifier was submitted twice, none is held twice. -/
theorem unresolved_nodup (accounts : Accounts events ledger)
    (distinct : ((submitted events).map Job.id).Nodup) : ledger.unresolved.Nodup := by
  obtain ⟨part, same, within⟩ := accounts.kept
  exact (same.nodup_iff.mp (distinct.sublist within)).sublist (List.sublist_append_left _ _)

/-- If as much is held as is outstanding, what is held or resolved is exactly what was submitted. -/
theorem conserved (accounts : Accounts events ledger)
    (held : ledger.unresolved.length = ledger.outstanding) :
    (ledger.unresolved ++ (resolved events).map Job.id).Perm ((submitted events).map Job.id) := by
  refine accounts.kept.perm_of_length_le ?_
  have balance := accounts.balance
  simp only [List.length_append, List.length_map]
  omega

end Accounts

/-- **The accounts hold whenever a dispatcher waits for its next event.** -/
theorem course_accounts (occasions : List (Occasion ρ κ))
    (going : (Course.of occasions).ending = none) :
    Accounts (occasions.map Occasion.event) (Course.of occasions).dispatcher.ledger := by
  refine Course.of_induction (motive := fun occasions dispatcher =>
    Accounts (occasions.map Occasion.event) dispatcher.ledger) ?_ ?_ occasions going
  · exact ⟨List.Subperm.refl _, rfl, rfl, rfl, by simp⟩
  · intro occasions occasion _ accounts goesOn
    rw [List.map_append]
    obtain ⟨ledger, reacted, -, -, serves⟩ := Course.next_of_going goesOn
    exact (accounts.react reacted).serve serves

/-! ### What is handed out -/

/-- **Nothing is handed out that was not submitted before**, by its identifier. -/
theorem next_delivered {occasions : List (Occasion ρ κ)} {occasion : Occasion ρ κ}
    (going : (Course.of occasions).ending = none) {delivery : ρ × Job}
    (member : delivery ∈ ((Course.of occasions).next occasion).delivered) :
    delivery.2.id ∈ (submitted ((occasions ++ [occasion]).map Occasion.event)).map Job.id := by
  cases (Course.of occasions).next_turnsOut occasion with
  | refused error reacted same =>
    rw [same] at member
    cases member
  | closes ledger reacted decisive complete same =>
    rw [same] at member
    cases member
  | goesOn ledger reacted incomplete goesOn released serves =>
    have accounts := (course_accounts occasions going).react reacted
    have queued : delivery.2 ∈ ledger.queue := by
      rw [← serves.jobs]
      exact List.mem_append_left _ (List.mem_map_of_mem member)
    rw [List.map_append]
    refine accounts.kept.subset (List.mem_append_left _ ?_)
    exact List.mem_map_of_mem (List.mem_append_left _ queued)

theorem course_delivered (occasions : List (Occasion ρ κ)) {delivery : ρ × Job}
    (member : delivery ∈ (Course.of occasions).delivered) :
    delivery.2.id ∈ (submitted (occasions.map Occasion.event)).map Job.id := by
  induction occasions using List.reverseRecOn with
  | nil => cases member
  | append_singleton occasions occasion hypothesis =>
    have earlier (before : delivery ∈ (Course.of occasions).delivered) : delivery.2.id ∈
        (submitted ((occasions ++ [occasion]).map Occasion.event)).map Job.id := by
      rw [List.map_append, submitted_append, List.map_append]
      exact List.mem_append_left _ (hypothesis before)
    by_cases going : (Course.of occasions).ending = none
    · rw [Course.of_append_singleton, Course.extend_of_going going, Course.delivered,
        List.flatMap_append, List.flatMap_singleton] at member
      exact (List.mem_append.mp member).elim earlier (next_delivered going)
    · rw [Course.of_append_of_stopped going] at member
      exact earlier member

/-! ### Identifiers that do not repeat -/

/-- If identifiers do not repeat, what is held changes as what is outstanding does. -/
theorem react_held {event : Event ρ κ} {ledger next : Ledger}
    (distinct : ledger.unresolved.Nodup) (reacted : ledger.react event = .ok next)
    (held : ledger.unresolved.length = ledger.outstanding) :
    next.unresolved.length = next.outstanding := by
  cases event with
  | submit job =>
    cases reacted
    simpa [Ledger.post, Ledger.unresolved] using held
  | report report =>
    have takes := Ledger.takes_of_apply reacted
    have handedOut := Ledger.inFlight_nodup distinct
    obtain ⟨job, member, named⟩ := List.mem_map.mp takes.present
    have removed := (cons_without_perm handedOut member).length_eq
    rw [named] at removed
    have one := (reported_ids report []).length_eq
    rw [Ledger.unresolved, takes.queue, takes.inFlight, takes.outstanding]
    simp only [Ledger.unresolved, List.length_append, List.length_map, List.length_cons,
      List.length_nil] at removed one held ⊢
    omega
  | endOfInput =>
    cases reacted
    exact held
  | request requester =>
    cases reacted
    exact held
  | stats asker =>
    cases reacted
    exact held

/-- **If no identifier repeats, as much is held as is outstanding.** -/
theorem course_held (occasions : List (Occasion ρ κ)) (going : (Course.of occasions).ending = none)
    (distinct : ((submitted (occasions.map Occasion.event)).map Job.id).Nodup) :
    (Course.of occasions).dispatcher.ledger.unresolved.length =
      (Course.of occasions).dispatcher.ledger.outstanding := by
  revert distinct
  refine Course.of_induction (motive := fun occasions dispatcher =>
    ((submitted (occasions.map Occasion.event)).map Job.id).Nodup →
      dispatcher.ledger.unresolved.length = dispatcher.ledger.outstanding) ?_ ?_ occasions going
  · exact fun _ => rfl
  · intro occasions occasion going hypothesis goesOn distinct
    have accounts := course_accounts occasions going
    obtain ⟨ledger, reacted, -, -, serves⟩ := Course.next_of_going goesOn
    have before : ((submitted (occasions.map Occasion.event)).map Job.id).Nodup := by
      rw [List.map_append, submitted_append, List.map_append] at distinct
      exact distinct.sublist (List.sublist_append_left _ _)
    rw [List.map_append] at distinct
    have now := react_held (accounts.unresolved_nodup before) reacted (hypothesis before)
    have distinctNow := (accounts.react reacted).unresolved_nodup distinct
    calc ((Course.of occasions).next occasion).dispatcher.ledger.unresolved.length
        = ledger.unresolved.length := (serves.unresolved_perm distinctNow).length_eq
      _ = ledger.outstanding := now
      _ = ((Course.of occasions).next occasion).dispatcher.ledger.outstanding :=
          serves.outstanding_eq.symm

/-- **Nothing is lost or counted twice.** As long as a dispatcher waits for its next event, the
identifiers queued, handed out and resolved do not repeat and are together those submitted, and any
snapshot that it gives adds up. -/
theorem course_conserves (occasions : List (Occasion ρ κ))
    (going : (Course.of occasions).ending = none)
    (distinct : ((submitted (occasions.map Occasion.event)).map Job.id).Nodup) :
    let events := occasions.map Occasion.event
    let dispatcher := (Course.of occasions).dispatcher
    let ids := dispatcher.ledger.queue.map Job.id ++ dispatcher.ledger.inFlight.map Job.id ++
      (resolved events).map Job.id
    ids.Nodup ∧ ids.Perm ((submitted events).map Job.id) ∧
      ∀ (presence : ρ → Presence) (asker : κ), ∃ stats : Stats,
        (dispatcher.handle presence (.stats asker)).answer = some (asker, stats) ∧
          stats.queued + stats.inFlight = stats.outstanding ∧
          stats.ok + stats.failed + stats.outstanding = (submitted events).length ∧
          stats.reposted = (sentBack events).length := by
  intro events dispatcher ids
  have accounts : Accounts events dispatcher.ledger := course_accounts occasions going
  have held : dispatcher.ledger.unresolved.length = dispatcher.ledger.outstanding :=
    course_held occasions going distinct
  have conserved : ids.Perm ((submitted events).map Job.id) := by
    have together := accounts.conserved held
    rw [Ledger.unresolved, List.map_append] at together
    exact together
  refine ⟨conserved.nodup_iff.mpr distinct, conserved, fun presence asker =>
    ⟨dispatcher.ledger.stats, rfl, ?_, ?_, accounts.reposted⟩⟩
  · simpa [Ledger.unresolved, Ledger.stats] using held
  · have completed := accounts.completed
    have balance := accounts.balance
    simp only [Ledger.stats, Tally.completed] at completed ⊢
    omega

/-- Occasions on which a job is sent back and handed out again, and another is on its way to a
requester that vanishes. -/
def resubmission : List (Occasion Nat Nat) :=
  [⟨.submit ⟨"job-1", "true"⟩, fun _ => .present⟩, ⟨.request 0, fun _ => .present⟩,
    ⟨.submit ⟨"job-2", "false"⟩, fun _ => .present⟩, ⟨.request 1, fun _ => .vanishing⟩,
    ⟨.report (.repost ⟨"job-1", "true"⟩), fun _ => .gone⟩, ⟨.request 2, fun _ => .present⟩,
    ⟨.report (.ok ⟨"job-1", "true"⟩), fun _ => .present⟩]

theorem course_conserves_resubmission :
    (Course.of resubmission).ending = none ∧
      ((submitted (resubmission.map Occasion.event)).map Job.id).Nodup ∧
      (Course.of resubmission).dispatcher.ledger.queue = [⟨"job-2", "false"⟩] ∧
      ((Course.of resubmission).dispatcher.ledger.queue.map Job.id ++
        (Course.of resubmission).dispatcher.ledger.inFlight.map Job.id ++
        (resolved (resubmission.map Occasion.event)).map Job.id).Perm
          ((submitted (resubmission.map Occasion.event)).map Job.id) := by
  have going : (Course.of resubmission).ending = none := by decide +kernel
  have distinct : ((submitted (resubmission.map Occasion.event)).map Job.id).Nodup := by
    decide +kernel
  exact ⟨going, distinct, by decide +kernel, (course_conserves resubmission going distinct).2.1⟩

end Workyard.Dispatch
