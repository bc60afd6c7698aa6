/-
**What a dispatcher counts and records.**

Each report that is accepted is counted, and each result goes to the completion log. So the counters
and the log are determined by the reports handled, whether the dispatcher goes on or closes.

* `recorded`: the results among the reports, as the log gets them;
* `Counts`, `course_counts`: what the counters are as long as the dispatcher goes on;
* `closed_counts`: what they are when it closes;
* `handle_entry`: what an event that is accepted gives to the log.
-/

import Workyard.Proofs.Dispatch.Closing
import Workyard.Dispatch.Log

namespace Workyard.Dispatch

variable {ρ κ : Type}

/-! ### Results -/

/-- The command that succeeded. -/
def Entry.ok? : Entry → Option String
  | .ok command => some command
  | .failed _ _ => none

/-- The command that failed, with the reason. -/
def Entry.failed? : Entry → Option (String × String)
  | .ok _ => none
  | .failed command reason => some (command, reason)

/-- The results among the reports, in order. -/
def recorded (events : List (Event ρ κ)) : List Entry :=
  (reports events).filterMap Entry.ofReport?

theorem recorded_append (events later : List (Event ρ κ)) :
    recorded (events ++ later) = recorded events ++ recorded later := by
  simp [recorded, reports_append]

theorem recorded_singleton (event : Event ρ κ) :
    recorded [event] = (event.report?.bind Entry.ofReport?).toList := by
  cases event with
  | report report => cases report <;> rfl
  | _ => rfl

/-- Entries that a log keeps are appended, successes and failures apart. -/
theorem Kept.foldl_add (entries : List Entry) (kept : Kept) :
    entries.foldl Kept.add kept =
      ⟨kept.ok ++ entries.filterMap Entry.ok?, kept.failed ++ entries.filterMap Entry.failed?⟩ := by
  induction entries generalizing kept with
  | nil => simp
  | cons entry entries hypothesis =>
    rw [List.foldl_cons, hypothesis]
    cases entry <;> simp [Kept.add, List.filterMap_cons, Entry.ok?, Entry.failed?]

/-! ### Counters -/

/-- The counters are those of the reports handled. -/
structure Counts (events : List (Event ρ κ)) (ledger : Ledger) : Prop where
  tally : ledger.tally = ⟨((recorded events).filterMap Entry.ok?).length,
    ((recorded events).filterMap Entry.failed?).length⟩
  reposted : ledger.reposted = (sentBack events).length

namespace Counts

variable {events : List (Event ρ κ)} {event : Event ρ κ} {ledger next : Ledger}

/-- **An event that is accepted is counted.** -/
theorem react (counts : Counts events ledger) (reacted : ledger.react event = .ok next) :
    Counts (events ++ [event]) next := by
  obtain ⟨tally, reposted⟩ := counts
  have sentBackNow : sentBack (events ++ [event]) =
      sentBack events ++ (event.report?.bind Report.sentBack?).toList := by simp
  cases event with
  | report report =>
    have known := (ledger.apply_isOk_iff report).mp ⟨next, reacted⟩
    have applied : ledger.apply report = .ok next := reacted
    unfold Ledger.apply at applied
    rw [if_pos known] at applied
    cases report <;> cases applied <;> refine ⟨?_, ?_⟩ <;>
      simp [recorded_append, recorded_singleton, sentBackNow, tally, reposted, Entry.ofReport?,
        Entry.ok?, Entry.failed?, Report.sentBack?]
  | submit job | request requester | endOfInput | stats asker =>
    cases reacted
    refine ⟨?_, ?_⟩
    · rw [recorded_append, recorded_singleton]
      simpa [Ledger.post, Ledger.endOfInput] using tally
    · rw [sentBackNow]
      simpa [Ledger.post, Ledger.endOfInput] using reposted

/-- Handing out jobs is not counted. -/
theorem serve {presence : ρ → Presence} {waiting : List ρ} {pairing : Pairing ρ}
    (counts : Counts events ledger) (serves : Serves presence ledger waiting pairing) :
    Counts events pairing.dispatcher.ledger := by
  rw [serves.frame]
  exact ⟨counts.tally, counts.reposted⟩

end Counts

/-- **The counters are those of the reports handled** whenever a dispatcher waits for its next
event. -/
theorem course_counts (occasions : List (Occasion ρ κ))
    (going : (Course.of occasions).ending = none) :
    Counts (occasions.map Occasion.event) (Course.of occasions).dispatcher.ledger := by
  refine Course.of_induction (motive := fun occasions dispatcher =>
    Counts (occasions.map Occasion.event) dispatcher.ledger) ⟨rfl, rfl⟩ ?_ occasions going
  intro occasions occasion _ counts goesOn
  rw [List.map_append]
  obtain ⟨ledger, reacted, -, -, serves⟩ := Course.next_of_going goesOn
  exact (counts.react reacted).serve serves

/-- **The counters are those of the reports handled** when a dispatcher closes, and it shows them. -/
theorem closed_counts {before : List (Occasion ρ κ)} {last : Occasion ρ κ} {tally : Tally}
    (going : (Course.of before).ending = none)
    (closed : ((Course.of before).next last).ending = some (.closed tally)) :
    Counts ((before ++ [last]).map Occasion.event) ((Course.of before).next last).dispatcher.ledger ∧
      ((Course.of before).next last).dispatcher.ledger.tally = tally := by
  have counts := course_counts before going
  cases (Course.of before).next_turnsOut last with
  | refused error reacted same =>
    rw [same] at closed
    cases closed
  | goesOn ledger reacted incomplete goesOn released serves =>
    rw [goesOn] at closed
    cases closed
  | closes ledger reacted decisive complete same =>
    have now := counts.react reacted
    rw [same] at closed ⊢
    cases closed
    rw [List.map_append]
    exact ⟨⟨now.tally, now.reposted⟩, rfl⟩

/-! ### The completion log -/

/-- **An event that is accepted gives its result to the log**, if it brings one. -/
theorem handle_entry {presence : ρ → Presence} {dispatcher : Dispatcher ρ} {event : Event ρ κ}
    {ledger : Ledger} (reacted : dispatcher.ledger.react event = .ok ledger) :
    (dispatcher.handle presence event).entry = event.report?.bind Entry.ofReport? := by
  cases event with
  | report report =>
    rw [handle_report_accepted reacted]
    split <;> rfl
  | endOfInput =>
    rw [handle_endOfInput]
    split <;> rfl
  | submit job | request requester | stats asker => rfl

/-- Writes entries to a log one after another; failures are passed over. -/
def Log.recordAll {σ : Type} (log : Log σ) (kept : σ) (entries : List Entry) : σ :=
  entries.foldl (fun kept entry => (log.write kept entry).1) kept

theorem Log.record_eq {σ : Type} (log : Log σ) (kept : σ) (entry : Option Entry) :
    log.record kept entry = log.recordAll kept entry.toList := by
  cases entry <;> rfl

theorem Log.recordAll_append {σ : Type} (log : Log σ) (kept : σ) (entries later : List Entry) :
    log.recordAll kept (entries ++ later) = log.recordAll (log.recordAll kept entries) later :=
  List.foldl_append

/-- **A log that does not fail**: it keeps every entry that it is given; `view` is how what it keeps
reads. -/
structure Log.Keeps {σ : Type} (log : Log σ) (view : σ → Kept) : Prop where
  succeeds : ∀ kept entry, (log.write kept entry).2 = .ok ()
  keeps : ∀ kept entry, view (log.write kept entry).1 = (view kept).add entry

theorem Log.memory_keeps : Log.memory.Keeps id := ⟨fun _ _ => rfl, fun _ _ => rfl⟩

/-- A log that does not fail holds all entries, successes and failures apart. -/
theorem Log.Keeps.view_recordAll {σ : Type} {log : Log σ} {view : σ → Kept} (keeps : log.Keeps view)
    (kept : σ) (entries : List Entry) :
    view (log.recordAll kept entries) = ⟨(view kept).ok ++ entries.filterMap Entry.ok?,
      (view kept).failed ++ entries.filterMap Entry.failed?⟩ := by
  rw [← Kept.foldl_add]
  induction entries generalizing kept with
  | nil => rfl
  | cons entry entries hypothesis =>
    rw [List.foldl_cons, ← keeps.keeps]
    exact hypothesis _

end Workyard.Dispatch
