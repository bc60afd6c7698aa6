/-
**The event loop of a dispatcher.**

A dispatcher is a ledger and the requesters who wait for a job, in order of arrival. It handles
events one at a time. After each event jobs are paired with waiting requesters: a requester that is
gone is dropped, one that vanishes while a job is on its way gives the job back. A dispatcher stops
by closing, when its ledger is complete, or by aborting, when a report names a job that is not in
flight or when nobody is left to send events.

* `pair`: hands the top jobs to the requesters that are present;
* `Dispatcher.handle`: one event, with all that it makes the dispatcher do.
-/

import Workyard.Dispatch.Ledger

namespace Workyard.Dispatch

/-- What has become of a requester. -/
inductive Presence where
  /-- It waits. -/
  | present
  /-- It has gone. -/
  | gone
  /-- It goes while a job is on its way to it. -/
  | vanishing
deriving DecidableEq, Repr

/-- What a dispatcher can be told; `ρ` names requesters and `κ` those who ask for counters. -/
inductive Event (ρ κ : Type) where
  | submit (job : Job)
  | request (requester : ρ)
  | report (report : Report)
  | endOfInput
  | stats (asker : κ)
deriving Repr

/-- How a dispatcher stopped. -/
inductive Ending where
  /-- The input ended and everything is resolved. -/
  | closed (tally : Tally)
  | aborted (error : DispatchError)
deriving DecidableEq, Repr

/-- The tally of a dispatcher that closed, or why it did not. -/
def Ending.result : Ending → Except DispatchError Tally
  | .closed tally => .ok tally
  | .aborted error => .error error

/-- A terminal result as the completion log gets it. -/
inductive Entry where
  | ok (command : String)
  | failed (command reason : String)
deriving DecidableEq, Repr

/-- The entry for a report, none if it is not terminal. -/
def Entry.ofReport? : Report → Option Entry
  | .ok job => some (.ok job.command)
  | .fail job reason => some (.failed job.command reason)
  | .repost _ => none

/-- The log gets the terminal reports. -/
theorem Entry.ofReport?_isSome (report : Report) :
    (Entry.ofReport? report).isSome = report.isTerminal := by
  cases report <;> rfl

/-- A ledger and those who wait for a job, in order of arrival. -/
structure Dispatcher (ρ : Type) where
  ledger : Ledger := {}
  waiting : List ρ := []
deriving Repr

/-- What came of pairing: the jobs delivered, in order, and the dispatcher after it. -/
structure Pairing (ρ : Type) where
  delivered : List (ρ × Job)
  dispatcher : Dispatcher ρ

variable {ρ κ : Type}

/-- Hands jobs to those who wait until jobs or requesters run out. -/
def pair (presence : ρ → Presence) (ledger : Ledger) : List ρ → Pairing ρ
  | [] => ⟨[], ⟨ledger, []⟩⟩
  | requester :: rest => match presence requester with
    | .gone => pair presence ledger rest
    | .present => match ledger.takeNext with
      | none => ⟨[], ⟨ledger, requester :: rest⟩⟩
      | some (job, ledger) =>
        let pairing := pair presence ledger rest
        { pairing with delivered := (requester, job) :: pairing.delivered }
    | .vanishing => match ledger.takeNext with
      | none => ⟨[], ⟨ledger, requester :: rest⟩⟩
      | some (job, ledger) => pair presence (ledger.returnUndelivered job) rest

/-- All that one event makes a dispatcher do. -/
structure Turn (ρ κ : Type) where
  dispatcher : Dispatcher ρ
  /-- The jobs handed out, in order. -/
  delivered : List (ρ × Job) := []
  /-- Those who are told that there will be no more jobs. -/
  released : List ρ := []
  /-- What is written to the completion log. -/
  entry : Option Entry := none
  /-- The counters for the one who asked. -/
  answer : Option (κ × Stats) := none
  /-- How the dispatcher stops, if it does. -/
  ending : Option Ending := none

namespace Dispatcher

/-- Pairs and goes on. -/
def goOn (presence : ρ → Presence) (ledger : Ledger) (waiting : List ρ)
    (entry : Option Entry := none) : Turn ρ κ :=
  let pairing := pair presence ledger waiting
  { dispatcher := pairing.dispatcher, delivered := pairing.delivered, entry }

/-- Closes and releases all who wait. -/
def shut (ledger : Ledger) (waiting : List ρ) (entry : Option Entry := none) : Turn ρ κ :=
  { dispatcher := ⟨ledger.close, []⟩, released := waiting, entry
    ending := some (.closed ledger.tally) }

/-- Handles one event. -/
def handle (presence : ρ → Presence) (dispatcher : Dispatcher ρ) : Event ρ κ → Turn ρ κ
  | .submit job => goOn presence (dispatcher.ledger.post job) dispatcher.waiting
  | .request requester => goOn presence dispatcher.ledger (dispatcher.waiting ++ [requester])
  | .report report => match dispatcher.ledger.apply report with
    | .error error =>
      { dispatcher := ⟨dispatcher.ledger, []⟩, released := dispatcher.waiting
        ending := some (.aborted error) }
    | .ok ledger =>
      if ledger.isComplete then shut ledger dispatcher.waiting (Entry.ofReport? report)
      else goOn presence ledger dispatcher.waiting (Entry.ofReport? report)
  | .endOfInput =>
    let ledger := dispatcher.ledger.endOfInput
    if ledger.isComplete then shut ledger dispatcher.waiting
    else { dispatcher := ⟨ledger, dispatcher.waiting⟩ }
  | .stats asker => { dispatcher, answer := some (asker, dispatcher.ledger.stats) }

/-- Stops because nobody is left to send events. -/
def abandon (dispatcher : Dispatcher ρ) : Turn ρ κ :=
  { dispatcher := ⟨dispatcher.ledger.close, []⟩, released := dispatcher.waiting
    ending := some (.aborted (.abandoned dispatcher.ledger.outstanding)) }

end Dispatcher

/-- The counters that a stopped dispatcher's ending stands for. -/
def Ending.stats (ending : Ending) : Stats :=
  let tally := match ending with
    | .closed tally => tally
    | .aborted _ => {}
  { ok := tally.ok, failed := tally.failed, gotEof := true, closed := true }

end Workyard.Dispatch
