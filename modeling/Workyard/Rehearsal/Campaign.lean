/-
**Campaigns: commands for one worker after another.**

A campaign posts commands and then adds workers one by one, waiting for each to be done before the next
is added. If posting fails no worker is added.

* `Session.campaign`: a whole campaign.
-/

import Workyard.Rehearsal.Session

namespace Workyard.Rehearsal

/-- What became of a worker. -/
structure Employment where
  added : Bool
  exits : List Yard.Exit
  /-- Whether its address is registered afterwards. -/
  known : Bool
deriving DecidableEq, Repr

/-- The exits that those who waited for the pool have got. -/
def joinedExits (happenings : List Happening) : List Yard.Exit :=
  happenings.flatMap fun
    | .joined exits => exits
    | _ => []

namespace Session

/-- Adds a worker and waits for the pool. -/
def employ (session : Session) (address : String) : Session × Employment :=
  let (session, added, _) := session.perform (.addWorker address) true
  let (session, _, view) := session.perform .joinAll true
  let exits := match view with
    | some view => joinedExits view.happenings
    | none => []
  let added := match added with
    | .truth value => value
    | _ => false
  (session, ⟨added, exits, session.stage.yard.registry.contains address⟩)

/-- Adds workers one after another. -/
def employAll (session : Session) : List String → Session × List Employment
  | [] => (session, [])
  | address :: rest =>
    let (session, employment) := session.employ address
    let (session, others) := session.employAll rest
    (session, employment :: others)

/-- Posts the commands of a text and adds workers. -/
def campaign (session : Session) (octets : List UInt8) (addresses : List String) :
    Session × Answer × List Employment :=
  match session.perform (.post octets) true with
  | (session, .posted (.error failure), _) => (session, .posted (.error failure), [])
  | (session, posted, _) =>
    let (session, employments) := session.employAll addresses
    (session, posted, employments)

end Session

end Workyard.Rehearsal
