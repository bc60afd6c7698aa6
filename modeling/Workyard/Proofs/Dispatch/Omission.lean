/-
**What leaves no trace.**

A query for the counters, an end of input after the first and a request that no job reaches can be left
out: everyone else is told the same, the completion log is given the same entries, and the dispatcher
stops in the same way. The dispatchers with and without them need not be in the same state, for one may
have requesters waiting that have long gone.

* `Omits`: occasions with some of these left out;
* `Deals.agree`: requesters that are never served make no difference to a pairing;
* `Matches`: two dispatchers that differ in such requesters only;
* `Matches.keep`, `Matches.leaveOut`: what one event makes of them;
* `seen_of_omits`: what the others see is what is seen without the occasions left out.
-/

import Workyard.Proofs.Dispatch.Closing
import Workyard.Proofs.Dispatch.Handout
import Workyard.Proofs.Dispatch.Sights

namespace Workyard.Dispatch

variable {ρ κ : Type}

/-! ### What is left out -/

/-- **Events that can be left out**, after the events before them. -/
inductive Omissible (absent : ρ → Bool) (silent : κ → Bool) (before : List (Event ρ κ)) :
    Event ρ κ → Prop
  | request {requester : ρ} (leftOut : absent requester = true) :
    Omissible absent silent before (.request requester)
  | stats {asker : κ} (leftOut : silent asker = true) :
    Omissible absent silent before (.stats asker)
  | endOfInput (again : .endOfInput ∈ before) : Omissible absent silent before .endOfInput

/-- **Occasions with some of them left out**: all that come from those left out, and any end of input
that is not the first. Where every request and every query has a name of its own, any of them can be
left out. -/
inductive Omits (absent : ρ → Bool) (silent : κ → Bool) :
    List (Occasion ρ κ) → List (Occasion ρ κ) → Prop
  | nothing : Omits absent silent [] []
  | keep {full kept : List (Occasion ρ κ)} (occasion : Occasion ρ κ)
    (omits : Omits absent silent full kept)
    (fromOther : occasion.event.isFrom absent silent = false) :
    Omits absent silent (full ++ [occasion]) (kept ++ [occasion])
  | leaveOut {full kept : List (Occasion ρ κ)} (occasion : Occasion ρ κ)
    (omits : Omits absent silent full kept)
    (omissible : Omissible absent silent (full.map Occasion.event) occasion.event) :
    Omits absent silent (full ++ [occasion]) kept

/-- Those who leave do not come back: whoever is not present on an occasion, having gone or going while
a job is on its way, has gone by the later ones. -/
def Steady (presences : List (ρ → Presence)) : Prop :=
  presences.Pairwise fun earlier later =>
    ∀ requester, earlier requester ≠ .present → later requester = .gone

/-- After a dispatcher has stopped the others see nothing of an occasion that can be left out. -/
theorem others_ending_omissible {absent : ρ → Bool} {silent : κ → Bool}
    {before : List (Event ρ κ)} {occasion : Occasion ρ κ} (ending : Ending)
    (omissible : Omissible absent silent before occasion.event) :
    others absent silent (ending.sights occasion) = [] := by
  refine List.filter_eq_nil_iff.mpr fun sight shown => ?_
  rw [isFor_of_mem_sights shown]
  obtain ⟨event, presence⟩ := occasion
  cases omissible with
  | request leftOut => simp [Event.isFrom, Event.requester?, leftOut]
  | stats leftOut => simp [Event.isFrom, Event.asker?, leftOut]
  | endOfInput again => cases shown

/-! ### Pairings with and without those who are left out -/

/-- A pairing that obeys the laws, goes on as long as it can and marks what it hands out. -/
structure Deals (presence : ρ → Presence) (ledger : Ledger) (waiting : List ρ)
    (pairing : Pairing ρ) : Prop where
  serves : Serves presence ledger waiting pairing
  exhausted : pairing.dispatcher.ledger.queue = [] ∨ pairing.dispatcher.waiting = []
  marks : pairing.dispatcher.ledger.inFlight =
    (pairing.delivered.map Prod.snd).reverse ++ ledger.inFlight

/-- What comes of an event marks what is handed out. -/
theorem pairing_inFlight (presence : ρ → Presence) {ledger : Ledger} (waiting : List ρ)
    (event : Event ρ κ) (fresh : ledger.Fresh) :
    (event.pairing presence ledger waiting).dispatcher.ledger.inFlight =
      ((event.pairing presence ledger waiting).delivered.map Prod.snd).reverse ++
        ledger.inFlight := by
  cases event with
  | submit job => exact pair_inFlight presence waiting fresh
  | request requester => exact pair_inFlight presence (waiting ++ [requester]) fresh
  | report report => exact pair_inFlight presence waiting fresh
  | endOfInput => rfl
  | stats asker => rfl

/-- **An event that is accepted has jobs handed out.** -/
theorem handle_deals {presence : ρ → Presence} {dispatcher : Dispatcher ρ} {event : Event ρ κ}
    (exhausted : dispatcher.ledger.queue = [] ∨ dispatcher.waiting = [])
    (fresh : ∀ ledger, dispatcher.ledger.react event = .ok ledger → ledger.Fresh)
    (going : (dispatcher.handle presence event).ending = none) :
    ∃ ledger, dispatcher.ledger.react event = .ok ledger ∧
      (dispatcher.handle presence event).released = [] ∧
      Deals presence ledger (dispatcher.waiting ++ event.requester?.toList)
        ⟨(dispatcher.handle presence event).delivered,
          (dispatcher.handle presence event).dispatcher⟩ := by
  obtain ⟨ledger, reacted, -, released, serves⟩ := handle_of_going going
  obtain ⟨ledger', reacted', -, delivered, next⟩ := handle_going going
  obtain rfl : ledger' = ledger := Except.ok.inj (reacted'.symm.trans reacted)
  refine ⟨ledger', reacted, released, serves, handle_exhausts exhausted going, ?_⟩
  rw [delivered, next]
  exact pairing_inFlight presence dispatcher.waiting event (fresh ledger' reacted)

namespace Deals

variable {presence : ρ → Presence} {ledger : Ledger} {fullWaiting keptWaiting : List ρ}
  {full kept : Pairing ρ} {absent : ρ → Bool}

/-- Doing nothing is all that can be done when nothing is queued or nobody waits. -/
theorem idle (presence : ρ → Presence) {dispatcher : Dispatcher ρ}
    (exhausted : dispatcher.ledger.queue = [] ∨ dispatcher.waiting = []) :
    Deals presence dispatcher.ledger dispatcher.waiting ⟨[], dispatcher⟩ :=
  ⟨Serves.idle presence dispatcher.ledger dispatcher.waiting, exhausted, rfl⟩

/-- Two pairings that start from one ledger and hand out the same end with one ledger. -/
theorem ledger_eq (fullDeals : Deals presence ledger fullWaiting full)
    (keptDeals : Deals presence ledger keptWaiting kept)
    (delivered : kept.delivered = full.delivered) :
    kept.dispatcher.ledger = full.dispatcher.ledger := by
  have jobs := keptDeals.serves.jobs.trans fullDeals.serves.jobs.symm
  rw [delivered] at jobs
  rw [keptDeals.serves.frame, fullDeals.serves.frame, List.append_cancel_left jobs,
    keptDeals.marks, fullDeals.marks, delivered]

/-- **Requesters that are not served make no difference**: if the others who are present are the same,
they are handed the same jobs, and the same of them are left. -/
theorem agree (fullDeals : Deals presence ledger fullWaiting full)
    (keptDeals : Deals presence ledger keptWaiting kept)
    (waiting : here presence keptWaiting = (here presence fullWaiting).filter (!absent ·))
    (unserved : ∀ requester ∈ full.delivered.map Prod.fst, absent requester = false) :
    kept.delivered = full.delivered ∧
      here presence kept.dispatcher.waiting =
        (here presence full.dispatcher.waiting).filter (!absent ·) := by
  have fullJobs := fullDeals.serves.jobs
  have keptJobs := keptDeals.serves.jobs
  have served : kept.delivered.map Prod.fst ++ here presence kept.dispatcher.waiting =
      full.delivered.map Prod.fst ++
        (here presence full.dispatcher.waiting).filter (!absent ·) := by
    calc kept.delivered.map Prod.fst ++ here presence kept.dispatcher.waiting
        = here presence keptWaiting := keptDeals.serves.live
      _ = (here presence fullWaiting).filter (!absent ·) := waiting
      _ = (full.delivered.map Prod.fst ++ here presence full.dispatcher.waiting).filter
            (!absent ·) := congrArg (List.filter (!absent ·)) fullDeals.serves.live.symm
      _ = _ := by
        rw [List.filter_append, List.filter_eq_self.mpr (by simpa using unserved)]
  -- whichever had fewer served would have a job queued and nobody left to hand it to
  have equallyMany : (kept.delivered.map Prod.fst).length =
      (full.delivered.map Prod.fst).length := by
    have places := congrArg List.length served
    have jobs := congrArg List.length (keptJobs.trans fullJobs.symm)
    have fewer := List.length_filter_le (!absent ·) (here presence full.dispatcher.waiting)
    have fullExhausted := fullDeals.exhausted.imp (congrArg List.length)
      (congrArg fun rest => (here presence rest).length)
    have keptExhausted := keptDeals.exhausted.imp (congrArg List.length)
      (congrArg fun rest => (here presence rest).length)
    simp only [List.length_append, List.length_map, here, List.filter_nil, List.length_nil]
      at places jobs fewer fullExhausted keptExhausted ⊢
    omega
  obtain ⟨requesters, left⟩ := List.append_inj served equallyMany
  obtain ⟨jobs, -⟩ := List.append_inj (keptJobs.trans fullJobs.symm) (by simpa using equallyMany)
  exact ⟨(List.zip_of_prod requesters jobs).trans (List.zip_of_prod rfl rfl).symm, left⟩

end Deals

/-! ### Dispatchers that differ in those who are left out -/

/-- Those who have not gone, in order of arrival. -/
def around (presence : ρ → Presence) (waiting : List ρ) : List ρ :=
  waiting.filter (presence · ≠ .gone)

theorem here_around (presence : ρ → Presence) (waiting : List ρ) :
    here presence (around presence waiting) = here presence waiting := by
  rw [here, here, around, List.filter_filter]
  refine List.filter_congr fun requester _ => ?_
  cases presence requester <;> rfl

/-- Those who have not gone by the next occasion are present on this one. -/
theorem around_here {presences : List (ρ → Presence)} {presence next : ρ → Presence}
    (steady : Steady (presences ++ [presence] ++ [next])) (waiting : List ρ) :
    around next (here presence waiting) = around next waiting := by
  rw [around, around, here, List.filter_filter]
  refine List.filter_congr fun requester _ => ?_
  have leaves := (List.pairwise_append.mp steady).2.2 presence (by simp) next (by simp) requester
  by_cases present : presence requester = .present
  · simp [present]
  · simp [leaves present]

/-- **Dispatchers that differ in those who are left out**, and in those who have gone. -/
structure Matches (absent : ρ → Bool) (presences : List (ρ → Presence))
    (full kept : Dispatcher ρ) : Prop where
  ledger : kept.ledger = full.ledger
  waiting : ∀ next, Steady (presences ++ [next]) →
    around next kept.waiting = (around next full.waiting).filter (!absent ·)

namespace Matches

variable {absent : ρ → Bool} {silent : κ → Bool} {presences : List (ρ → Presence)}
  {presence : ρ → Presence} {full kept : Dispatcher ρ} {event : Event ρ κ}

/-- Those who are present are the same but for those left out. -/
theorem here_eq (matched : Matches absent presences full kept)
    (steady : Steady (presences ++ [presence])) :
    here presence kept.waiting = (here presence full.waiting).filter (!absent ·) := by
  rw [← here_around, matched.waiting presence steady, ← here_around presence full.waiting]
  exact List.filter_comm ..

/-- So are they when more have asked. -/
theorem here_append (matched : Matches absent presences full kept)
    (steady : Steady (presences ++ [presence])) (asking : List ρ) :
    here presence (kept.waiting ++ asking.filter (!absent ·)) =
      (here presence (full.waiting ++ asking)).filter (!absent ·) := by
  have waits := matched.here_eq steady
  unfold here at waits ⊢
  rw [List.filter_append, List.filter_append, List.filter_append, waits,
    List.filter_comm _ _ asking]

/-- **Pairings whose requesters match hand out the same and leave matching dispatchers.** -/
theorem of_deals {ledger : Ledger} {fullWaiting keptWaiting : List ρ}
    {fullPairing keptPairing : Pairing ρ}
    (fullDeals : Deals presence ledger fullWaiting fullPairing)
    (keptDeals : Deals presence ledger keptWaiting keptPairing)
    (waiting : here presence keptWaiting = (here presence fullWaiting).filter (!absent ·))
    (unserved : ∀ requester ∈ fullPairing.delivered.map Prod.fst, absent requester = false) :
    keptPairing.delivered = fullPairing.delivered ∧
      Matches absent (presences ++ [presence]) fullPairing.dispatcher keptPairing.dispatcher := by
  obtain ⟨delivered, left⟩ := fullDeals.agree keptDeals waiting unserved
  refine ⟨delivered, fullDeals.ledger_eq keptDeals delivered, fun next steady => ?_⟩
  rw [← around_here steady, left, ← around_here steady fullPairing.dispatcher.waiting]
  exact List.filter_comm ..

/-- **An event of one who is not left out** shows the others the same, and matching dispatchers still
match after it. -/
theorem keep (matched : Matches absent presences full kept)
    (steady : Steady (presences ++ [presence]))
    (fullExhausted : full.ledger.queue = [] ∨ full.waiting = [])
    (keptExhausted : kept.ledger.queue = [] ∨ kept.waiting = [])
    (fresh : ∀ ledger, full.ledger.react event = .ok ledger → ledger.Fresh)
    (fromOther : event.isFrom absent silent = false)
    (unserved : ∀ requester ∈ (full.handle presence event).delivered.map Prod.fst,
      absent requester = false) :
    others absent silent ((full.handle presence event).sights presence) =
        (kept.handle presence event).sights presence ∧
      (kept.handle presence event).ending = (full.handle presence event).ending ∧
      ((full.handle presence event).ending = none →
        Matches absent (presences ++ [presence]) (full.handle presence event).dispatcher
          (kept.handle presence event).dispatcher) := by
  obtain ⟨entry, answer, ending⟩ := handle_alike matched.ledger presence event
  have told : (full.handle presence event).answer.toList.filter (!silent ·.1) =
      (full.handle presence event).answer.toList := by
    refine List.filter_eq_self.mpr fun answer member => ?_
    rw [Option.mem_toList, handle_answer] at member
    obtain ⟨asker, asks, rfl⟩ := Option.map_eq_some_iff.mp member
    simpa [asks] using (Bool.or_eq_false_iff.mp fromOther).2
  by_cases going : (full.handle presence event).ending = none
  · obtain ⟨ledger, reacted, released, deals⟩ := handle_deals fullExhausted fresh going
    rw [← matched.ledger] at fresh reacted
    obtain ⟨ledger', reacted', keptReleased, keptDeals⟩ :=
      handle_deals keptExhausted fresh (ending.trans going)
    obtain rfl : ledger' = ledger := Except.ok.inj (reacted'.symm.trans reacted)
    have asks : event.requester?.toList.filter (!absent ·) = event.requester?.toList :=
      List.filter_eq_self.mpr fun requester member => by
        have asks := Option.mem_toList.mp member
        simpa [asks] using (Bool.or_eq_false_iff.mp fromOther).1
    have waiting := matched.here_append steady event.requester?.toList
    rw [asks] at waiting
    obtain ⟨same, next⟩ := of_deals deals keptDeals waiting unserved
    refine ⟨?_, ending, fun _ => next⟩
    have delivered : (kept.handle presence event).delivered =
        (full.handle presence event).delivered := same
    have handedOut : (full.handle presence event).delivered.filter (!absent ·.1) =
        (full.handle presence event).delivered :=
      List.filter_eq_self.mpr fun pair member => by
        simpa using unserved pair.1 (List.mem_map_of_mem member)
    rw [others_sights, Turn.sights, told, handedOut, entry, answer, ending, delivered, released,
      keptReleased]
    rfl
  · obtain ⟨nothing, released⟩ := handle_stopping going
    obtain ⟨keptNothing, keptReleased⟩ := handle_stopping (by rwa [← ending] at going)
    refine ⟨?_, ending, fun goes => absurd goes going⟩
    have left := matched.waiting presence steady
    unfold around at left
    rw [others_sights, Turn.sights, told, nothing, keptNothing, released, keptReleased, entry,
      answer, ending, left]
    rfl

/-- An end of input after the first changes nothing. -/
theorem endOfInput_of_gotEof {ledger : Ledger} (gotEof : ledger.gotEof = true) :
    ledger.endOfInput = ledger := by
  cases ledger
  cases gotEof
  rfl

/-- An event that can be left out does not change the ledger and is not logged. -/
theorem handle_omissible (presence : ρ → Presence) {before : List (Event ρ κ)}
    (omissible : Omissible absent silent before event)
    (gotEof : .endOfInput ∈ before → full.ledger.gotEof = true)
    (incomplete : full.ledger.isComplete = false) :
    full.ledger.react event = .ok full.ledger ∧
      (full.handle presence event).ending = none ∧
      (full.handle presence event).entry = none ∧
      (full.handle presence event).answer.toList.filter (!silent ·.1) = [] ∧
      event.requester?.toList.filter (!absent ·) = [] := by
  cases omissible with
  | request leftOut =>
    exact ⟨rfl, rfl, rfl, rfl, by simp [Event.requester?, leftOut]⟩
  | stats leftOut =>
    exact ⟨rfl, rfl, rfl, by simp [Dispatcher.handle, leftOut], rfl⟩
  | endOfInput again =>
    have same := endOfInput_of_gotEof (gotEof again)
    rw [handle_endOfInput, same, incomplete]
    exact ⟨congrArg Except.ok same, rfl, rfl, rfl, rfl⟩

/-- **An event that can be left out** shows the others nothing, and matching dispatchers still match if
only one of them handles it. -/
theorem leaveOut {before : List (Event ρ κ)} (matched : Matches absent presences full kept)
    (steady : Steady (presences ++ [presence]))
    (fullExhausted : full.ledger.queue = [] ∨ full.waiting = [])
    (keptExhausted : kept.ledger.queue = [] ∨ kept.waiting = [])
    (fresh : full.ledger.Fresh)
    (omissible : Omissible absent silent before event)
    (gotEof : .endOfInput ∈ before → full.ledger.gotEof = true)
    (incomplete : full.ledger.isComplete = false)
    (unserved : ∀ requester ∈ (full.handle presence event).delivered.map Prod.fst,
      absent requester = false) :
    others absent silent ((full.handle presence event).sights presence) = [] ∧
      (full.handle presence event).ending = none ∧
      Matches absent (presences ++ [presence]) (full.handle presence event).dispatcher kept := by
  obtain ⟨unchanged, going, unlogged, untold, unasked⟩ :=
    handle_omissible presence omissible gotEof incomplete
  obtain ⟨ledger, reacted, released, deals⟩ := handle_deals fullExhausted
    (fun ledger reacted => Except.ok.inj (unchanged.symm.trans reacted) ▸ fresh) going
  obtain rfl : full.ledger = ledger := Except.ok.inj (unchanged.symm.trans reacted)
  have keptDeals := Deals.idle presence keptExhausted
  rw [matched.ledger] at keptDeals
  have waiting := matched.here_append steady event.requester?.toList
  rw [unasked, List.append_nil] at waiting
  obtain ⟨same, next⟩ := of_deals deals keptDeals waiting unserved
  have nothing : (full.handle presence event).delivered = [] := same.symm
  refine ⟨?_, going, next⟩
  rw [others_sights, nothing, released, unlogged, untold, going]
  rfl

end Matches

/-! ### Occasions with and without those that are left out -/

/-- What makes it harmless to leave out requesters on these occasions. -/
structure Harmless (absent : ρ → Bool) (occasions : List (Occasion ρ κ)) : Prop where
  distinct : ((submitted (occasions.map Occasion.event)).map Job.id).Nodup
  steady : Steady (occasions.map Occasion.presence)
  unserved : ∀ requester, absent requester = true →
    requester ∉ (Course.of occasions).delivered.map Prod.fst

/-- **What is so with and without the occasions left out**, as far as they go. -/
structure Alike (absent : ρ → Bool) (silent : κ → Bool) (full kept : List (Occasion ρ κ)) :
    Prop where
  sights : others absent silent (seen full) = seen kept
  ending : (Course.of full).ending = (Course.of kept).ending
  going : (Course.of full).ending = none → Matches absent (full.map Occasion.presence)
    (Course.of full).dispatcher (Course.of kept).dispatcher

section Occasions

variable {absent : ρ → Bool} {silent : κ → Bool} {full kept : List (Occasion ρ κ)}
  {occasion : Occasion ρ κ}

/-- A job handed out on an occasion is one of those handed out on the course. -/
theorem delivered_of_going (going : (Course.of full).ending = none) (occasion : Occasion ρ κ) :
    (Course.of (full ++ [occasion])).delivered =
      (Course.of full).delivered ++ ((Course.of full).next occasion).delivered := by
  rw [Course.of_append_singleton, Course.extend_of_going going]
  simp [Course.delivered]

namespace Harmless

theorem before (harmless : Harmless absent (full ++ [occasion])) : Harmless absent full := by
  obtain ⟨distinct, steady, unserved⟩ := harmless
  rw [List.map_append] at distinct steady
  rw [submitted_append, List.map_append] at distinct
  refine ⟨distinct.sublist (List.sublist_append_left _ _), (List.pairwise_append.mp steady).1,
    fun requester leftOut served => unserved requester leftOut ?_⟩
  by_cases going : (Course.of full).ending = none
  · rw [delivered_of_going going, List.map_append]
    exact List.mem_append_left _ served
  · rwa [Course.of_append_of_stopped going]

theorem unserved_next (harmless : Harmless absent (full ++ [occasion]))
    (going : (Course.of full).ending = none) :
    ∀ requester ∈ ((Course.of full).next occasion).delivered.map Prod.fst,
      absent requester = false := by
  intro requester served
  refine Bool.eq_false_iff.mpr fun leftOut => harmless.unserved requester leftOut ?_
  rw [delivered_of_going going, List.map_append]
  exact List.mem_append_right _ served

theorem steady_next (harmless : Harmless absent (full ++ [occasion])) :
    Steady (full.map Occasion.presence ++ [occasion.presence]) := by
  simpa using harmless.steady

theorem fresh_next (harmless : Harmless absent (full ++ [occasion]))
    (going : (Course.of full).ending = none) (ledger : Ledger)
    (reacted : (Course.of full).dispatcher.ledger.react occasion.event = .ok ledger) :
    ledger.Fresh := by
  have accounts := (course_accounts full going).react reacted
  refine Ledger.Fresh.of_nodup (accounts.unresolved_nodup ?_)
  simpa using harmless.distinct

end Harmless

namespace Alike

/-- **One more occasion that is not left out.** -/
theorem keep (alike : Alike absent silent full kept)
    (harmless : Harmless absent (full ++ [occasion]))
    (fromOther : occasion.event.isFrom absent silent = false) :
    Alike absent silent (full ++ [occasion]) (kept ++ [occasion]) := by
  cases ended : (Course.of full).ending with
  | none =>
    have keptGoing := alike.ending.symm.trans ended
    obtain ⟨seenToo, ending, next⟩ := (alike.going ended).keep harmless.steady_next
      (course_exhausts full ended) (course_exhausts kept keptGoing) (harmless.fresh_next ended)
      fromOther (harmless.unserved_next ended)
    refine ⟨?_, ?_, fun going => ?_⟩
    · rw [seen_append_singleton, seen_append_singleton, others_append, alike.sights,
        Course.shows_of_going ended, Course.shows_of_going keptGoing]
      exact congrArg (seen kept ++ ·) seenToo
    · rw [Course.of_append_singleton, Course.of_append_singleton, Course.extend_of_going ended,
        Course.extend_of_going keptGoing]
      exact ending.symm
    · rw [Course.of_append_singleton, Course.extend_of_going ended] at going ⊢
      rw [Course.of_append_singleton, Course.extend_of_going keptGoing, List.map_append]
      exact next going
  | some ending =>
    have keptEnded := alike.ending.symm.trans ended
    have stopped : (Course.of full).ending ≠ none := by simp [ended]
    have keptStopped : (Course.of kept).ending ≠ none := by simp [keptEnded]
    refine ⟨?_, ?_, fun going => ?_⟩
    · rw [seen_append_singleton, seen_append_singleton, others_append, alike.sights,
        Course.shows_of_stopped ended, Course.shows_of_stopped keptEnded,
        others_ending_kept ending fromOther]
    · rw [Course.of_append_of_stopped stopped, Course.of_append_of_stopped keptStopped]
      exact alike.ending
    · exact absurd (Course.going_of_append_singleton going) stopped

/-- **One more occasion that is left out.** -/
theorem leaveOut (alike : Alike absent silent full kept)
    (harmless : Harmless absent (full ++ [occasion]))
    (omissible : Omissible absent silent (full.map Occasion.event) occasion.event) :
    Alike absent silent (full ++ [occasion]) kept := by
  cases ended : (Course.of full).ending with
  | none =>
    have keptGoing := alike.ending.symm.trans ended
    have accounts := course_accounts full ended
    have fresh := Ledger.Fresh.of_nodup (accounts.unresolved_nodup harmless.before.distinct)
    obtain ⟨unseen, going, next⟩ := (alike.going ended).leaveOut harmless.steady_next
      (course_exhausts full ended) (course_exhausts kept keptGoing) fresh omissible
      accounts.gotEof.mpr (course_incomplete full ended) (harmless.unserved_next ended)
    refine ⟨?_, ?_, fun _ => ?_⟩
    · rw [seen_append_singleton, others_append, alike.sights, Course.shows_of_going ended]
      exact (congrArg (seen kept ++ ·) unseen).trans (List.append_nil _)
    · rw [Course.of_append_singleton, Course.extend_of_going ended, keptGoing]
      exact going
    · rw [Course.of_append_singleton, Course.extend_of_going ended, List.map_append]
      exact next
  | some ending =>
    have stopped : (Course.of full).ending ≠ none := by simp [ended]
    refine ⟨?_, ?_, fun going => ?_⟩
    · rw [seen_append_singleton, others_append, alike.sights, Course.shows_of_stopped ended,
        others_ending_omissible ending omissible, List.append_nil]
    · rw [Course.of_append_of_stopped stopped]
      exact alike.ending
    · exact absurd (Course.going_of_append_singleton going) stopped

/-- If nobody is left to send more events, the others are told the same. -/
theorem desert (alike : Alike absent silent full kept) {last : ρ → Presence}
    (steady : Steady (full.map Occasion.presence ++ [last])) :
    others absent silent ((Course.of full).lastSeen last) = (Course.of kept).lastSeen last ∧
      (Course.of full).desert.ending = (Course.of kept).desert.ending := by
  cases ended : (Course.of full).ending with
  | none =>
    have keptGoing := alike.ending.symm.trans ended
    have matched := alike.going ended
    have left := matched.waiting last steady
    unfold around at left
    simp only [Course.lastSeen, Course.desert, ended, keptGoing]
    rw [others_sights, Turn.sights]
    simp only [Dispatcher.abandon]
    rw [← left, matched.ledger]
    exact ⟨rfl, rfl⟩
  | some ending =>
    have keptEnded := alike.ending.symm.trans ended
    unfold Course.lastSeen Course.desert
    rw [ended, keptEnded]
    exact ⟨rfl, ended.trans keptEnded.symm⟩

end Alike

/-- By induction along the occasions, matching dispatchers being carried along as long as they go on. -/
theorem Omits.alike (omits : Omits absent silent full kept) (harmless : Harmless absent full) :
    Alike absent silent full kept := by
  induction omits with
  | nothing => exact ⟨rfl, rfl, fun _ => ⟨rfl, fun _ _ => rfl⟩⟩
  | keep occasion omits fromOther hypothesis =>
    exact (hypothesis harmless.before).keep harmless fromOther
  | leaveOut occasion omits omissible hypothesis =>
    exact (hypothesis harmless.before).leaveOut harmless omissible

end Occasions

/-- **What is left out leaves no trace.** Queries for the counters, ends of input after the first and
requests that no job reaches, for instance because those who asked have gone by then, can be left out
wherever they are: what all others see is the same, one thing after another, and the dispatcher stops
in the same way, also if nobody is left to send more events. No identifier is submitted twice, and those
who leave do not come back. -/
theorem seen_of_omits {absent : ρ → Bool} {silent : κ → Bool} {full kept : List (Occasion ρ κ)}
    (omits : Omits absent silent full kept)
    (distinct : ((submitted (full.map Occasion.event)).map Job.id).Nodup)
    (steady : Steady (full.map Occasion.presence))
    (unserved : ∀ requester, absent requester = true →
      requester ∉ (Course.of full).delivered.map Prod.fst) :
    others absent silent (seen full) = seen kept ∧
      (Course.of full).ending.map Ending.result = (Course.of kept).ending.map Ending.result ∧
      ∀ last, Steady (full.map Occasion.presence ++ [last]) →
        others absent silent ((Course.of full).lastSeen last) =
            (Course.of kept).lastSeen last ∧
          (Course.of full).desert.ending.map Ending.result =
            (Course.of kept).desert.ending.map Ending.result := by
  have alike := omits.alike ⟨distinct, steady, unserved⟩
  refine ⟨alike.sights, congrArg (Option.map Ending.result) alike.ending, fun last leaves => ?_⟩
  obtain ⟨seenToo, ending⟩ := alike.desert leaves
  exact ⟨seenToo, congrArg (Option.map Ending.result) ending⟩

/-- All who have asked wait. -/
def nobodyLeft : Fin 5 → Presence := fun _ => .present

/-- One goes while a job is on its way to it. -/
def oneLeaves : Fin 5 → Presence
  | 1 => .vanishing
  | _ => .present

/-- Two have gone, the second of them before it is heard. -/
def twoLeft : Fin 5 → Presence
  | 1 | 3 => .gone
  | _ => .present

/-- The requesters that leave. -/
def leavers : Fin 5 → Bool
  | 1 | 3 => true
  | _ => false

/-- One who asks for the counters in between. -/
def onlooker : Fin 2 → Bool
  | 0 => true
  | 1 => false

/-- Occasions with two requesters that leave, a query that is not needed and a second end of input. -/
def disturbed : List (Occasion (Fin 5) (Fin 2)) :=
  [⟨.submit ⟨"job-1", "true"⟩, nobodyLeft⟩, ⟨.request 0, nobodyLeft⟩, ⟨.request 1, nobodyLeft⟩,
    ⟨.stats 0, nobodyLeft⟩, ⟨.request 2, nobodyLeft⟩, ⟨.endOfInput, nobodyLeft⟩,
    ⟨.report (.repost ⟨"job-1", "true"⟩), oneLeaves⟩, ⟨.request 3, twoLeft⟩,
    ⟨.endOfInput, twoLeft⟩, ⟨.stats 1, twoLeft⟩, ⟨.report (.ok ⟨"job-1", "true"⟩), twoLeft⟩,
    ⟨.request 4, twoLeft⟩]

/-- The occasions that are left. -/
def undisturbed : List (Occasion (Fin 5) (Fin 2)) :=
  [⟨.submit ⟨"job-1", "true"⟩, nobodyLeft⟩, ⟨.request 0, nobodyLeft⟩, ⟨.request 2, nobodyLeft⟩,
    ⟨.endOfInput, nobodyLeft⟩, ⟨.report (.repost ⟨"job-1", "true"⟩), oneLeaves⟩,
    ⟨.stats 1, twoLeft⟩, ⟨.report (.ok ⟨"job-1", "true"⟩), twoLeft⟩, ⟨.request 4, twoLeft⟩]

theorem seen_of_omits_disturbed :
    Omits leavers onlooker disturbed undisturbed ∧
      ((submitted (disturbed.map Occasion.event)).map Job.id).Nodup ∧
      Steady (disturbed.map Occasion.presence) ∧
      (∀ requester, leavers requester = true →
        requester ∉ (Course.of disturbed).delivered.map Prod.fst) ∧
      others leavers onlooker (seen disturbed) = seen undisturbed ∧
      seen undisturbed = [.job 0 ⟨"job-1", "true"⟩, .job 2 ⟨"job-1", "true"⟩,
        .counters 1 { outstanding := 1, inFlight := 1, reposted := 1, gotEof := true },
        .entry (.ok "true"), .ending (.closed ⟨1, 0⟩), .noJob 4] := by
  have omits : Omits leavers onlooker disturbed undisturbed := by
    have start := @Omits.nothing (Fin 5) (Fin 2) leavers onlooker
    have waits := ((start.keep ⟨.submit ⟨"job-1", "true"⟩, nobodyLeft⟩ rfl).keep
      ⟨.request 0, nobodyLeft⟩ rfl).leaveOut ⟨.request 1, nobodyLeft⟩ (.request rfl)
    have ended := ((waits.leaveOut ⟨.stats 0, nobodyLeft⟩ (.stats rfl)).keep
      ⟨.request 2, nobodyLeft⟩ rfl).keep ⟨.endOfInput, nobodyLeft⟩ rfl
    have endedAgain := ((ended.keep ⟨.report (.repost ⟨"job-1", "true"⟩), oneLeaves⟩ rfl).leaveOut
      ⟨.request 3, twoLeft⟩ (.request rfl)).leaveOut ⟨.endOfInput, twoLeft⟩ (.endOfInput (by simp))
    exact ((endedAgain.keep ⟨.stats 1, twoLeft⟩ rfl).keep
      ⟨.report (.ok ⟨"job-1", "true"⟩), twoLeft⟩ rfl).keep ⟨.request 4, twoLeft⟩ rfl
  have distinct : ((submitted (disturbed.map Occasion.event)).map Job.id).Nodup := by
    decide +kernel
  have steady : Steady (disturbed.map Occasion.presence) := by
    unfold Steady
    decide +kernel
  have unserved : ∀ requester, leavers requester = true →
      requester ∉ (Course.of disturbed).delivered.map Prod.fst := by decide +kernel
  exact ⟨omits, distinct, steady, unserved, (seen_of_omits omits distinct steady unserved).1,
    by decide +kernel⟩

end Workyard.Dispatch
