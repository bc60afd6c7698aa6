/-
**What a yard does when a report is refused.**

A report on a job that is not handed out stops the dispatcher in the step in which it is handled. All
who wait for a job are told that there is none, all who watch the dispatcher see the same error, and
whoever comes later, however late, finds it closed.

* `Informs`, `take_told`: whom a dispatcher that stops tells that there is no job;
* `Aborted`: what a dispatcher that has stopped with an error is to everyone else;
* `Aborted.play`: it stays so, whatever is done;
* `report_decided`: which reports are accepted, and what a refused one leaves behind.
-/

import Workyard.Proofs.Dispatch.Reporting
import Workyard.Proofs.Yard.Hands
import Workyard.Proofs.Yard.Observers

namespace Workyard.Yard

open Dispatch

variable {σ : Type} {setting : Setting σ} {yard after : Yard σ} {action : Action}
  {error : DispatchError}

/-! ### Being told that there is no job -/

/-- Whether one who asked for a job has been told that there is none. -/
def Told (yard : Yard σ) : Requester → Prop
  | .proxy number => ∃ proxy, yard.proxies[number]? = some proxy ∧ proxy.phase = .handed none
  | .caller number => yard.callers[number]? = some (.answered none)

/-- Whether one who asked for a job still waits or has been told that there is none. -/
def Unserved (yard : Yard σ) (requester : Requester) : Prop :=
  yard.presence requester = .present ∨ yard.Told requester

/-- Answering others changes nothing about a requester. -/
theorem hand_others {requester other : Requester} (different : other ≠ requester)
    (job : Option Job) (yard : Yard σ) :
    ((yard.hand job other).presence requester = .present ↔ yard.presence requester = .present) ∧
      ((yard.hand job other).Told requester ↔ yard.Told requester) := by
  cases requester with
  | proxy number =>
    have same := hand_proxies_of_ne different job yard
    simp only [presence, Told, same, and_self]
  | caller number =>
    have same : (yard.hand job other).callers[number]? = yard.callers[number]? := by
      cases other with
      | proxy place => rfl
      | caller place =>
        have apart : place ≠ number := fun equal => different (congrArg Requester.caller equal)
        simp only [hand]
        split
        · exact List.getElem?_set_ne apart
        · rfl
    simp only [presence, Told, same, and_self]

/-- One who is told that there is no job knows it, if it waits or has been told already. -/
theorem hand_told {requester : Requester} (unserved : yard.Unserved requester) :
    (yard.hand none requester).Told requester := by
  cases requester with
  | proxy number =>
    have found : ∃ proxy, yard.proxies[number]? = some proxy := by
      rcases unserved with waits | ⟨proxy, found, -⟩
      · rcases present_iff.mp waits with ⟨other, proxy, same, found, -⟩ | ⟨_, same, -⟩
        · cases same
          exact ⟨proxy, found⟩
        · cases same
      · exact ⟨proxy, found⟩
    obtain ⟨proxy, found⟩ := found
    obtain ⟨inside, -⟩ := List.getElem?_eq_some_iff.mp found
    refine ⟨{ proxy with phase := .handed none }, ?_, rfl⟩
    rw [hand_proxies none found, List.getElem?_set_self inside]
  | caller number =>
    show (yard.hand none (.caller number)).callers[number]? = _
    simp only [hand]
    split
    · next waits =>
      obtain ⟨inside, -⟩ := List.getElem?_eq_some_iff.mp waits
      exact List.getElem?_set_self inside
    · next answered =>
      rcases unserved with waits | told
      · rcases present_iff.mp waits with ⟨_, _, same, -⟩ | ⟨other, same, waits⟩
        · cases same
        · cases same
          exact absurd waits answered
      · exact told

/-- What telling those concerned does for one who is not served: if it is among them it is told. -/
def Informs (requester : Requester) (concerned : Prop) (yard after : Yard σ) : Prop :=
  yard.Unserved requester →
    after.Unserved requester ∧ (concerned ∨ yard.Told requester → after.Told requester)

theorem hand_informs (requester other : Requester) (yard : Yard σ) :
    Informs requester (other = requester) yard (yard.hand none other) := by
  intro unserved
  by_cases same : other = requester
  · subst same
    exact ⟨.inr (hand_told unserved), fun _ => hand_told unserved⟩
  · obtain ⟨presence, told⟩ := hand_others same none yard
    exact ⟨unserved.imp presence.mpr told.mpr, fun known => told.mpr (known.resolve_left same)⟩

theorem discard_informs (requester : Requester) (message : Message) (yard : Yard σ) :
    Informs requester (message.requester? = some requester) yard (yard.discard message) := by
  cases message with
  | request other =>
    intro unserved
    obtain ⟨stays, tells⟩ := hand_informs requester other yard unserved
    exact ⟨stays, fun known => tells (known.imp_left Option.some.inj)⟩
  | _ => exact fun unserved => ⟨unserved, fun known => known.resolve_left nofun⟩

/-- **Telling several tells each of them** that is not served yet. -/
theorem foldl_informs {β : Type} {step : Yard σ → β → Yard σ} {requester : Requester}
    {concerns : β → Prop}
    (each : ∀ yard item, Informs requester (concerns item) yard (step yard item)) (items : List β)
    (yard : Yard σ) : Informs requester (∃ item ∈ items, concerns item) yard (items.foldl step yard) := by
  induction items generalizing yard with
  | nil => exact fun unserved => ⟨unserved, fun known => known.resolve_left nofun⟩
  | cons item items hypothesis =>
    intro unserved
    obtain ⟨first, tellsFirst⟩ := each yard item unserved
    obtain ⟨stays, tells⟩ := hypothesis (step yard item) first
    refine ⟨stays, fun known => tells ?_⟩
    rcases known with ⟨other, member, concerned⟩ | told
    · rcases List.mem_cons.mp member with rfl | later
      · exact .inr (tellsFirst (.inl concerned))
      · exact .inl ⟨other, later, concerned⟩
    · exact .inr (tellsFirst (.inr told))

/-- **A dispatcher that stops tells all who wait** and whom it knows, or whose request is lost. -/
theorem take_told {turn : Turn Requester Nat} {ending : Ending} (log : Log σ) (rest : List Message)
    (stops : turn.ending = some ending) (nothing : turn.delivered = []) {requester : Requester}
    (asked : requester ∈ turn.released ++ rest.filterMap Event.requester?)
    (waits : yard.presence requester = .present) :
    (yard.take log turn rest).Told requester := by
  simp only [Yard.take, stops, nothing, stop, List.foldl_nil]
  -- those whom the dispatcher knows are told first, then those whose request is lost
  obtain ⟨unserved, tells⟩ := foldl_informs (fun yard other => hand_informs requester other yard)
    turn.released (yard.turned log turn rest) (.inl waits)
  obtain ⟨-, tellsLost⟩ := foldl_informs (fun yard message => discard_informs requester message yard)
    rest { turn.released.foldl (hand none) (yard.turned log turn rest) with
      channel := []
      board := ((turn.released.foldl (hand none) (yard.turned log turn rest)).board.publish
        ending).leave } unserved
  rcases List.mem_append.mp asked with known | lost
  · exact tellsLost (.inr (tells (.inl ⟨requester, known, rfl⟩)))
  · exact tellsLost (.inl (List.mem_filterMap.mp lost))

/-! ### A dispatcher that has stopped with an error -/

/-- **What a dispatcher that has stopped with an error is to everyone else.** -/
structure Aborted (setting : Setting σ) (error : DispatchError) (yard : Yard σ) : Prop where
  /-- It is closed to all who ask, and all who wait for its end are told the error. -/
  closed : yard.board.isClosed = true
  await : (Watcher.closed none).look yard = some (.closed (some (.error error)))
  reply : (Watcher.eof none).look yard =
    some (.eof (some (.error (Rpc.Error.ofFailure (.dispatch error)))))
  /-- Those who ask for counters are told that it has closed and counted nothing. -/
  counters : ∀ asker stats, (asker, stats) ∈ yard.askStats.1.answers →
    (asker, stats) ∈ yard.answers ∨ stats = { gotEof := true, closed := true }
  /-- Nothing that is sent is taken. -/
  submit : ∀ command, (yard.submit setting command).2 = .error .closed
  report : ∀ report, yard.report report = (yard, .error .closed)
  endOfInput : yard.endOfInput = (yard, .error .closed)
  /-- Whoever asks for a job is told at once that there is none. -/
  caller : yard.request.1.Told (.caller yard.request.2)
  proxy : ∀ number proxy, yard.proxies[number]? = some proxy → proxy.phase = .idle →
    ∃ after, yard.advanceProxy number = some after ∧ after.Told (.proxy number)

namespace Aborted

theorem of_board (ending : yard.board.ending = some (.aborted error)) :
    Aborted setting error yard := by
  have shut : ¬ yard.isOpen = true := by
    rw [isOpen_eq_true_iff, ending]
    nofun
  have await : yard.board.await = some (.error error) := by
    rw [Board.await, ending]
    rfl
  constructor
  case closed => rw [Board.isClosed, ending]; rfl
  case await => rw [Watcher.look, await]; rfl
  case reply => rw [Watcher.look, Rpc.Manager.eofReply, await]; rfl
  case counters =>
    intro asker stats member
    rw [askStats_of_shut shut, finalStats, ending] at member
    rcases List.mem_cons.mp member with new | old
    · exact .inr (congrArg Prod.snd new)
    · exact .inl old
  case submit => exact fun command => congrArg Prod.snd (submit_of_shut setting command shut)
  case report => exact fun report => send_of_shut _ shut
  case endOfInput => exact send_of_shut _ shut
  case caller =>
    have answered : yard.request.1 = { yard with callers := yard.callers ++ [.answered none] } :=
      if_neg shut
    rw [answered]
    exact List.getElem?_concat_length
  case proxy =>
    intro number proxy found idle
    obtain ⟨inside, -⟩ := List.getElem?_eq_some_iff.mp found
    refine ⟨yard.setPhase number proxy (.handed none), ?_, { proxy with phase := .handed none },
      List.getElem?_set_self inside, rfl⟩
    simp [advanceProxy, found, idle, shut]

/-- **It stays so, whatever is done.** -/
theorem play {actions : List Action} {steps last : List (Step σ)}
    (ending : yard.board.ending = some (.aborted error))
    (played : Yard.play setting actions steps yard = some (last, after)) :
    Aborted setting error after := by
  induction actions generalizing steps yard with
  | nil =>
    cases played
    exact of_board ending
  | cons action actions hypothesis =>
    obtain ⟨next, possible, rest⟩ := Option.bind_eq_some_iff.mp played
    have shut : ¬ yard.isOpen = true := by
      rw [isOpen_eq_true_iff, ending]
      nofun
    exact hypothesis ((congrArg Board.ending (act_shut shut possible)).trans ending) rest

end Aborted

/-! ### Which reports are accepted -/

/-- **Which reports are accepted, and what one that is refused leaves behind.** Let no identifier have
been submitted twice. A report is accepted if and only if its job is handed out: it was delivered to a
requester, and no report on it has been accepted since. So it is refused if the job was never
submitted, is in the queue, which is also where it is after being sent back, or is resolved. A report
that is refused changes neither the ledger nor the log; in the same step the dispatcher stops with an
error that names the job, and all who wait are told that there is none. From then on, whatever is done,
everyone sees this error and nothing that is sent is taken. -/
theorem report_decided (setting : Setting σ) {occasions : List (Occasion Requester Nat)}
    (going : (Course.of occasions).ending = none)
    (distinct : ((submitted (occasions.map Occasion.event)).map Job.id).Nodup)
    {report : Report} {rest : List Message} (board : yard.board = {})
    (dispatcher : yard.dispatcher = (Course.of occasions).dispatcher)
    (channel : yard.channel = .report report :: rest) :
    ((Course.of occasions).accepted? ⟨.report report, yard.presence⟩ = some report ↔
      HandedOut occasions report.job.id) ∧
    (HandedOut occasions report.job.id ↔
      report.job.id ∈ (submitted (occasions.map Occasion.event)).map Job.id ∧
        report.job.id ∉ yard.dispatcher.ledger.queue.map Job.id ∧
        report.job.id ∉ (resolved (occasions.map Occasion.event)).map Job.id) ∧
    ∃ after, yard.process setting.log = some after ∧
      (after.board.ending = some (.aborted (.unknownJob report.job.id)) ↔
        ¬ HandedOut occasions report.job.id) ∧
      (¬ HandedOut occasions report.job.id →
        after.dispatcher.ledger = yard.dispatcher.ledger ∧ after.log = yard.log ∧
        (∀ requester ∈ yard.requests, yard.presence requester = .present → after.Told requester) ∧
        ∀ actions last later, play setting actions [] after = some (last, later) →
          Aborted setting (.unknownJob report.job.id) later) := by
  have inFlight := course_inFlight_iff occasions going distinct report.job.id
  have isOpen : yard.isOpen = true := (isOpen_eq_true_iff yard).mpr (congrArg Board.ending board)
  refine ⟨(Course.accepted_report_iff going report yard.presence).trans inFlight, ?_,
    yard.take setting.log ((Course.of occasions).next ⟨.report report, yard.presence⟩) rest, ?_, ?_, ?_⟩
  · rw [dispatcher]
    exact handedOut_iff_elsewhere going distinct report.job.id
  · simp [Yard.process, isOpen, channel, dispatcher, Course.next]
  · rw [take_board, board, ← inFlight, ← next_report_aborts_iff report yard.presence]
    cases ((Course.of occasions).next ⟨.report report, yard.presence⟩).ending with
    | none => simp
    | some ending => exact Iff.rfl
  · intro refused
    have turn := next_refused report yard.presence (mt inFlight.mp refused)
    rw [turn, ← dispatcher]
    refine ⟨by rw [take_dispatcher], by rw [take_log]; rfl, ?_, ?_⟩
    · intro requester asked waits
      rw [requests, channel] at asked
      exact take_told setting.log rest rfl rfl asked waits
    · intro actions last later played
      refine Aborted.play ?_ played
      rw [take_board, board]
      rfl

/-- A caller has the one job, another waits, and a report comes on a job that nobody submitted, with
one more request behind it. -/
def strayReport : List Action :=
  [.submit "true", .request, .process, .process, .request, .process,
    .report (.ok ⟨"job-9", "true"⟩), .request]

/-- The run in which they do. -/
def strayReportRun : List (Step Unit) × Yard Unit :=
  (play plain strayReport [] { log := () }).get (by decide +kernel)

theorem report_decided_strayReport :
    Run plain () strayReportRun.1 strayReportRun.2 ∧
      (Course.of (occasions strayReportRun.1)).ending = none ∧
      ((submitted (handled strayReportRun.1)).map Job.id).Nodup ∧
      strayReportRun.2.dispatcher.ledger.inFlight = [⟨"job-1", "true"⟩] ∧
      strayReportRun.2.requests = [.caller 1, .caller 2] ∧
      ¬ HandedOut (occasions strayReportRun.1) "job-9" ∧
      ∃ after, strayReportRun.2.process plain.log = some after ∧
        after.Told (.caller 1) ∧ after.Told (.caller 2) ∧
        Aborted plain (.unknownJob "job-9") after := by
  have played : play plain strayReport [] { log := () } = some strayReportRun :=
    (Option.some_get _).symm
  have run : Run plain () strayReportRun.1 strayReportRun.2 := run_of_play .fresh played
  have isOpen : strayReportRun.2.isOpen = true := by decide +kernel
  obtain ⟨board, going, dispatcher, -⟩ := (run_follows run).of_isOpen isOpen
  have distinct : ((submitted (handled strayReportRun.1)).map Job.id).Nodup := by decide +kernel
  have channel : strayReportRun.2.channel =
      [.report (.ok ⟨"job-9", "true"⟩), .request (.caller 2)] := by rfl
  have requests : strayReportRun.2.requests = [.caller 1, .caller 2] := by decide +kernel
  obtain ⟨-, elsewhere, after, possible, -, refuses⟩ :=
    report_decided plain going distinct board dispatcher.symm channel
  have refused : ¬ HandedOut (occasions strayReportRun.1) "job-9" := fun handedOut => by
    have submitted : "job-9" ∈ (submitted (handled strayReportRun.1)).map Job.id :=
      (elsewhere.mp handedOut).1
    revert submitted
    decide +kernel
  obtain ⟨-, -, told, aborted⟩ := refuses refused
  rw [requests] at told
  exact ⟨run, going, distinct, by decide +kernel, requests, refused, after, possible,
    told _ (by decide) (by decide +kernel), told _ (by decide) (by decide +kernel),
    aborted [] _ _ rfl⟩

end Workyard.Yard
