/-
**Posting through a manager and posting to the dispatcher itself.**

A dispatcher takes the commands of a source through its own channel, or through a manager that is
called over a link. The manager reads each call from what the client has written, refuses blank
commands, and its answer is read by the client; calls and answers are carried as they are. Others do
what they like in the yard before each call and while the end is waited for.

* `directly`, `served`: the two ways;
* `remoteCalls_eq`: both make the same calls, whatever becomes of them;
* `directCalls_sent`: what a dispatcher gets that is open whenever it is called;
* `posts_alike`: both ways it gets the commands of the source, and the end of the input if the source
  has no fault.
-/

import Workyard.Client.Manager
import Workyard.Proofs.Command.Posting
import Workyard.Proofs.Wire.Calls
import Workyard.Proofs.Yard.Run
import Workyard.Rpc.Manager
import Workyard.Yard.Sink

namespace Workyard

variable {σ : Type}

/-- A yard after the actions of others; those that are not possible are left out. -/
def Yard.amid (setting : Yard.Setting σ) (yard : Yard σ) (others : List Yard.Action) : Yard σ :=
  others.foldl (fun yard action => (yard.act setting action).getD yard) yard

namespace Client

open Dispatch

/-! ### Two ways to post -/

/-- A yard into which someone posts commands. -/
structure Desk (σ : Type) where
  yard : Yard σ
  /-- The number of calls made. -/
  turn : Nat := 0
  /-- What the calls did in the yard, in order. -/
  calls : List (Yard.Step σ) := []

/-- What stays the same while commands are posted. -/
structure Surroundings (σ : Type) where
  setting : Yard.Setting σ
  /-- What others do before each call. -/
  others : Nat → List Yard.Action

namespace Desk

/-- The yard as it is when the next call comes. -/
def called (around : Surroundings σ) (desk : Desk σ) : Yard σ :=
  desk.yard.amid around.setting (around.others desk.turn)

/-- A call has done this in the yard. -/
def note (around : Surroundings σ) (desk : Desk σ) (action : Yard.Action) (after : Yard σ) :
    Desk σ :=
  ⟨after, desk.turn + 1, desk.calls ++ [⟨desk.called around, action, after⟩]⟩

end Desk

/-- A dispatcher that is called itself. -/
def directly (around : Surroundings σ) : Command.Sink (Desk σ) where
  submit desk command :=
    let (after, result) := (Yard.sink around.setting).submit (desk.called around) command
    (desk.note around (.submit command) after, result)
  endOfInput desk :=
    let (after, result) := (Yard.sink around.setting).endOfInput (desk.called around)
    (desk.note around .endOfInput after, result)

/-- An answer as a link brings it back that leaves it as it is. -/
def conveyed : Except Rpc.Error Json → Except LinkFailure String
  | .ok answer => .ok answer.compact
  | .error error => .error (.refused error.code error.message)

/-- A manager that is called over a link. While one who has ended the input waits, others do what
`meanwhile` says; an answer that has not come then comes too late. Nothing is said about other calls
than those of one who posts. -/
def served (around : Surroundings σ) (meanwhile : List Yard.Action)
    (elsewhere : Desk σ → Wire.Call → Desk σ × Except LinkFailure String) : Link (Desk σ) where
  send desk call :=
    match Json.scanText call.method.scan call.parameters.compact with
    | .ok ⟨.submit, command⟩ =>
      let (after, result) := Rpc.Manager.submit around.setting command (desk.called around)
      (desk.note around (.submit command) after, conveyed (result.map Wire.Submitted.toJson))
    | .ok ⟨.endOfInput, _⟩ =>
      let desk := desk.note around .endOfInput (Rpc.Manager.endOfInput (desk.called around))
      let later := desk.yard.amid around.setting meanwhile
      ({ desk with yard := later }, match Rpc.Manager.eofReply later with
        | none => .error .timedOut
        | some reply => conveyed (reply.map Wire.Summary.toJson))
    | _ => elsewhere desk call

/-! ### The same calls -/

variable {around : Surroundings σ} {meanwhile : List Yard.Action}
  {elsewhere : Desk σ → Wire.Call → Desk σ × Except LinkFailure String}

/-- **A manager refuses no command that is not blank**: it is what the dispatcher answers. -/
theorem submit_dark (setting : Yard.Setting σ) {command : String}
    (dark : Text.allBlank command.toList = false) (yard : Yard σ) :
    Rpc.Manager.submit setting command yard = ((yard.submit setting command).1,
      ((yard.submit setting command).2.map Wire.Submitted.mk).mapError
        fun error => .ofFailure (.dispatch error)) := by
  rw [Rpc.Manager.submit, dark]
  rcases yard.submit setting command with ⟨after, error | id⟩ <;> rfl

/-- A submission over the link. -/
theorem served_submit {desk : Desk σ} {command : String}
    (dark : Text.allBlank command.toList = false) :
    (served around meanwhile elsewhere).send desk ⟨.submit, command⟩ =
      (desk.note around (.submit command) ((desk.called around).submit around.setting command).1,
        match ((desk.called around).submit around.setting command).2 with
        | .ok id => .ok (Wire.Submitted.toJson ⟨id⟩).compact
        | .error error =>
          conveyed (.error (Rpc.Error.ofFailure (.dispatch error)))) := by
  have read := Wire.scan_parameters ⟨.submit, command⟩ nofun
  simp only [served, read, submit_dark around.setting dark]
  cases ((desk.called around).submit around.setting command).2 <;> rfl

/-- The end of the input over the link: the dispatcher is told, and the others go on. -/
theorem served_endOfInput (desk : Desk σ) :
    ((served around meanwhile elsewhere).send desk ⟨.endOfInput, ""⟩).1.calls =
      (desk.note around .endOfInput (desk.called around).endOfInput.1).calls := by
  have read := Wire.scan_parameters ⟨.endOfInput, ""⟩ fun _ => rfl
  simp only [served, read]
  rfl

/-- **A command posted over a link is posted.** -/
theorem sink_submit {command : String} (dark : Text.allBlank command.toList = false)
    (client : Manager (Desk σ)) :
    ((Manager.sink (served around meanwhile elsewhere)).submit client command).1.state =
        ((directly around).submit client.state command).1 ∧
      ((Manager.sink (served around meanwhile elsewhere)).submit client command).2.isOk =
        ((directly around).submit client.state command).2.isOk := by
  have sends : (served around meanwhile elsewhere).send client.state ⟨.submit, command⟩ = _ :=
    served_submit dark
  simp only [Manager.sink, Manager.submit, Manager.request, Link.request, sends, directly, Yard.sink]
  cases ((client.state.called around).submit around.setting command).2 with
  | ok id =>
    dsimp only
    rw [Wire.scan_submitted]
    exact ⟨rfl, rfl⟩
  | error error => exact ⟨rfl, rfl⟩

/-- Whatever is answered, the call has been made. -/
theorem endOfInput_state (link : Link σ) (client : Manager σ) :
    (client.endOfInput link).1.state = (link.send client.state ⟨.endOfInput, ""⟩).1 := by
  unfold Manager.endOfInput Manager.request Link.request
  rcases link.send client.state ⟨.endOfInput, ""⟩ with ⟨state, failure | text⟩
  · rfl
  · dsimp only
    cases Json.scanText Wire.Summary.scan text <;> rfl

/-- The commands that someone posts to the dispatcher itself, as calls. -/
def directCalls (around : Surroundings σ) (yard : Yard σ) (reader : Command.Reader) :
    List (Yard.Step σ) :=
  (Command.post (directly around) reader { yard }).1.calls

/-- The commands that someone posts over a link, as calls. -/
def remoteCalls (around : Surroundings σ) (meanwhile : List Yard.Action)
    (elsewhere : Desk σ → Wire.Call → Desk σ × Except LinkFailure String) (yard : Yard σ)
    (reader : Command.Reader) : List (Yard.Step σ) :=
  (Command.post (Manager.sink (served around meanwhile elsewhere)) reader
    { state := { yard } }).1.state.calls

/-- **Over a link and without one the same calls are made**, if the others do the same before each. -/
theorem remoteCalls_eq (yard : Yard σ) (reader : Command.Reader) :
    remoteCalls around meanwhile elsewhere yard reader = directCalls around yard reader := by
  refine Command.postFrom_related (fun (client : Manager (Desk σ)) desk => client.state = desk)
    (fun client desk => client.state.calls = desk.calls) ?_ ?_ ?_ rfl
  · rintro command found client _ rfl
    refine sink_submit ?_ client
    rw [String.toList_ofList]
    exact Command.commands_dark found
  · rintro client _ rfl
    have told : ((served around meanwhile elsewhere).send client.state ⟨.endOfInput, ""⟩).1.calls =
        ((directly around).endOfInput client.state).1.calls := served_endOfInput client.state
    rw [← told, ← endOfInput_state]
    rfl
  · rintro client _ rfl
    rfl

/-! ### What the dispatcher gets -/

/-- The messages that calls bring to the dispatcher are these commands and, if there was no fault, the
end of the input. -/
def Brings (messages : List Yard.Message) (commands : List (List Char))
    (fault : Option Command.SourceFault) : Prop :=
  ∃ jobs : List Job, jobs.map Job.command = commands.map String.ofList ∧
    messages = jobs.map Event.submit ++ if fault = none then [.endOfInput] else []

theorem Brings.cons {messages : List Yard.Message} {command : List Char}
    {commands : List (List Char)} {fault : Option Command.SourceFault}
    (brings : Brings messages commands fault) (id : JobId) :
    Brings (.submit ⟨id, String.ofList command⟩ :: messages) (command :: commands) fault := by
  obtain ⟨jobs, texts, rfl⟩ := brings
  exact ⟨⟨id, String.ofList command⟩ :: jobs, congrArg _ texts, rfl⟩

/-- The next call as a step, if it is a submission. -/
def Desk.submission (around : Surroundings σ) (desk : Desk σ) (command : String) : Yard.Step σ :=
  ⟨desk.called around, .submit command,
    ((desk.called around).submit around.setting command).1⟩

section Direct

variable {yard : Yard σ} {desk : Desk σ} {command : String}

/-- An open dispatcher gets a command that is submitted to it. -/
theorem sent_submission (isOpen : (desk.called around).isOpen = true) :
    Yard.sent [desk.submission around command] =
      [.submit ⟨around.setting.identify ((desk.called around).issued + 1), command⟩] := by
  have appends : Yard.Appends around.setting (desk.called around) (.submit command)
      ((desk.called around).submit around.setting command).1 := Yard.submit_appends command
  rw [Desk.submission, appends.sent_eq rfl, Yard.said_of_isOpen isOpen]
  rfl

/-- An open dispatcher gets the end of the input. -/
theorem sent_endOfInput (setting : Yard.Setting σ) (isOpen : yard.isOpen = true) :
    Yard.sent [⟨yard, .endOfInput, yard.endOfInput.1⟩] = [.endOfInput] := by
  have appends : Yard.Appends setting yard .endOfInput yard.endOfInput.1 := Yard.send_appends rfl
  rw [appends.sent_eq rfl, Yard.said_of_isOpen isOpen]
  rfl

theorem directly_submit_calls : ((directly around).submit desk command).1.calls =
    desk.calls ++ [desk.submission around command] := rfl

/-- An open dispatcher takes a command, one that has stopped does not. -/
theorem directly_submit_isOk :
    ((directly around).submit desk command).2.isOk = (desk.called around).isOpen := by
  simp only [directly, Yard.sink]
  by_cases isOpen : (desk.called around).isOpen = true
  · rw [Yard.submit_of_isOpen _ _ isOpen, isOpen]
    rfl
  · rw [Yard.submit_of_shut _ _ isOpen, Bool.eq_false_iff.mpr isOpen]
    rfl

end Direct

/-- **An open dispatcher gets what is posted to it**: the commands in order and, if there was no
fault, the end of the input. -/
theorem postFrom_directly (around : Surroundings σ) (desk : Desk σ) (posted : Nat) (commands : List (List Char))
    (fault : Option Command.SourceFault) :
    ∃ calls, (Command.postFrom (directly around) fault desk posted commands).1.calls =
        desk.calls ++ calls ∧
      ((∀ step ∈ calls, step.before.isOpen = true) → Brings (Yard.sent calls) commands fault) := by
  induction commands generalizing desk posted with
  | nil =>
    cases fault with
    | some fault => exact ⟨[], (List.append_nil _).symm, fun _ => ⟨[], rfl, rfl⟩⟩
    | none =>
      rw [Command.postFrom_end]
      exact ⟨_, rfl, fun isOpen =>
        ⟨[], rfl, sent_endOfInput around.setting (isOpen _ List.mem_cons_self)⟩⟩
  | cons command commands hypothesis =>
    cases taken : ((directly around).submit desk (String.ofList command)).2 with
    | ok id =>
      obtain ⟨calls, made, brings⟩ :=
        hypothesis ((directly around).submit desk (String.ofList command)).1 (posted + 1)
      refine ⟨desk.submission around (String.ofList command) :: calls, ?_, fun isOpen => ?_⟩
      · rw [Command.postFrom_taken taken, made, directly_submit_calls, List.append_assoc]
        rfl
      · have called : (desk.called around).isOpen = true := isOpen _ List.mem_cons_self
        rw [← List.singleton_append, Yard.sent_append, sent_submission called]
        exact (brings fun step member => isOpen step (List.mem_cons_of_mem _ member)).cons _
    | error failure =>
      refine ⟨_, by rw [Command.postFrom_refused taken, directly_submit_calls], fun isOpen => ?_⟩
      have answered : ((directly around).submit desk (String.ofList command)).2.isOk = _ :=
        directly_submit_isOk
      have called : (desk.called around).isOpen = true := isOpen _ List.mem_cons_self
      rw [taken, called] at answered
      cases answered

theorem directCalls_sent (yard : Yard σ) (reader : Command.Reader)
    (isOpen : ∀ step ∈ directCalls around yard reader, step.before.isOpen = true) :
    Brings (Yard.sent (directCalls around yard reader)) reader.commands.1 reader.commands.2 := by
  obtain ⟨calls, made, brings⟩ := postFrom_directly around { yard } 0
    reader.commands.1 reader.commands.2
  have same : directCalls around yard reader = calls := made
  rw [same] at isOpen ⊢
  exact brings isOpen

/-- **Posting through a manager and posting to the dispatcher itself come to the same.** No command
that is read from a stream is refused by a manager before it gets to the dispatcher. Both ways the same
calls are made in the same yard, also if the dispatcher stops meanwhile. If the dispatcher is open
whenever it is called, whatever others do in between, then both ways it gets the commands of the
stream in order, up to a fault if there is one, and the end of the input if there is none. -/
theorem posts_alike (stream : Command.Stream) :
    (∀ command ∈ (Command.Reader.ofStream stream).commands.1,
      ∀ (setting : Yard.Setting σ) (yard : Yard σ),
        Rpc.Manager.submit setting (String.ofList command) yard =
          ((yard.submit setting (String.ofList command)).1,
            ((yard.submit setting (String.ofList command)).2.map Wire.Submitted.mk).mapError
              fun error => .ofFailure (.dispatch error))) ∧
    (∀ (around : Surroundings σ) (meanwhile : List Yard.Action)
      (elsewhere : Desk σ → Wire.Call → Desk σ × Except LinkFailure String) (yard : Yard σ),
      remoteCalls around meanwhile elsewhere yard (.ofStream stream) =
        directCalls around yard (.ofStream stream)) ∧
    (∀ (around : Surroundings σ) (yard : Yard σ),
      (∀ step ∈ directCalls around yard (.ofStream stream), step.before.isOpen = true) →
      Brings (Yard.sent (directCalls around yard (.ofStream stream)))
        (Command.Reader.ofStream stream).commands.1 (Command.Reader.ofStream stream).commands.2) ∧
    ∀ (around : Surroundings σ) (meanwhile : List Yard.Action)
      (elsewhere : Desk σ → Wire.Call → Desk σ × Except LinkFailure String) (yard : Yard σ),
      (∀ step ∈ remoteCalls around meanwhile elsewhere yard (.ofStream stream),
        step.before.isOpen = true) →
      Brings (Yard.sent (remoteCalls around meanwhile elsewhere yard (.ofStream stream)))
        (Command.Reader.ofStream stream).commands.1
        (Command.Reader.ofStream stream).commands.2 := by
  refine ⟨fun command found setting yard => ?_, fun around meanwhile elsewhere yard => ?_,
    fun around yard => directCalls_sent yard _, fun around meanwhile elsewhere yard => ?_⟩
  · refine submit_dark setting ?_ yard
    rw [String.toList_ofList]
    exact Command.commands_dark found
  · exact remoteCalls_eq yard _
  · rw [remoteCalls_eq]
    exact directCalls_sent yard _

/-- A line, a blank one and two that belong together: `true`, and `ls` on two lines. -/
def threeGroups : Command.Stream := ⟨[116, 114, 117, 101, 10, 32, 10, 108, 92, 10, 115, 10], none⟩

/-- Someone asks for a job, and the dispatcher goes on before each call. -/
def busy : Surroundings Unit := ⟨Yard.plain, fun _ => [.request, .process, .process]⟩

theorem posts_alike_threeGroups :
    (∀ step ∈ remoteCalls busy [.process] (fun desk _ => (desk, .error .timedOut)) { log := () }
        (.ofStream threeGroups), step.before.isOpen = true) ∧
      (Command.Reader.ofStream threeGroups).commands =
        ([['t', 'r', 'u', 'e'], ['l', 's']], none) ∧
      Brings (Yard.sent (remoteCalls busy [.process] (fun desk _ => (desk, .error .timedOut))
        { log := () } (.ofStream threeGroups))) [['t', 'r', 'u', 'e'], ['l', 's']] none := by
  have read : (Command.Reader.ofStream threeGroups).commands =
      ([['t', 'r', 'u', 'e'], ['l', 's']], none) := by decide +kernel
  have isOpen : ∀ step ∈ remoteCalls busy [.process] (fun desk _ => (desk, .error .timedOut))
      { log := () } (.ofStream threeGroups), step.before.isOpen = true := by
    rw [remoteCalls_eq]
    decide +kernel
  obtain ⟨-, -, -, brings⟩ := posts_alike (σ := Unit) threeGroups
  have brought := brings busy [.process] (fun desk _ => (desk, .error .timedOut)) { log := () } isOpen
  rw [read] at brought
  exact ⟨isOpen, read, brought⟩

end Client

end Workyard
