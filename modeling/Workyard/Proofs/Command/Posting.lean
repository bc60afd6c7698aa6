/-
**What is posted.**

A reader gives no command of nothing but blanks, and posting gives a sink the commands of a reader one
after another as long as the sink takes them. Two sinks that answer alike are given the same.

* `commands_dark`: no command that a reader finds is blank;
* `postFrom_related`: what is so of two sinks before each call is so after posting.
-/

import Workyard.Command.Post

namespace Workyard.Command

variable {σ τ : Type}

/-! ### The commands of a reader -/

theorem nextFrom_dark {group text : List Char} {start : Option Nat} {read : Nat} {lines : List Line}
    (found : (nextFrom group start read lines).1 = .command text) : Text.allBlank text = false := by
  induction lines generalizing group start read with
  | nil => cases start <;> cases found
  | cons line lines hypothesis =>
    cases line with
    | error fault => cases found
    | ok line =>
      rw [nextFrom] at found
      split at found
      · exact hypothesis found
      · dsimp only at found
        split at found
        · exact hypothesis found
        · next dark =>
          obtain rfl : group ++ line = text := Step.command.inj found
          exact Bool.eq_false_iff.mpr dark

theorem steps_dark {reader : Reader} {text : List Char} (found : .command text ∈ reader.steps) :
    Text.allBlank text = false := by
  fun_induction Reader.steps reader with
  | case1 reader ended => cases found
  | case2 reader left hypothesis =>
    rcases List.mem_cons.mp found with first | later
    · exact nextFrom_dark first.symm
    · exact hypothesis later

theorem mem_steps_of_mem_collect {steps : List Step} {text : List Char}
    (found : text ∈ (collect steps).1) : .command text ∈ steps := by
  induction steps with
  | nil => cases found
  | cons step steps hypothesis =>
    cases step with
    | command first =>
      rcases List.mem_cons.mp found with rfl | later
      · exact List.mem_cons_self
      · exact List.mem_cons_of_mem _ (hypothesis later)
    | fault fault => cases found
    | done => cases found

/-- **No command that a reader finds is blank.** -/
theorem commands_dark {reader : Reader} {text : List Char} (found : text ∈ reader.commands.1) :
    Text.allBlank text = false :=
  steps_dark (mem_steps_of_mem_collect found)

/-! ### Posting -/

section Post

variable {sink : Sink σ} {fault : Option SourceFault} {state : σ} {posted : Nat}
  {command : List Char} {commands : List (List Char)}

/-- Posting ends with the end of the input. -/
theorem postFrom_end : (postFrom sink none state posted []).1 = (sink.endOfInput state).1 := by
  rw [postFrom]
  rcases sink.endOfInput state with ⟨state, _ | _⟩ <;> rfl

/-- A command that is taken is followed by the next. -/
theorem postFrom_taken {id : JobId}
    (taken : (sink.submit state (String.ofList command)).2 = .ok id) :
    postFrom sink fault state posted (command :: commands) =
      postFrom sink fault (sink.submit state (String.ofList command)).1 (posted + 1) commands := by
  rw [postFrom]
  generalize sink.submit state (String.ofList command) = answer at taken
  obtain ⟨state, result⟩ := answer
  cases taken
  rfl

/-- A command that is refused is the last. -/
theorem postFrom_refused {failure : Failure}
    (refused : (sink.submit state (String.ofList command)).2 = .error failure) :
    postFrom sink fault state posted (command :: commands) =
      ((sink.submit state (String.ofList command)).1, .error failure) := by
  rw [postFrom]
  generalize sink.submit state (String.ofList command) = answer at refused
  obtain ⟨state, result⟩ := answer
  cases refused
  rfl

end Post

/-- **Two sinks are given the same as long as both take it**: what is so of them before each call, and
of what ending the input makes of them, is so when posting is over. -/
theorem postFrom_related {first : Sink σ} {second : Sink τ} (related ended : σ → τ → Prop)
    {commands : List (List Char)} {fault : Option SourceFault} {state : σ} {other : τ} {posted : Nat}
    (submits : ∀ command ∈ commands, ∀ state other, related state other →
      related (first.submit state (String.ofList command)).1
          (second.submit other (String.ofList command)).1 ∧
        (first.submit state (String.ofList command)).2.isOk =
          (second.submit other (String.ofList command)).2.isOk)
    (ends : ∀ state other, related state other →
      ended (first.endOfInput state).1 (second.endOfInput other).1)
    (stops : ∀ state other, related state other → ended state other)
    (begins : related state other) :
    ended (postFrom first fault state posted commands).1
      (postFrom second fault other posted commands).1 := by
  induction commands generalizing state other posted with
  | nil =>
    cases fault with
    | some fault => exact stops state other begins
    | none =>
      rw [postFrom_end, postFrom_end]
      exact ends state other begins
  | cons command commands hypothesis =>
    obtain ⟨still, alike⟩ := submits command List.mem_cons_self state other begins
    cases here : (first.submit state (String.ofList command)).2 with
    | ok id =>
      cases there : (second.submit other (String.ofList command)).2 with
      | ok number =>
        rw [postFrom_taken here, postFrom_taken there]
        exact hypothesis (fun later member => submits later (List.mem_cons_of_mem _ member)) still
      | error failure =>
        rw [here, there] at alike
        cases alike
    | error failure =>
      cases there : (second.submit other (String.ofList command)).2 with
      | ok number =>
        rw [here, there] at alike
        cases alike
      | error failure =>
        rw [postFrom_refused here, postFrom_refused there]
        exact stops _ _ still

end Workyard.Command
