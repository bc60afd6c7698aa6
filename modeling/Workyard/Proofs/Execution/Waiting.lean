/-
**Executors over any kernel.**

An executor is as good as the kernel below it. What is assumed of a kernel is `Kernel.Lawful`: what is never
killed ends by itself; a program that ends in its time does not notice that it had more; and more time only
adds to what is written. Nothing is assumed about when a command ends, in which way, or with which output.

* `execute_unlimited`: without a limit no command is given up;
* `execute_longer`: a longer limit changes nothing unless the shorter one was exceeded, and then what had
  been written is the front of what is written with the longer one;
* `answer_of_error`: whatever the kernel does, a worker's call is refused only as that of a command that
  did not succeed;
* `lawful_scripted`: programs that write and end at fixed times make up such a kernel.
-/

import Mathlib.Data.List.Infix
import Mathlib.Data.List.TakeWhile
import Workyard.CommandLine.Serve

namespace Workyard

/-! ### What is assumed of a kernel -/

/-- A time is not longer than another; none has no end. -/
def Within (time more : Option Nat) : Prop :=
  ∀ limit, more = some limit → ∃ first ≤ limit, time = some first

/-- A program is seen in the same way whenever it is given time enough. -/
structure Lawful (child : Option Nat → Sight) : Prop where
  /-- What is never killed ends by itself. -/
  unlimited : (child none).ending ≠ .ok none
  /-- A program that ends in its time does not notice that it had more. -/
  longer {time more : Option Nat} : Within time more → (child time).ending ≠ .ok none →
    child more = child time
  /-- More time only adds to what is written. -/
  front {time more : Option Nat} {octets all : List UInt8} : Within time more →
    (child time).written = .ok octets → (child more).written = .ok all → octets <+: all

/-- All programs of a kernel are seen in this way. -/
def Kernel.Lawful (kernel : Kernel) : Prop :=
  ∀ shell command child, kernel.start shell command = .ok child → Workyard.Lawful child

/-! ### What comes of a command -/

/-- The output that was captured, also of a command that failed; none if there is none. -/
def captured : Except ExecFailure Success → Option String
  | .ok success => some success.output
  | .error (.exited _ output) | .error (.timedOut _ output) => some output
  | .error (.spawnFailed _) | .error (.ioFailed _) => none

variable {sight : Sight} {executor : Executor} {kernel : Kernel} {command shell : String}
  {time more : Option Nat}

/-- A program is given up just if it had to be killed and what it wrote could be read. -/
theorem result_eq_timedOut_iff {afterMs : Int} {output : String} :
    sight.result = .error (.timedOut afterMs output) ↔ sight.ending = .ok none ∧
      sight.elapsed = afterMs ∧ ∃ octets, sight.written = .ok octets ∧ textOf octets = output := by
  obtain ⟨ending, written, elapsed⟩ := sight
  unfold Sight.result
  rcases ending with reason | _ | status | signal <;> rcases written with fault | octets
  case ok.none.ok => simp
  case ok.some.exited.ok => cases status <;> simp
  all_goals simp

/-- What is captured is what was written. -/
theorem captured_result {output : String} (found : captured sight.result = some output) :
    ∃ octets, sight.written = .ok octets ∧ textOf octets = output := by
  obtain ⟨ending, written, elapsed⟩ := sight
  unfold Sight.result at found
  rcases ending with reason | _ | status | signal <;> rcases written with fault | octets
  case ok.none.ok => exact ⟨octets, rfl, by simpa [captured] using found⟩
  case ok.some.exited.ok => cases status <;> exact ⟨octets, rfl, by simpa [captured] using found⟩
  case ok.some.killed.ok => exact ⟨octets, rfl, by simpa [captured] using found⟩
  all_goals cases found

/-- **Without a limit no command is given up.** -/
theorem execute_unlimited (lawful : kernel.Lawful) (shell command : String) (afterMs : Int)
    (output : String) :
    (Executor.mk shell none).execute kernel command ≠ .error (.timedOut afterMs output) := by
  unfold Executor.execute
  cases start : kernel.start shell command with
  | error reason => nofun
  | ok child =>
    intro given
    exact (lawful _ _ _ start).unlimited (result_eq_timedOut_iff.mp given).1

/-- **What a longer limit changes**: nothing for a command that did not exceed the shorter one. Of one that
did, what had been written until then is the front of what is written now. -/
theorem execute_longer (lawful : kernel.Lawful) (within : Within time more) (shell command : String) :
    (Executor.mk shell more).execute kernel command = (Executor.mk shell time).execute kernel command ∨
      (∃ reason, (Executor.mk shell time).execute kernel command = .error (.ioFailed reason)) ∨
      ∃ octets afterMs,
        (Executor.mk shell time).execute kernel command = .error (.timedOut afterMs (textOf octets)) ∧
        ∀ output, captured ((Executor.mk shell more).execute kernel command) = some output →
          ∃ all, octets <+: all ∧ textOf all = output := by
  unfold Executor.execute
  cases start : kernel.start shell command with
  | error reason => exact .inl rfl
  | ok child =>
    have lawful := lawful _ _ _ start
    by_cases killed : (child time).ending = .ok none
    · cases written : (child time).written with
      | error reason => exact .inr (.inl ⟨reason, by simp [Sight.result, killed, written]⟩)
      | ok octets =>
        refine .inr (.inr ⟨octets, _, result_eq_timedOut_iff.mpr ⟨killed, rfl, octets, written, rfl⟩, ?_⟩)
        intro output found
        obtain ⟨all, read, spelled⟩ := captured_result found
        exact ⟨all, lawful.front within written read, spelled⟩
    · exact .inl (congrArg Sight.result (lawful.longer within killed))

open CommandLine in
/-- **What a worker refuses is final**: whatever the kernel does, an error is that of a command that did not
succeed, and says why. -/
theorem answer_of_error {serving : Serving} {machine : Machine} {kernel : Kernel} {error : Rpc.Error}
    (refused : serving.answer machine kernel command = .error error) :
    error.code = Rpc.Error.processFailed ∧ ∃ failure,
      (serving.service.executor machine).execute kernel command = .error failure ∧
        error = .ofExecution (failure.truncated maxFailureOutput) := by
  unfold Serving.answer at refused
  cases executed : (serving.service.executor machine).execute kernel command with
  | ok success =>
    rw [executed] at refused
    cases refused
  | error failure =>
    rw [executed] at refused
    cases refused
    exact ⟨rfl, failure, rfl, rfl⟩

/-! ### Programs that write and end at fixed times -/

/-- A program that does what it does at fixed times. -/
structure Scripted where
  /-- What it writes, behind the milliseconds at which it does. -/
  writings : List (Nat × List UInt8)
  ends : Nat
  status : ExitStatus

namespace Scripted

variable (program : Scripted)

/-- When the program has to be killed, if at all. -/
def killedAt (time : Option Nat) : Option Nat := time.filter (· ≤ program.ends)

/-- How the program is seen. -/
def seen (time : Option Nat) : Sight where
  ending := .ok (if (program.killedAt time).isSome then none else some program.status)
  written := .ok ((program.writings.takeWhile fun writing =>
    (program.killedAt time).all (writing.1 ≤ ·)).flatMap (·.2))
  elapsed := ((program.killedAt time).getD program.ends : Nat)

variable {program}

theorem killedAt_within (within : Within time more) :
    Within (program.killedAt time) (program.killedAt more) := by
  intro limit killed
  obtain ⟨given, exceeded⟩ := Option.filter_eq_some_iff.mp killed
  obtain ⟨first, below, rfl⟩ := within limit given
  have early : first ≤ program.ends := Nat.le_trans below (of_decide_eq_true exceeded)
  exact ⟨first, below, by simp [killedAt, early]⟩

/-- Who writes no later than at a time writes no later than at a longer one. -/
theorem all_of_within (within : Within time more) (moment : Nat) (inTime : time.all (moment ≤ ·) = true) :
    more.all (moment ≤ ·) = true := by
  cases more with
  | none => rfl
  | some limit =>
    obtain ⟨first, below, rfl⟩ := within limit rfl
    simp only [Option.all_some, decide_eq_true_eq] at inTime ⊢
    exact Nat.le_trans inTime below

theorem takeWhile_prefix_of_within (within : Within time more) (writings : List (Nat × List UInt8)) :
    (writings.takeWhile fun writing => time.all (writing.1 ≤ ·)) <+:
      writings.takeWhile fun writing => more.all (writing.1 ≤ ·) := by
  have narrower : (writings.takeWhile fun writing => more.all (writing.1 ≤ ·)).takeWhile
      (fun writing => time.all (writing.1 ≤ ·)) =
      writings.takeWhile fun writing => time.all (writing.1 ≤ ·) := by
    rw [List.takeWhile_takeWhile]
    refine congrArg (List.takeWhile · writings) (funext fun writing => ?_)
    rw [Bool.eq_iff_iff, decide_eq_true_eq]
    exact and_iff_left_of_imp (all_of_within within writing.1)
  rw [← narrower]
  exact List.takeWhile_prefix _

theorem lawful_seen (program : Scripted) : Lawful program.seen where
  unlimited := by simp [seen, killedAt]
  longer {time more} within ended := by
    have first : program.killedAt time = none := by simpa [seen] using ended
    have second : program.killedAt more = none := by
      cases killed : program.killedAt more with
      | none => rfl
      | some limit =>
        obtain ⟨moment, -, early⟩ := killedAt_within within limit killed
        rw [first] at early
        cases early
    simp only [seen, first, second]
  front within first second := by
    cases first
    cases second
    exact (takeWhile_prefix_of_within (killedAt_within within) _).flatMap _

end Scripted

/-- A kernel that starts such programs, or says why it does not. -/
def Kernel.scripted (programs : String → String → Except String Scripted) : Kernel where
  start shell command := (programs shell command).map Scripted.seen

/-- **There are such kernels**, whatever their programs write and whenever they end. -/
theorem lawful_scripted (programs : String → String → Except String Scripted) :
    (Kernel.scripted programs).Lawful := by
  intro shell command child start
  simp only [Kernel.scripted] at start
  cases known : programs shell command with
  | error reason =>
    rw [known] at start
    cases start
  | ok program =>
    rw [known] at start
    cases start
    exact program.lawful_seen

/-- The output up to the limit is kept. -/
example : (Executor.mk "/bin/sh" (some 200)).execute
    (.scripted fun _ _ => .ok ⟨[(3, [111, 107, 10]), (10003, [33])], 10003, .exited 0⟩)
    "echo ok; sleep 10; echo !" = .error (.timedOut 200 "ok\n") := by decide

end Workyard
