/-
**Builtins for jobs and signals.**

A command in the background is a job with a number, which is free again once the job has ended and the
shell was asked to wait for it, or has told about it.
-/

import Workyard.Shell.Builtin.Basic

namespace Workyard.Shell

/-- Whether all processes of a job have ended. -/
def Job.isDone (job : Job) : Bool :=
  job.processes.all fun process => (job.endings.lookup process).isSome

/-- The end of the last process of a job. -/
def Job.ending? (job : Job) : Option Ending :=
  job.processes.getLast?.bind fun process => job.endings.lookup process

/-- The status of a job that is done. -/
def Job.status (job : Job) : Nat := (job.ending?.map Ending.status).getD 127

/-- A number for a new job; a job with that number that is done with is forgotten. -/
def takeNumber : Act Nat := do
  let shell ← get
  let isFree (number : Nat) : Bool :=
    (shell.jobs.filter (·.number = number)).all fun job => job.isDone && job.waited
  let number := ((List.range (shell.jobs.length + 1)).map (· + 1)).find? isFree |>.getD 1
  modify fun shell => { shell with jobs := shell.jobs.filter (·.number ≠ number) }
  return number

/-- Says that a process was ended by a signal, if that does not go without saying. -/
def announce (ending : Ending) : Act Unit := do
  match ending with
  | .killed signal => match endWords signal with
    | some words => write 2 (octets s!"{words}\n")
    | none => return
  | .exited _ => return

/-- Says that a process that carried out a command was ended by a signal, as a shell of the extended language
does that may have waited for it all the time; some signals go without saying. -/
def announceExtended (inFront : Bool) (process : Nat) (ending : Ending) (command : Octets) : Act Unit := do
  match ending with
  | .killed 15 => if inFront then write 2 (octets "Terminated\n")
  | .killed signal =>
    if signal ≠ 2 && signal ≠ 13 then
      let name := ((signals.find? (·.1 = signal)).map (·.2.2)).getD "Unknown signal"
      during [] (complain (rightIn 5 (decimal process) ++ ' ' :: leftIn 24 (octets name) ++ command))
  | .exited _ => return

/-- Waits for processes in the foreground, says which of them signals ended, and gives the status of the
last. -/
def await (processes : List Nat) : Act Nat := do
  let mut status := 0
  for process in processes do
    let ending ← ending process
    announce ending
    status := ending.status
  return status

namespace Builtin

/-! ### Jobs -/

/-- The job that an argument stands for. -/
def job (text : Octets) : Act Job := do
  let jobs := (← get).jobs
  let missing : Act Job := refuse (octets "No such job: " ++ text)
  let found (job : Option Job) : Act Job := match job with
    | some job => pure job
    | none => missing
  match text with
  | ['%'] | ['%', '%'] | ['%', '+'] => match jobs.head? with
    | some job => return job
    | none => refuse (octets "No current job")
  | ['%', '-'] => match jobs[1]? with
    | some job => return job
    | none => refuse (octets "No previous job")
  | '%' :: digits =>
    if isDigits digits then found (jobs.find? (·.number = valueIn 10 digits)) else missing
  | digits =>
    if isDigits digits then found (jobs.find? fun job => job.processes.getLast? = some (valueIn 10 digits))
    else missing

/-- How a job is doing. -/
def standing (job : Job) : Octets :=
  if !job.isDone then octets "Running"
  else match job.ending? with
    | some (.killed signal) => octets (((signals.find? (·.1 = signal)).map (·.2.2)).getD "Unknown signal")
    | some (.exited 0) => octets "Done"
    | some (.exited status) => octets s!"Done({status})"
    | none => octets "Done"

/-- Shows a job, with a sign for the newest and for the one before; one that is done is forgotten. -/
def showJob (numbered : Bool) (job : Job) : Act Octets := do
  let jobs := (← get).jobs
  let sign := if (jobs.head?.map (·.number)) = some job.number then '+'
    else if (jobs[1]?.map (·.number)) = some job.number then '-' else ' '
  let front := '[' :: decimal job.number ++ [']', ' ', sign, ' '] ++
    (if numbered then decimal (job.processes.headD 0) ++ [' '] else []) ++ standing job
  let behind := (job.processes.drop 1).flatMap fun process =>
    if numbered then octets " |\n      " ++ decimal process else octets " | "
  if job.isDone then
    modify fun shell => { shell with jobs := shell.jobs.filter (·.number ≠ job.number) }
  return leftIn 33 front ++ behind ++ ['\n']

/-- Shows jobs. -/
def jobs (arguments : List Octets) : Act Nat := do
  let (options, names) ← options "lp" "" arguments
  reapUpTo none
  let chosen ← if names = [] then pure (← get).jobs else names.mapM job
  let mut text := []
  for one in chosen do
    if options.any (·.1 = 'p') then
      text := text ++ decimal (one.processes.headD 0) ++ ['\n']
    else text := text ++ (← showJob (options.any (·.1 = 'l')) one)
  put text

/-- Refuses to bring a job to the foreground or the background where nobody sits at a terminal. -/
def moveJob (arguments : List Octets) : Act Nat := do
  let names ← operands arguments
  match names with
  | [] => match (← get).jobs with
    | [] => refuse (octets "No current job")
    | _ => refuse (octets "job (null) not created under job control")
  | name :: _ =>
    let _ ← job name
    refuse (octets "job " ++ name ++ octets " not created under job control")

/-- Waits until all processes of a job have ended; a signal that is caught ends the waiting. -/
def awaitJob (job : Job) : Act (Option Nat) := do
  let own := (← get).process
  let caught (world : World) : Option Nat := (world.process? own).bind (·.arrived.head?)
  for process in job.processes do
    if (job.endings.lookup process).isNone then
      waitFor fun world => !world.isAlive process || (caught world).isSome
      match caught (← world) with
      | some signal => if (← world).isAlive process then return some signal
      | none => pure ()
      if let some ending := ((← world).process? process).bind (·.ending) then
        if (← get).extended then announceExtended false process ending job.text else announce ending
      reapUpTo (some process)
  return none

/-- Waits for jobs. -/
def wait (arguments : List Octets) : Act Nat := do
  let names ← operands arguments
  let waited (number : Nat) : Act Unit := modify fun shell => { shell with
    jobs := shell.jobs.map fun job => if job.number = number then { job with waited := true } else job }
  let own := (← get).process
  match names with
  | [] =>
    let caught (world : World) : Option Nat := (world.process? own).bind (·.arrived.head?)
    let processes := (← get).jobs.flatMap fun job =>
      job.processes.filter fun process => (job.endings.lookup process).isNone
    waitFor fun world => processes.all (fun process => !world.isAlive process) || (caught world).isSome
    let world ← world
    match caught world, processes.any world.isAlive with
    | some signal, true => return 128 + signal
    | _, _ =>
      reapUpTo none
      for job in (← get).jobs do
        waited job.number
      return 0
  | names =>
    let mut status := 127
    for name in names do
      let found ← if name.head? = some '%' then some <$> job name
        else do
          let process ← number name
          pure ((← get).jobs.find? fun job => job.processes.getLast? = some process)
      match found with
      | none => pure ()
      | some one =>
        match ← awaitJob one with
        | some signal => return 128 + signal
        | none =>
          waited one.number
          status := (((← get).jobs.find? (·.number = one.number)).map Job.status).getD 127
    return status

/-! ### Signals -/

/-- Sends a signal to a process, or to a group of them that a negative number stands for; `false` if
there is none. -/
def send (signal : Nat) (target : Int) : Act Bool := do
  let shell ← get
  let own := ((← me).map (·.group)).getD 0
  let group : Option Nat := if target = 0 then some own else if target < 0 then some target.natAbs else none
  let receivers := shell.world.processes.filter fun process => match group with
    | some group => process.group = group
    | none => Int.ofNat process.number = target
  let others := (receivers.map (·.number)).filter (· ≠ shell.process)
  for number in others do
    sendTo signal number
  if receivers.any (·.number = shell.process) then sendTo signal shell.process
  return receivers ≠ []

/-- Names signals. -/
def list (arguments : List Octets) : Act Nat :=
  match arguments with
  | [] =>
    put ((List.range 65).flatMap fun number => octets (signalName number) ++ ['\n'])
  | text :: _ => do
    let number ← number text
    let signal := if 128 < number then number - 128 else number
    if signal = 0 || 64 < signal then
      refuse (octets "invalid signal number or exit status: " ++ text)
    put (octets (signalName signal) ++ ['\n'])

/-- Sends signals. -/
def kill (arguments : List Octets) : Act Nat := do
  let usage := octets "Usage: kill [-s sigspec | -signum | -sigspec] [pid | job]... or\nkill -l [exitstatus]"
  let illegal (c : Char) : Act (Option Nat × List Octets) := refuse (octets "Illegal option -" ++ [c])
  let (signal, targets) : Option Nat × List Octets ← match arguments with
    | ('-' :: 'l' :: _) :: rest => pure (none, rest)
    | ['-', 's'] :: [] => refuse (octets "No arg for -s option")
    | ['-', 's'] :: name :: rest => match signal? name with
      | some signal => pure (some signal, rest)
      | none => refuse (octets "invalid signal number or name: " ++ name)
    | ['-', '-'] :: rest => pure (some 15, rest)
    | ('-' :: c :: more) :: rest => match signal? (c :: more) with
      | some signal => pure (some signal, rest)
      | none =>
        if c = 's' then match signal? more with
          | some signal => pure (some signal, rest)
          | none => refuse (octets "invalid signal number or name: " ++ more)
        else illegal c
    | rest => pure (some 15, rest)
  let targets := if targets.head? = some ['-', '-'] then targets.drop 1 else targets
  match signal with
  | none => list targets
  | some signal =>
    if targets = [] then refuse usage
    else
      let mut status := 0
      for target in targets do
        let number : Int ← match target with
          | '%' :: _ => do pure (-((((← job target).processes.head?).getD 0 : Nat) : Int))
          | '-' :: digits => do pure (-((← number digits : Nat) : Int))
          | digits => do pure ((← number digits : Nat) : Int)
        if !(← send signal number) then
          complain (octets "No such process\n")
          status := 1
      return status

/-- The name that the end of the shell goes by among the signals. -/
def exitName : String := "EXIT"

/-- Keeps what is to be done about a signal. -/
def setTrap (signal : Nat) (action : Option Octets) : Act Unit := do
  if !(← get).deaf.contains signal then
    modify fun shell =>
      let others := shell.traps.filter (·.1 ≠ signal)
      { shell with
        extra := { shell.extra with outerTraps := [] }
        traps := match action with
          | some action => (signal, action) :: others
          | none => others }
    modifyMe fun process =>
      { process with
        ignored := if action = some [] then signal :: process.ignored
          else process.ignored.filter (· ≠ signal)
        caught := if action.any (· ≠ []) then signal :: process.caught
          else process.caught.filter (· ≠ signal) }

/-- Keeps what is to be done about signals, or shows it. -/
def trap (arguments : List Octets) : Act Nat := do
  let arguments ← operands arguments
  match arguments with
  | [] =>
    let traps := (← get).traps.mergeSort fun first second => first.1 ≤ second.1
    put (traps.flatMap fun trap =>
      let name := if trap.1 = 0 then exitName else signalName trap.1
      octets "trap -- " ++ quoted trap.2 ++ octets s!" {name}\n")
  | action :: names =>
    let (action, names) : Option Octets × List Octets :=
      if names = [] || (signal? action).isSome && isDigits action then (none, action :: names)
      else if action = ['-'] then (none, names)
      else (some action, names)
    for name in names do
      match signal? name with
      | none =>
        write 2 (octets "trap: " ++ name ++ octets ": bad trap\n")
        return 1
      | some signal => setTrap signal action
    return 0

end Builtin

end Workyard.Shell
