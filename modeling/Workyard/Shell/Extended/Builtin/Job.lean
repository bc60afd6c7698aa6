/-
**Builtins for jobs and signals.**

* `trap`, `kill`: what is done about signals, and sending them;
* `wait`, `jobs`, `disown`: commands in the background.
-/

import Workyard.Shell.Builtin.Job
import Workyard.Shell.Extended.Builtin.Output

namespace Workyard.Shell.Extended.Builtin

/-! ### Names of signals -/

/-- The numbers by which more that can happen goes among the signals, with the names. -/
def eventNames : List (Nat × String) := [(0, "EXIT"), (65, "DEBUG"), (66, "ERR"), (67, "RETURN")]

/-- The name of a signal without its front. -/
def bareName (number : Nat) : String := if number = 16 then "STKFLT" else signalName number

/-- The name of a signal, or of what else can happen. -/
def eventName (number : Nat) : String := (eventNames.lookup number).getD s!"SIG{bareName number}"

/-- The numbers of the signals that have names. -/
def namedSignals : List Nat := (List.range 65).filter fun number => number ≠ 0 && number ≠ 32 && number ≠ 33

/-- The signal with a number or a name, in large or small letters. -/
def event? (text : Octets) : Option Nat :=
  if isDigits text then
    let number := valueIn 10 text
    if number < 65 then some number else none
  else
    let name := spelled (text.map Char.toUpper)
    (eventNames.find? (·.2 = name)).map (·.1) |>.or
      (namedSignals.find? fun number => name = bareName number || name = s!"SIG{bareName number}")

/-- A table of all signals. -/
def signalTable : Octets :=
  let cells := namedSignals.zipIdx.map fun (number, index) =>
    rightIn 2 (decimal number) ++ octets s!") SIG{bareName number}" ++ [if index % 5 = 4 then '\n' else '\t']
  cells.flatten ++ (if namedSignals.length % 5 = 0 then [] else ['\n'])

/-! ### What is done about signals -/

/-- Shows what is to be done about signals. -/
def showTraps (wanted : Nat → Bool) : Act Nat := do
  let shell ← get
  let outer := shell.extra.outerTraps.filter fun trap => (shell.traps.lookup trap.1).isNone
  let traps := ((shell.traps ++ outer).filter fun trap => wanted trap.1).mergeSort
    fun first second => first.1 ≤ second.1
  put 0 (traps.flatMap fun trap =>
    octets "trap -- " ++ inSingle trap.2 ++ octets s!" {eventName trap.1}\n")

/-- Keeps what is to be done about signals, or shows it. -/
def trap (arguments : List Octets) : Act Nat := do
  let wrong (name : Octets) : Act Nat := failing (name ++ octets ": invalid signal specification")
  let keepAll (action : Option Octets) (names : List Octets) : Act Nat := do
    let mut status := 0
    for name in names do
      match event? name with
      | none => status ← wrong name
      | some signal => Shell.Builtin.setTrap signal action
    return status
  if arguments.head? = some ['-'] then keepAll none (arguments.drop 1)
  else match ← options "lp" "" arguments with
    | none => return 2
    | some (read, words) =>
      if has read 'l' then put 0 signalTable
      else if has read 'p' then
        if words = [] then showTraps fun _ => true
        else
          let mut status := 0
          for name in words do
            match event? name with
            | none => status ← wrong name
            | some signal =>
              let _ ← showTraps (· = signal)
          return status
      else match words with
        | [] => showTraps fun _ => true
        | [name] => if (event? name).isSome then keepAll none words else misused
        | action :: names =>
          if isDigits action && (event? action).isSome then keepAll none words
          else if action = ['-'] then keepAll none names
          else keepAll (some action) names

/-! ### Jobs -/

/-- The job that an argument with a percent sign stands for; none behind a complaint. -/
def job (text : Octets) : Act (Option Job) := do
  let jobs := (← get).jobs.filter fun job => !job.isDone || !job.waited
  let found (job : Option Job) : Act (Option Job) := do
    if job.isNone then complain (text ++ octets ": no such job")
    return job
  let byText (fits : Job → Bool) : Act (Option Job) := do
    match jobs.filter fits with
    | _ :: _ :: _ =>
      complain (text.drop 1 ++ octets ": ambiguous job spec")
      found none
    | jobs => found jobs.head?
  match text.drop 1 with
  | [] | ['%'] | ['+'] => found jobs.head?
  | ['-'] => found ((jobs[1]?).or jobs.head?)
  | '?' :: part => byText fun job => (List.range (job.text.length + 1)).any fun index => part.isPrefixOf (job.text.drop index)
  | name =>
    if isDigits name then found (jobs.find? (·.number = valueIn 10 name))
    else byText fun job => name.isPrefixOf job.text

/-- How a job is doing. -/
def standing (job : Job) : Octets :=
  if !job.isDone then octets "Running"
  else match job.ending? with
    | some (.killed signal) => octets (((signals.find? (·.1 = signal)).map (·.2.2)).getD "Unknown signal")
    | some (.exited 0) => octets "Done"
    | some (.exited status) => octets s!"Exit {status}"
    | none => octets "Done"

/-- Shows a job, with a sign for the newest and for the one before. -/
def jobLine (jobs : List Job) (numbered : Bool) (job : Job) : Octets :=
  let sign := if (jobs.head?.map (·.number)) = some job.number then '+'
    else if (jobs[1]?.map (·.number)) = some job.number then '-' else ' '
  '[' :: decimal job.number ++ [']', sign, ' '] ++
    (if numbered then rightIn 5 (decimal (job.processes.headD 0)) ++ [' '] else [' ']) ++
    leftIn 24 (standing job) ++ job.text ++ (if job.isDone then [] else [' ', '&']) ++ ['\n']

/-- Shows jobs. -/
def jobs (services : Services) (arguments : List Octets) : Act Nat := do
  match ← options "lpnrsx" "" arguments with
  | none => return 2
  | some (read, names) =>
    if has read 'x' then if names = [] then return 0 else services.command names
    else
      reapUpTo none
      modify fun shell => { shell with
        jobs := shell.jobs.map fun job => if job.isDone then { job with waited := true } else job }
      let world ← world
      let shell ← get
      let outer := shell.extra.outerJobs.filter fun job => job.processes.any world.isAlive
      let live := shell.jobs.filter (fun job => !job.isDone) ++ outer
      let mut status := 0
      let mut chosen : List Job := live.mergeSort fun first second => first.number ≤ second.number
      if names ≠ [] then
        chosen := []
        for name in names do
          let found ← if name.head? = some '%' then job name
            else match count? name with
              | some number => do
                let found := live.find? fun job => job.processes.contains number
                if found.isNone then complain (name ++ octets ": no such job")
                pure found
              | none => do
                complain (name ++ octets ": no such job")
                pure none
          match found with
          | some one => chosen := chosen ++ [one]
          | none => status := 1
      if has read 's' then chosen := []
      put status (chosen.flatMap fun job =>
        if has read 'p' then decimal (job.processes.headD 0) ++ ['\n']
        else jobLine live (has read 'l') job)

/-- Forgets jobs. -/
def disown (arguments : List Octets) : Act Nat := do
  match ← options "har" "" arguments with
  | none => return 2
  | some (read, names) =>
    if has read 'a' || (has read 'r' && names = []) then
      modify fun shell => { shell with jobs := [] }
      return 0
    else
      let live := (← get).jobs.filter fun job => !job.isDone
      let names := if names = [] then [['%', '%']] else names
      let mut status := 0
      for name in names do
        let found ← if arguments.all (·.head? = some '-') then do
            if live = [] then complain (octets "current: no such job")
            pure live.head?
          else if name.head? = some '%' then job name
          else do
            let found := (count? name).bind fun number => live.find? fun job => job.processes.contains number
            if found.isNone then complain (name ++ octets ": no such job")
            pure found
        match found with
        | some one => modify fun shell => { shell with jobs := shell.jobs.filter (·.number ≠ one.number) }
        | none => status := 1
      return status

/-- Refuses to bring a job to the foreground or the background. -/
def moveJob : Act Nat := failing (octets "no job control")

/-- Takes notice that the shell was asked to wait for a job. -/
def markWaited (number : Nat) : Act Unit := modify fun shell => { shell with
  jobs := shell.jobs.map fun job => if job.number = number then { job with waited := true } else job }

/-- Waits for a job; gives its status, or that of a signal that came before. -/
def waitJob (one : Job) : Act Nat := do
  match ← Shell.Builtin.awaitJob one with
  | some signal => return 128 + signal
  | none =>
    markWaited one.number
    return (((← get).jobs.find? (·.number = one.number)).map Job.status).getD 127

/-- Waits until one of some jobs has ended; gives it, none if there is none. -/
def waitAny (numbers : List Nat) : Act (Option Job) := do
  let among (job : Job) : Bool := numbers.contains job.number && !job.waited
  let jobs := (← get).jobs.filter among
  if jobs = [] then return none
  else
    let isOver (world : World) (job : Job) : Bool := job.processes.all fun process =>
      (job.endings.lookup process).isSome || !world.isAlive process
    waitFor fun world => jobs.any (isOver world)
    let world ← world
    match jobs.reverse.find? (isOver world) with
    | none => return none
    | some job =>
      for process in job.processes do
        reapUpTo (some process)
      markWaited job.number
      return (← get).jobs.find? (·.number = job.number)

/-- Waits for jobs. -/
def wait (arguments : List Octets) : Act Nat := do
  match ← options "fn" "p" arguments with
  | none => return 2
  | some (read, names) =>
    if has read 'n' then
      let all := (← get).jobs
      let chosen := if names = [] then all else all.filter fun job =>
        names.any fun name => name = '%' :: decimal job.number ||
          (count? name).any fun number => job.processes.contains number && !job.waited
      if names ≠ [] && chosen = [] then
        complain (names.headD [] ++ octets ": no such job")
        return 127
      else match ← waitAny (chosen.map (·.number)) with
        | none => return 127
        | some job =>
          if let some name := lastOf read 'p' then
            let _ ← store name (decimal (job.processes.getLastD 0))
          return job.status
    else if names = [] then
      let shell ← get
      let own := shell.process
      let caught (world : World) : Option Nat := (world.process? own).bind (·.arrived.head?)
      let processes := shell.jobs.flatMap fun job =>
        job.processes.filter fun process => (job.endings.lookup process).isNone
      waitFor fun world => processes.all (fun process => !world.isAlive process) || (caught world).isSome
      let world ← world
      match caught world, processes.any world.isAlive with
      | some signal, true => return 128 + signal
      | _, _ =>
        for job in shell.jobs.reverse do
          let _ ← waitJob job
        return 0
    else
      let mut status := 0
      for name in names do
        if name.head? = some '%' then
          match ← job name with
          | none => status := 127
          | some one => status ← waitJob one
        else match count? name with
          | none =>
            let back := String.singleton (Char.ofNat 96)
            complain (octets back ++ name ++ octets "': not a pid or valid job spec")
            status := 1
          | some number => match (← get).jobs.find? fun job => job.processes.contains number with
            | some one =>
              status ← waitJob one
              if let some ending := ((← get).jobs.find? (·.number = one.number)).bind (·.endings.lookup number) then
                status := ending.status
            | none =>
              complain (octets s!"pid {number} is not a child of this shell")
              status := 127
      return status

/-! ### Sending signals -/

/-- Names signals. -/
def nameSignals (arguments : List Octets) : Act Nat := do
  let arguments := arguments.filter (·.head? ≠ some '-')
  if arguments = [] then put 0 signalTable
  else
    let mut status := 0
    for text in arguments do
      if isDigits text then
        let number := valueIn 10 text
        let number := if 128 < number then number - 128 else number
        if 64 < number then
          status ← failing (text ++ octets ": invalid signal specification")
        else if number = 0 || namedSignals.contains number then
          let _ ← put 0 (octets (if number = 0 then "EXIT" else bareName number) ++ ['\n'])
      else match event? text with
        | some number => let _ ← put 0 (decimal number ++ ['\n'])
        | none => status ← failing (text ++ octets ": invalid signal specification")
    return status

/-- Sends signals. -/
def kill (arguments : List Octets) : Act Nat := do
  let chosen (name : Octets) (rest : List Octets) : Act (Option (Nat × List Octets)) := do
    match event? name with
    | some signal => return some (signal, rest)
    | none =>
      complain (name ++ octets ": invalid signal specification")
      return none
  match arguments with
  | [] => misused
  | ('-' :: c :: more) :: rest =>
    if more = [] && (c = 'l' || c = 'L') then nameSignals rest
    else
      let result ← if more = [] && (c = 's' || c = 'n') then
          (match rest with
          | [] => do
            complain (['-', c] ++ octets ": option requires an argument")
            pure none
          | name :: rest => chosen name rest)
        else if c = '-' && more = [] then pure (some (15, rest))
        else if c = 's' || c = 'n' then
          (match event? (c :: more), event? more with
          | none, some signal => pure (some (signal, rest))
          | _, _ => chosen (c :: more) rest)
        else chosen (c :: more) rest
      match result with
      | none => return 1
      | some (signal, rest) => sendAll signal (if rest.head? = some ['-', '-'] then rest.drop 1 else rest)
  | targets => sendAll 15 targets
where
  /-- Sends a signal to all targets. -/
  sendAll (signal : Nat) (targets : List Octets) : Act Nat := do
    if targets = [] then misused
    else
      let mut done := false
      for target in targets do
        let one ← sendOne signal target
        done := done || one
      return if done then 0 else 1
  /-- Sends a signal to a target; `false` behind a complaint. -/
  sendOne (signal : Nat) (target : Octets) : Act Bool := do
    let missing (number : Int) : Act Bool := do
      complain (octets s!"({number}) - No such process")
      return false
    match target with
    | [] =>
      let back := String.singleton (Char.ofNat 96)
      complain (octets s!"{back}': not a pid or valid job spec")
      return false
    | '%' :: _ => match ← job target with
      | none => return false
      | some one =>
        let mut done := false
        for process in one.processes do
          if (← world).isAlive process then
            sendTo signal process
            done := true
        return done
    | _ => match signed? target with
      | none =>
        complain (target ++ octets ": arguments must be process or job IDs")
        return false
      | some number => if ← Shell.Builtin.send signal number then return true else missing number

end Workyard.Shell.Extended.Builtin
