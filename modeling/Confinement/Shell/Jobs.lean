import Confinement.Process.Signal
import Confinement.Shell.Options

/-!
Signals and jobs: what a signal does to a shell, what is done to the processes in its background,
and the commands for both.
-/

namespace Confinement.Shell

namespace Run

/-- Says of a process that was waited for that a signal has killed it. -/
def reportDeath : Ending → Run Unit
  | .killed signal =>
      match Signal.descriptions[signal - 1]? with
      | some text =>
          if signal == 2 || signal == Signal.brokenPipe then return ()
          else discard (emit 2 (text.toList ++ ['\n']))
      | none =>
          let number := Text.decimal (signal - Signal.firstRealTime)
          discard (emit 2 ("Real-time signal ".toList ++ number ++ ['\n']))
  | _ => return ()

/-- Lets the signals take effect that other processes have sent by now. -/
def arrive : Run Unit := do
  let state ← get
  if !state.isSubshell then
    match state.arrivals.find? (·.1 ≤ state.elapsed) with
    | some (_, signal) => throw (.killed signal)
    | none => return ()

end Run

namespace Builtin

/-- The name of a signal, or of the end of the shell. A signal without a name has its number. -/
def signalName (signal : Nat) : Chars :=
  if signal = 0 then "EXIT".toList
  else if signal = Signal.firstRealTime then "RTMIN".toList
  else if signal = Signal.last then "RTMAX".toList
  else if 49 < signal then "RTMAX-".toList ++ Text.decimal (Signal.last - signal)
  else if Signal.firstRealTime < signal then
    "RTMIN+".toList ++ Text.decimal (signal - Signal.firstRealTime)
  else
    match signalNames.lookup signal with
    | some name => if signal = Signal.stackFault then ['1', '6'] else name.toList.drop 3
    | none => Text.decimal signal

/-- The signal with a number or a name. -/
def signal? (text : Chars) : Option Nat :=
  if !text.isEmpty && text.all Char.isDigit then
    let number := Text.ofDigits 10 (text.filterMap Text.digitValue?)
    if number ≤ Signal.last then some number else none
  else (List.range (Signal.last + 1)).find? fun signal => signalName signal == text.map Char.toUpper

/-- Lets a signal come to the shell. -/
def deliver (signal : Nat) : Run Unit := do
  let state ← get
  let actions := if state.isSubshell then state.outerTraps else state.traps
  let action? := if signal == 9 || signal == 19 then none else actions.find? signal
  if signal == Signal.brokenPipe then return ()
  else
    match action? with
    | some action =>
        if !action.isEmpty && !state.received.contains signal then
          set { state with received := signal :: state.received }
    | none =>
        match Signal.effect signal with
        | .none => return ()
        | .stop => throw .forever
        | .kill =>
            if state.isSubshell then
              set { state with arrivals := (state.elapsed, signal) :: state.arrivals }
            else throw (.killed signal)

/-- Sends a signal to a process, if there is one of that number. -/
def send (signal process : Nat) : Run Bool := do
  let state ← get
  if process == state.process || process == 0 then
    deliver signal
    return true
  else if process == state.parent then return true
  else
    match state.jobs.find? (·.process == process) with
    | none => return false
    | some job =>
        let runs := job.ending == .forever || state.elapsed < job.finish
        if runs && Signal.effect signal == .kill then
          let killed : Job := ⟨process, .killed signal, state.elapsed⟩
          set { state with
            jobs := state.jobs.map fun other : Job =>
              if other.process == process then killed else other
            errors := state.errors.filter fun remark =>
              remark.job != process || remark.time ≤ state.elapsed }
        return true

def killUsage : String :=
  "Usage: kill [-s sigspec | -signum | -sigspec] [pid | job]... or\nkill -l [exitstatus]"

/-- The job that a name stands for: one by its number, the last one or the one before that. -/
def jobNamed (name : Chars) : Run Job := do
  let jobs := (← get).jobs
  let found (job? : Option Job) (complaint : Chars) : Run Job :=
    match job? with
    | some job => return job
    | none => Run.fail complaint
  let missing := "No such job: ".toList ++ name
  match name with
  | ['%'] | ['%', '%'] | ['%', '+'] => found jobs.getLast? "No current job".toList
  | ['%', '-'] => found jobs.dropLast.getLast? "No previous job".toList
  | '%' :: digits =>
      if digits.all Char.isDigit then
        let number := Text.ofDigits 10 (digits.filterMap Text.digitValue?)
        found (if number = 0 then none else jobs[number - 1]?) missing
      else Run.fail missing
  | _ => Run.fail missing

/-- The signal to be sent by a number or a name. The end of the shell is none. -/
def sendable? (text : Chars) : Option Nat :=
  (signal? text).filter fun signal => signal != 0 || text.all Char.isDigit

/-- Sends a signal to processes and tells whether each of them was there. A job is looked for in a
group of processes of its own, which it does not have. -/
def sendAll (signal : Nat) : List Chars → Run Nat
  | [] => return 0
  | target :: rest => do
      let found ←
        if target.head? == some '%' then
          discard (jobNamed target)
          pure false
        else
          send signal (← Run.number (if target.head? == some '-' then target.tail else target))
      if !found then Run.complain "No such process\n".toList
      let status ← sendAll signal rest
      return if found then status else 1

/-- The names of all signals, or that of one by its number or by the status of a process that it
has killed. -/
def nameSignals : List Chars → Run Nat
  | [] =>
      let names := (List.range Signal.last).map fun before => signalName (before + 1)
      Run.output (['0', '\n'] ++ names.flatMap (· ++ ['\n']))
  | text :: _ => do
      let number ← Run.number text
      let signal := if 128 < number then number - 128 else number
      if signal = 0 || Signal.last < signal then
        Run.fail ("invalid signal number or exit status: ".toList ++ text)
      else Run.output (signalName signal ++ ['\n'])

def kill (arguments : List Chars) : Run Nat := do
  match arguments with
  | ('-' :: name) :: targets =>
      match sendable? name with
      | some signal => signalAll signal targets
      | none =>
          let reading ← Run.optionsOf "l" "s" arguments
          let named? ← match reading.values with
            | (_, name) :: _ =>
                match sendable? name with
                | some signal => pure (some signal)
                | none => Run.fail ("invalid signal number or name: ".toList ++ name)
            | [] => pure none
          if !reading.letters.contains 'l' then signalAll (named?.getD 15) reading.arguments
          else if named?.isSome && !reading.arguments.isEmpty then Run.fail killUsage.toList
          else nameSignals reading.arguments
  | targets => signalAll 15 targets
where
  signalAll (signal : Nat) (targets : List Chars) : Run Nat :=
    if targets.isEmpty then Run.fail killUsage.toList else sendAll signal targets

/-- The actions for signals, as commands that would set them. -/
def showActions : Run Nat := do
  let actions := (← get).traps.entries.mergeSort fun first second => first.1 ≤ second.1
  Run.output <| actions.flatMap fun (signal, action) =>
    "trap -- ".toList ++ quoted action ++ ' ' :: signalName signal ++ ['\n']

/-- Sets actions for signals, or shows them. -/
def trap (arguments : List Chars) : Run Nat := do
  match (← Run.optionsOf "" "" arguments).arguments with
  | [] => showActions
  | [name] => setAll none [name]
  | first :: rest =>
      if first.all Char.isDigit && (signal? first).isSome then setAll none (first :: rest)
      else setAll (if first == ['-'] then none else some first) rest
where
  setAll (action : Option Chars) : List Chars → Run Nat
    | [] => return 0
    | name :: rest => do
        match signal? name with
        | none =>
            discard (Run.emit 2 ("trap: ".toList ++ name ++ ": bad trap\n".toList))
            return 1
        | some signal =>
            modify fun state => { state with
              traps := match action with
                | some action => state.traps.put signal action
                | none => state.traps.erase signal }
            setAll action rest

/-- Waits for a job to end. -/
def await (job : Job) : Run Unit := do
  if job.ending == .forever then throw .forever
  else
    modify fun state => { state with elapsed := max state.elapsed job.finish }
    Run.arrive

def wait (arguments : List Chars) : Run Nat := do
  match (← Run.optionsOf "" "" arguments).arguments with
  | [] =>
      for job in (← get).jobs do
        await job
      return 0
  | processes =>
      let mut status := 0
      for process in processes do
        let job? ←
          if process.head? == some '%' then pure (some (← jobNamed process))
          else
            let process ← Run.number process
            pure ((← get).jobs.find? (·.process == process))
        match job? with
        | none => status := 127
        | some job =>
            await job
            Run.reportDeath job.ending
            status := job.ending.status
      return status

/-- Tells of jobs, if they are there. -/
def showJobs (arguments : List Chars) : Run Nat := do
  for name in (← Run.optionsOf "lp" "" arguments).arguments do
    discard (jobNamed name)
  return 0

/-- Would take a job up again. None can be, because a job is under the control of a shell only if
somebody talks to it. -/
def takeUp (arguments : List Chars) : Run Nat := do
  let name? := (← Run.optionsOf "" "" arguments).arguments.head?
  discard (jobNamed (name?.getD ['%']))
  let name := name?.getD "(null)".toList
  Run.fail ("job ".toList ++ name ++ " not created under job control".toList)

end Builtin

end Confinement.Shell
