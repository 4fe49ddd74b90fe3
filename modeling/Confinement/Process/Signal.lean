/-!
Signals: what one does to a process that has made no provisions for it, and how its death by it is
described.
-/

namespace Confinement.Signal

inductive Effect where
  | none
  | stop
  | kill
deriving DecidableEq, Repr

/-- The largest number of a signal. -/
def last : Nat := 64

def brokenPipe : Nat := 13
def stackFault : Nat := 16
def childEnded : Nat := 17

/-- The first of the signals that have no names of their own and are told by their distance from
it. -/
def firstRealTime : Nat := 34

/-- Signals that have no effect unless a process asks for them. -/
def unheeded : List Nat := [17, 18, 23, 28]

/-- Signals that stop a process where it is. -/
def stopping : List Nat := [19, 20, 21, 22]

def effect (signal : Nat) : Effect :=
  if signal = 0 || last < signal || unheeded.contains signal then .none
  else if stopping.contains signal then .stop
  else .kill

/-- What is said of a process that a signal has killed. -/
def descriptions : List String :=
  ["Hangup", "Interrupt", "Quit", "Illegal instruction", "Trace/breakpoint trap", "Aborted",
    "Bus error", "Floating point exception", "Killed", "User defined signal 1",
    "Segmentation fault", "User defined signal 2", "Broken pipe", "Alarm clock", "Terminated",
    "Stack fault", "Child exited", "Continued", "Stopped (signal)", "Stopped",
    "Stopped (tty input)", "Stopped (tty output)", "Urgent I/O condition",
    "CPU time limit exceeded", "File size limit exceeded", "Virtual timer expired",
    "Profiling timer expired", "Window changed", "I/O possible", "Power failure",
    "Bad system call"]

end Confinement.Signal
