import Confinement.Text.Digits

/-!
Wait statuses: how a process ended, or stopped, packed into one word. An exit has zero in its seven
low bits and the code above them; a signal stands in those bits, with one more for a core dump.
-/

namespace Confinement

structure WaitStatus where
  raw : BitVec 32
deriving DecidableEq, Repr, Inhabited

/-- Names of the signals that have one. -/
def signalNames : List (Nat × String) :=
  [(1, "SIGHUP"), (2, "SIGINT"), (3, "SIGQUIT"), (4, "SIGILL"), (5, "SIGTRAP"), (6, "SIGABRT"),
    (7, "SIGBUS"), (8, "SIGFPE"), (9, "SIGKILL"), (10, "SIGUSR1"), (11, "SIGSEGV"),
    (12, "SIGUSR2"), (13, "SIGPIPE"), (14, "SIGALRM"), (15, "SIGTERM"), (16, "SIGSTKFLT"),
    (17, "SIGCHLD"), (18, "SIGCONT"), (19, "SIGSTOP"), (20, "SIGTSTP"), (21, "SIGTTIN"),
    (22, "SIGTTOU"), (23, "SIGURG"), (24, "SIGXCPU"), (25, "SIGXFSZ"), (26, "SIGVTALRM"),
    (27, "SIGPROF"), (28, "SIGWINCH"), (29, "SIGIO"), (30, "SIGPWR"), (31, "SIGSYS")]

namespace WaitStatus

/-- An exit; of the code only the low eight bits are kept. -/
def exited (code : Int) : WaitStatus :=
  ⟨BitVec.ofInt 32 (code % 256) <<< 8⟩

def killedBy (signal : Nat) : WaitStatus :=
  ⟨BitVec.ofNat 32 signal &&& 0x7f⟩

def lowBits (status : WaitStatus) : Nat :=
  (status.raw &&& 0x7f).toNat

def highByte (status : WaitStatus) : Nat :=
  (status.raw >>> 8 &&& 0xff).toNat

def exitCode? (status : WaitStatus) : Option Nat :=
  if status.lowBits = 0 then some status.highByte else none

def signal? (status : WaitStatus) : Option Nat :=
  if 0 < status.lowBits ∧ status.lowBits < 0x7f then some status.lowBits else none

def dumpedCore (status : WaitStatus) : Bool :=
  status.raw &&& 0x80 != 0

def stopSignal? (status : WaitStatus) : Option Nat :=
  if status.raw &&& 0xff = 0x7f then some status.highByte else none

def isContinued (status : WaitStatus) : Bool :=
  status.raw == 0xffff

/-- Only the status of an exit with code zero, no other bit set, is a success. -/
def isSuccess (status : WaitStatus) : Bool :=
  status.raw == 0

private def signalText (signal : Nat) : String :=
  String.ofList (Text.decimal signal) ++
    match signalNames.lookup signal with
    | some name => " (" ++ name ++ ")"
    | none => ""

def text (status : WaitStatus) : String :=
  match status.exitCode?, status.signal?, status.stopSignal? with
  | some code, _, _ => "exit status: " ++ String.ofList (Text.decimal code)
  | none, some signal, _ =>
      "signal: " ++ signalText signal ++ if status.dumpedCore then " (core dumped)" else ""
  | none, none, some signal => "stopped (not terminated) by signal: " ++ signalText signal
  | none, none, none =>
      if status.isContinued then "continued (WIFCONTINUED)"
      else
        "unrecognised wait status: " ++ String.ofList (Text.signedDecimal status.raw.toInt) ++
          " 0x" ++ String.ofList (Text.hexadecimal status.raw.toNat)

end WaitStatus

end Confinement
