import Confinement.Harness.Config
import Confinement.Process.Program
import Confinement.Process.WaitStatus
import Confinement.Text.Quoted

/-!
Named procs and what their exit is expected to show. A proc that is registered again under its name
takes the place of the one before. A proc that returns, which none should, counts as the opposite of
what it was to prove.
-/

namespace Confinement.Harness

inductive Expectation where
  | success
  | failure
deriving DecidableEq, Repr

namespace Expectation

def isMetBy (expectation : Expectation) (status : WaitStatus) : Bool :=
  status.isSuccess == (expectation == .success)

/-- The exit code of a body that returned. -/
def fallthroughCode : Expectation → Nat
  | .success => 1
  | .failure => 0

def text : Expectation → String
  | .success => "succeed"
  | .failure => "fail"

theorem isMetBy_fallthrough (expectation : Expectation) :
    expectation.isMetBy (.exited expectation.fallthroughCode) = false := by
  cases expectation <;> decide

end Expectation

structure Proc (β : Type) where
  body : β
  expectation : Expectation
deriving DecidableEq, Repr

/-- Procs by name under one configuration. -/
structure Registry (β : Type) where
  config : Config := {}
  procs : Table String (Proc β) := {}

/-- No proc has this name. -/
structure UnknownProc where
  name : String
deriving DecidableEq, Repr

def UnknownProc.message (error : UnknownProc) : String :=
  "unknown test proc " ++ Text.quote error.name

namespace Registry

variable {β : Type}

def find? (registry : Registry β) (name : String) : Option (Proc β) :=
  registry.procs.find? name

def register (registry : Registry β) (name : String) (proc : Proc β) : Registry β :=
  { registry with procs := registry.procs.put name proc }

/-- Registers a proc that proves its case by exiting with zero. -/
def succeeds (registry : Registry β) (name : String) (body : β) : Registry β :=
  registry.register name ⟨body, .success⟩

/-- Registers a proc that proves its case by any other end. -/
def fails (registry : Registry β) (name : String) (body : β) : Registry β :=
  registry.register name ⟨body, .failure⟩

theorem find?_register_self (registry : Registry β) (name : String) (proc : Proc β) :
    (registry.register name proc).find? name = some proc :=
  registry.procs.find?_put_self name proc

theorem find?_register_ne (registry : Registry β) {name other : String} (proc : Proc β)
    (different : other ≠ name) :
    (registry.register name proc).find? other = registry.find? other :=
  registry.procs.find?_put_ne proc different

end Registry

/-- A program to launch: its arguments and the variables it gets beside the inherited ones, in the
order of their keys. -/
structure Command where
  arguments : List Bytes
  assignments : List (Bytes × Bytes) := []
  /-- Whether some argument could not be taken over as it was. -/
  spoiled : Bool := false
deriving DecidableEq, Repr

namespace Command

/-- What a command shows in place of an argument that has NUL in it. -/
def withheld : Bytes :=
  utf8 "<string-with-nul>"

/-- A command with arguments and no variables of its own. -/
def ofArguments (arguments : List Bytes) : Command where
  arguments := arguments.map fun argument => if argument.contains 0 then withheld else argument
  spoiled := arguments.any (·.contains 0)

def setVariable (command : Command) (key value : Bytes) : Command :=
  { command with assignments := Environment.insertVariable key value command.assignments }

/-- Strings with NUL in them cannot be handed to a new process. -/
def hasNul (command : Command) : Bool :=
  command.spoiled ||
    command.assignments.any fun entry => entry.1.contains 0 || entry.2.contains 0

def isTooLong (command : Command) : Bool :=
  Program.areTooLong (command.arguments.map (·.length) ++
    command.assignments.map fun entry => entry.1.length + 1 + entry.2.length)

end Command

/-- The command that runs a registered proc in a child, launched from a thread. -/
def Registry.command {β : Type} (registry : Registry β) (thread : Option String) (name : String)
    (argument : Bytes) : Except UnknownProc Command :=
  match registry.find? name with
  | none => .error ⟨name⟩
  | some _ =>
      let config := registry.config
      .ok ((Command.ofArguments (config.childArguments thread)
        |>.setVariable (utf8 config.procVariable) (utf8 name))
        |>.setVariable (utf8 config.argumentVariable) argument)

end Confinement.Harness
