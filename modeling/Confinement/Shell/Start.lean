import Confinement.Shell.Directory
import Confinement.Shell.Utility

/-!
How shells come from one another: a part of a shell that runs by itself has all that the shell has,
and a shell that is started as a program has only what programs are given. Either way the one that
goes on afterwards keeps what is its own.
-/

namespace Confinement.Shell

namespace State

/-- The state of a part of the shell that runs by itself. -/
def apart (state : State) : State :=
  { state with
    isSubshell := true
    readLine := 1
    outerTraps := if state.isSubshell then state.outerTraps else state.traps
    traps := ⟨state.traps.entries.filter (·.2.isEmpty)⟩
    jobs := [] }

/-- The state that goes on after something was run from it that left another state behind: time has
passed and files have changed, but nothing that is the shell's own. -/
def after (state ran : State) : State :=
  { state with
    nextProcess := ran.nextProcess
    nextDocument := max state.nextDocument ran.nextDocument
    texts := ran.texts
    nextText := ran.nextText
    received := ran.received
    arrivals := ran.arrivals
    space := { ran.space with
      workingDirectory := state.space.workingDirectory
      mask := state.space.mask }
    elapsed := ran.elapsed
    errors := ran.errors }

/-- Whether a path leads to the current directory. -/
def isHere (space : File.Space) (path : Chars) : Bool :=
  path.head? == some '/' &&
    match space.tree.find true space.workingDirectory (Chars.toBytes path) with
    | .ok node => node == space.workingDirectory
    | .error _ => false

/-- A shell as it begins, started from another with some variables. -/
def started (outer : State) (process : Nat) (name : Chars) (bindings : Variables) : State :=
  let own := [("IFS", " \t\n"), ("OPTIND", "1"),
    ("PATH", "/usr/local/sbin:/usr/local/bin:/usr/sbin:/usr/bin:/sbin:/bin"), ("PS1", "$ "),
    ("PS2", "> "), ("PS4", "+ "), ("PPID", String.ofList (Text.decimal outer.process))]
  let space := outer.space
  let given := (bindings.reverse.find? (·.1 == "PWD".toList)).map (·.2)
  let directory := match given.filter (isHere space) with
    | some directory => directory
    | none => pathOf space.tree space.tree.nodes.size space.workingDirectory []
  let fresh : State := {
    name := name
    process := process
    parent := outer.process
    nextProcess := outer.nextProcess
    bindings := own.map fun entry => (entry.1.toList, { value := some entry.2.toList })
    descriptors := outer.descriptors
    texts := outer.texts
    nextText := outer.nextText
    traps := ⟨outer.traps.entries.filter fun entry => entry.1 != 0 && entry.2.isEmpty⟩
    space := space
    directory := directory
    elapsed := outer.elapsed
    errors := outer.errors
    job := outer.job }
  let exported (value : Chars) : Variable := { value := some value, exported := true }
  let given := bindings.filter fun entry =>
    isName entry.1 && entry.1 != "IFS".toList && entry.1 != "PPID".toList
  let state := given.foldl (fun state entry => state.setVariable entry.1 (exported entry.2)) fresh
  state.setVariable "PWD".toList (exported directory)

/-- Puts back a variable that a function had made its own. -/
def restore (state : State) (entry : Chars × Option Variable) : State :=
  match entry.2 with
  | some found => state.setVariable entry.1 found
  | none => state.removeVariable entry.1

end State

end Confinement.Shell
