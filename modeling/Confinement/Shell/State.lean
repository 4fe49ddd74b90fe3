import Confinement.File.Space
import Confinement.Process.WaitStatus
import Confinement.Shell.Grammar

/-!
What a running shell knows: its variables, where its descriptors lead, the files around it, the time
it has spent and what it has written to the error stream.
-/

namespace Confinement.Shell

structure Variable where
  value : Option Chars := none
  exported : Bool := false
  readOnly : Bool := false
deriving DecidableEq, Repr

/-- Where a descriptor leads. -/
inductive Stream where
  /-- Output that nobody looks at. -/
  | unseen
  | errors
  /-- Input without anything in it. -/
  | nothing
  /-- Text that is collected, by number. -/
  | collected (number : Nat)
  /-- Text that is read, by number. -/
  | given (number : Nat)
  | file (handle : Nat)
deriving DecidableEq, Repr

/-- How a process came to its end, if it did. -/
inductive Ending where
  | exited (status : Nat)
  | killed (signal : Nat)
  | forever
deriving DecidableEq, Repr

namespace Ending

/-- The status by which a shell knows an end. -/
def status : Ending → Nat
  | .exited status => status % 256
  | .killed signal => 128 + signal
  | .forever => 0

end Ending

/-- Commands in the background, which have been run ahead of time. -/
structure Job where
  process : Nat
  ending : Ending
  finish : Nat

/-- A text on the error stream, with its time and the job that wrote it; zero stands for none. -/
structure Remark where
  time : Nat
  job : Nat
  text : Chars

/-- How far a script has read the options of some arguments. -/
structure OptionCursor where
  /-- The number of the argument that comes next. -/
  index : Nat := 1
  /-- How much of the argument before it has been read, if there is more to it. -/
  offset : Option Nat := none
deriving DecidableEq, Repr

structure State where
  /-- What the shell calls itself in complaints. -/
  name : Chars
  /-- The command of its own that the shell is busy with. -/
  command : Option Chars := none
  line : Nat := 0
  /-- The line that the reader of the script has come to. -/
  readLine : Nat := 0
  process : Nat := File.processNumber
  parent : Nat := File.processNumber - 1
  nextProcess : Nat := File.processNumber + 1
  isSubshell : Bool := false
  /-- Variables in the order in which they came to be. -/
  bindings : List (Chars × Variable) := []
  positional : List Chars := []
  cursor : OptionCursor := {}
  functions : Table Chars Command := {}
  documents : List (Nat × Word) := []
  nextDocument : Nat := 0
  descriptors : Table Nat Stream
  texts : Table Nat Chars := {}
  nextText : Nat := 0
  status : Nat := 0
  /-- How a substitution in the current command ended. -/
  substituted : Nat := 0
  /-- Options by their letters. -/
  options : List Char := []
  /-- Actions by signal; zero stands for the end of the shell. -/
  traps : Table Nat Chars := {}
  /-- The actions of the shell that a subshell belongs to. -/
  outerTraps : Table Nat Chars := {}
  received : List Nat := []
  /-- The status from before the action that is running for a signal. -/
  interrupted : Option Nat := none
  /-- Signals that the background sends to the shell, with their times. -/
  arrivals : List (Nat × Nat) := []
  jobs : List Job := []
  background : Option Nat := none
  space : File.Space
  directory : Chars
  elapsed : Nat := 0
  /-- What was written to the error stream, the last first. -/
  errors : List Remark := []
  /-- The job that is being run. -/
  job : Nat := 0
  /-- Variables as they were before a function made them its own, for each running function. -/
  locals : List (List (Chars × Option Variable)) := []
  loops : Nat := 0
  /-- How many functions are running. -/
  calls : Nat := 0

namespace State

def lookup? (state : State) (name : Chars) : Option Variable :=
  state.bindings.lookup name

def value? (state : State) (name : Chars) : Option Chars :=
  (state.lookup? name).bind (·.value)

/-- Changes a variable in its place, or adds one. -/
def setVariable (state : State) (name : Chars) (changed : Variable) : State :=
  let known := state.bindings.any (·.1 == name)
  let others :=
    if known then
      state.bindings.map fun entry => if entry.1 == name then (name, changed) else entry
    else state.bindings ++ [(name, changed)]
  { state with bindings := others }

def removeVariable (state : State) (name : Chars) : State :=
  { state with bindings := state.bindings.filter (·.1 != name) }

/-- The place of a name among the variables that are handed on: they are sorted by a remainder, and
those with the same one stay in the order in which they came. -/
def bucket (name : Chars) : Nat :=
  let first := match name with
    | char :: _ => char.toNat * 16
    | [] => 0
  (name.foldl (fun sum char => sum + char.toNat) first) % 39

/-- The variables that a program started from here is given. -/
def environment (state : State) : List (Chars × Chars) :=
  let exported := state.bindings.filterMap fun entry =>
    if entry.2.exported then entry.2.value.map (entry.1, ·) else none
  exported.mergeSort fun first second => bucket first.1 ≤ bucket second.1

def optionLetters : List Char :=
  "efIimnsxvVECabup".toList

def isSet (state : State) (option : Char) : Bool :=
  state.options.contains option

/-- The value of a parameter that stands for one text. -/
def parameter? (state : State) (name : Chars) : Option Chars :=
  match name with
  | ['?'] => some (Text.decimal state.status)
  | ['$'] => some (Text.decimal state.process)
  | ['#'] => some (Text.decimal state.positional.length)
  | ['!'] => state.background.map Text.decimal
  | ['-'] => some (optionLetters.reverse.filter state.isSet)
  | ['0'] => some state.name
  | _ =>
      if name.all Char.isDigit then
        let number := Text.ofDigits 10 (name.filterMap Text.digitValue?)
        if number = 0 then some state.name else state.positional[number - 1]?
      else state.value? name

/-- What separates the words of a value. -/
def separators (state : State) : Chars :=
  match state.lookup? "IFS".toList with
  | some found => found.value.getD []
  | none => " \t\n".toList

end State

end Confinement.Shell
