import Confinement.Shell.Condition
import Confinement.Shell.State

/-!
What commands do to a shell: they read and write at its descriptors, complain and change its
variables, and they may stop before they have come to their end.
-/

namespace Confinement.Shell

/-- What keeps commands from being run to their end. -/
inductive Stop where
  | exit
  /-- A mistake, which ends a shell unless a command keeps it to itself. -/
  | mistake
  | leave (loops : Nat)
  | next (loops : Nat)
  | return
  | killed (signal : Nat)
  /-- Goes on for ever, or is stopped for good. -/
  | forever
deriving DecidableEq, Repr

abbrev Run := ExceptT Stop (StateM State)

namespace Run

/-- Adds text to where a stream leads, if something can be written there. -/
def emitTo (stream : Stream) (text : Chars) : Run Bool := do
  match stream with
  | .unseen => return true
  | .errors =>
      if !text.isEmpty then
        modify fun state =>
          { state with errors := ⟨state.elapsed, state.job, text⟩ :: state.errors }
      return true
  | .collected number =>
      modify fun state =>
        let before := (state.texts.find? number).getD []
        { state with texts := state.texts.put number (before ++ text) }
      return true
  | .file handle =>
      let state ← get
      match state.space.write handle (Chars.toBytes text) with
      | .ok (_, space) =>
          set { state with space := space }
          return true
      | .error _ => return false
  | .nothing | .given _ => return false

/-- Writes to a descriptor. -/
def emit (descriptor : Nat) (text : Chars) : Run Bool := do
  match (← get).descriptors.find? descriptor with
  | some stream => emitTo stream text
  | none => return text.isEmpty

/-- Writes a complaint. It begins with the name of the shell, the line and the command. -/
def complain (message : Chars) : Run Unit := do
  let state ← get
  let command := match state.command with
    | some command => command ++ ": ".toList
    | none => []
  let text := state.name ++ ": ".toList ++ Text.decimal state.line ++ ": ".toList ++ command ++
    message ++ ['\n']
  discard (emit 2 text)

/-- Complains and gives up. -/
def fail {α : Type} (message : Chars) : Run α := do
  complain message
  modify fun state => { state with status := 2 }
  throw .mistake

def setStatus (status : Nat) : Run Unit :=
  modify fun state => { state with status := status }

/-- Runs something, and catches what keeps it from its end. -/
def attempt {α : Type} (action : Run α) : Run (Except Stop α) :=
  fun state =>
    match action state with
    | (result, state) => (.ok result, state)

/-- Goes on from what was caught. -/
def resume {α : Type} : Except Stop α → Run α
  | .ok value => return value
  | .error stop => throw stop

/-- Does something over and over, each time with what it left the last time. A limit keeps what
would not end from going on. -/
def iterate {α : Type} (step : α → Run (Option α)) : Nat → α → Run α
  | 0, _ => throw .forever
  | limit + 1, value => do
      match ← step value with
      | some value => iterate step limit value
      | none => return value

/-- Runs something and puts the descriptors back to where they led. -/
def keepingDescriptors {α : Type} (action : Run α) : Run α := do
  let before := (← get).descriptors
  let result ← attempt action
  modify fun state => { state with descriptors := before }
  resume result

/-- Runs something whose output is collected. -/
def collecting {α : Type} (action : Run α) : Run (α × Chars) := do
  let before ← get
  let number := before.nextText
  set { before with
    nextText := number + 1
    texts := before.texts.put number []
    descriptors := before.descriptors.put 1 (.collected number) }
  let result ← attempt action
  let after ← get
  set { after with descriptors := before.descriptors, texts := after.texts.erase number }
  return (← resume result, (after.texts.find? number).getD [])

/-- Writes the output of a command. -/
def output (text : Chars) : Run Nat := do
  if ← emit 1 text then return 0
  else
    complain (((← get).command.getD []) ++ ": I/O error".toList)
    return 1

/-- The number that an argument tells. None is negative or takes more than 31 bits. -/
def number (text : Chars) : Run Nat := do
  match Condition.number text with
  | .ok (.ofNat value) => if value < 0x80000000 then return value else illegal
  | _ => illegal
where
  illegal : Run Nat := fail ("Illegal number: ".toList ++ text)

/-- Lets options be read from the argument of a number on. -/
def moveCursor (text : Chars) : Run Unit := do
  let index ← number text
  modify fun state => { state with cursor := { index := max index 1 } }

/-- Gives a variable a value. -/
def assign (name value : Chars) (exported : Bool) : Run Unit := do
  let state ← get
  let before := (state.lookup? name).getD {}
  if before.readOnly then fail (name ++ ": is read only".toList)
  else
    if name == "OPTIND".toList then moveCursor value
    let state ← get
    set (state.setVariable name { before with
      value := some value
      exported := before.exported || exported || state.isSet 'a' })

/-- The text at a descriptor, in place of a file that is read to its end. -/
def textOf (descriptor : Nat) : Run (Option Nat) := do
  let state ← get
  match state.descriptors.find? descriptor with
  | some (.given number) => return some number
  | some (.file handle) =>
      match state.space.read handle with
      | .ok (data, space) =>
          let number := state.nextText
          let turned := state.descriptors.entries.map fun entry =>
            if entry.2 == .file handle then (entry.1, Stream.given number) else entry
          set { state with
            space := space
            nextText := number + 1
            texts := state.texts.put number (Chars.ofBytes data)
            descriptors := ⟨turned⟩ }
          return some number
      | .error _ => return none
  | _ => return none

/-- All that is left to read at a descriptor. -/
def readAll (descriptor : Nat) : Run Chars := do
  match ← textOf descriptor with
  | none => return []
  | some number =>
      let state ← get
      set { state with texts := state.texts.put number [] }
      return (state.texts.find? number).getD []

/-- The next line to read at a descriptor, and whether it has an end. -/
def readLine (descriptor : Nat) : Run (Chars × Bool) := do
  match ← textOf descriptor with
  | none => return ([], false)
  | some number =>
      let state ← get
      let text := (state.texts.find? number).getD []
      let line := text.takeWhile (· != '\n')
      set { state with texts := state.texts.put number (text.drop (line.length + 1)) }
      return (line, line.length < text.length)

end Run

end Confinement.Shell
