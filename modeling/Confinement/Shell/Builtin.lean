import Confinement.File.Mode
import Confinement.Shell.Directory
import Confinement.Shell.Format
import Confinement.Shell.Jobs
import Confinement.Shell.Lookup

/-!
Commands that a shell runs by itself, as far as they run no other commands. Each is given its
arguments and leaves a status.
-/

namespace Confinement.Shell

namespace Builtin

def echo (arguments : List Chars) : Run Nat :=
  Run.output (Format.echo arguments)

def printf (arguments : List Chars) : Run Nat := do
  match (← Run.optionsOf "" "" arguments).arguments with
  | [] => Run.fail "usage: printf format [arg ...]".toList
  | format :: arguments =>
      let result := Format.apply format arguments
      for complaint in result.complaints do
        Run.complain complaint.toList
      let written ← Run.output result.output
      return if result.failed then 2 else if result.complaints.isEmpty then written else 1

/-- Judges a condition. -/
def test (words : List Chars) : Run Nat := do
  match Condition.judge (← get).space (words.length + 2) false words with
  | .ok true => return 0
  | .ok false => return 1
  | .error reason => Run.fail reason.toList

def bracket (words : List Chars) : Run Nat :=
  match words.getLast? with
  | some (']' :: _) => test words.dropLast
  | _ => Run.fail "missing ]".toList

/-- Variables of which something holds, as commands that would set them. -/
def listing (command : String) (shown : Variable → Bool) : Run Nat := do
  let chosen := ((← get).bindings.filter (shown ·.2)).mergeSort fun first second =>
    !decide (second.1 < first.1)
  Run.output <| chosen.flatMap fun (name, entry) =>
    command.toList ++ name ++
      (match entry.value with
        | some value => '=' :: quoted value
        | none => []) ++ ['\n']

def changeSettings (arguments : List Chars) : Run Nat := do
  if arguments.isEmpty then listing "" (·.value.isSome)
  else
    let state ← get
    let settings : Settings := { options := state.options, arguments := arguments }
    match settings.read false (arguments.length + 1) with
    | .error reason => Run.fail reason
    | .ok settings =>
        set { state with options := settings.options }
        if settings.hasParameters then
          modify fun state => { state with positional := settings.arguments, cursor := {} }
        match settings.listing with
        | some plain => Run.output (Settings.list settings.options plain)
        | none => return 0

def shift (arguments : List Chars) : Run Nat := do
  let count ← match arguments with
    | [] => pure 1
    | count :: _ => Run.number count
  let state ← get
  if state.positional.length < count then Run.fail "can't shift that many".toList
  else
    set { state with positional := state.positional.drop count, cursor := {} }
    return 0

/-- The name of a variable, which an argument begins with. -/
def checkedName (argument : Chars) : Run Chars :=
  let name := argument.takeWhile (· != '=')
  if isName name then return name else Run.fail (name ++ ": bad variable name".toList)

def unset (arguments : List Chars) : Run Nat := do
  let reading ← Run.optionsOf "vf" "" arguments
  for argument in reading.arguments do
    if reading.letters.getLast? == some 'f' then
      modify fun state => { state with functions := state.functions.erase argument }
    else
      let name ← checkedName argument
      if name == "OPTIND".toList then Run.moveCursor []
      match (← get).lookup? name with
      | some found =>
          if found.readOnly then Run.fail (name ++ ": is read only".toList)
          else modify fun state => state.removeVariable name
      | none => pure ()
  return 0

/-- The name and the value of an argument that gives a variable one. -/
def splitAssignment (argument : Chars) : Chars × Option Chars :=
  match argument.span (· != '=') with
  | (name, '=' :: value) => (name, some value)
  | (name, _) => (name, none)

/-- Gives variables a mark and, where there is one, a value. -/
def declare (command : String) (marked : Variable → Bool) (mark : Variable → Variable)
    (arguments : List Chars) : Run Nat := do
  let reading ← Run.optionsOf "p" "" arguments
  if reading.arguments.isEmpty || !reading.letters.isEmpty then listing command marked
  else
    for argument in reading.arguments do
      let (name, value) := splitAssignment argument
      discard (checkedName argument)
      match value with
      | some value => Run.assign name value false
      | none => pure ()
      modify fun state => state.setVariable name (mark ((state.lookup? name).getD {}))
    return 0

/-- Remembers a variable until the running function is over. -/
def remember (name : Chars) : Run Unit :=
  modify fun state =>
    match state.locals with
    | [] => state
    | found :: outer =>
        { state with locals := ((name, state.lookup? name) :: found) :: outer }

/-- Complains about names that do not stand for other words, which no names do. -/
def unknownNames (command : String) (names : List Chars) : Run Nat := do
  for name in names do
    discard (Run.emit 2 (command.toList ++ ": ".toList ++ name ++ " not found\n".toList))
  return if names.isEmpty then 0 else 1

/-- Shows names that stand for other words. The shell keeps none. -/
def showNames (arguments : List Chars) : Run Nat :=
  unknownNames "alias" (arguments.filter fun argument => !argument.tail.contains '=')

def dropNames (arguments : List Chars) : Run Nat := do
  let reading ← Run.optionsOf "a" "" arguments
  if reading.letters.isEmpty then unknownNames "unalias" reading.arguments else return 0

def makeLocal (arguments : List Chars) : Run Nat := do
  if (← get).locals.isEmpty then Run.fail "not in a function".toList
  else
    for argument in arguments do
      let (name, value) := splitAssignment argument
      if argument != ['-'] then
        if value.isNone then discard (checkedName name)
        remember name
        match value with
        | some value => Run.assign name value false
        | none => pure ()
    return 0

/-- A line without its backslashes, of which each character is told whether it may separate. -/
def unescaped : Chars → List (Char × Bool)
  | '\\' :: char :: rest => (char, false) :: unescaped rest
  | ['\\'] => []
  | char :: rest => (char, true) :: unescaped rest
  | [] => []

/-- The parts of a line for so many variables. The last part is all that is left. -/
def lineParts (separators : Chars) : Nat → List (Char × Bool) → List Chars
  | 0, _ => []
  | count + 1, line =>
      let isBlank (entry : Char × Bool) :=
        entry.2 && Shell.isBlank entry.1 && separators.contains entry.1
      let separates (entry : Char × Bool) := entry.2 && separators.contains entry.1
      let line := line.dropWhile isBlank
      let part := line.takeWhile (!separates ·)
      let after := (line.drop part.length).dropWhile isBlank
      let skipped := match after with
        | entry :: rest => if separates entry then rest.dropWhile isBlank else after
        | [] => []
      let found :=
        if count == 0 && !skipped.isEmpty then
          (line.reverse.dropWhile isBlank).reverse
        else part
      found.map (·.1) :: lineParts separators count skipped

/-- The next line of input, with the lines that a backslash adds to it. -/
def inputLine (raw : Bool) : Nat → Run (List (Char × Bool) × Bool)
  | 0 => return ([], false)
  | fuel + 1 => do
      let (line, ended) ← Run.readLine 0
      if raw then return (line.map (·, true), ended)
      else
        let slashes := (line.reverse.takeWhile (· == '\\')).length
        if ended && slashes % 2 == 1 then
          let (rest, ended) ← inputLine raw fuel
          return (unescaped line.dropLast ++ rest, ended)
        else return (unescaped line, ended)

def read (arguments : List Chars) : Run Nat := do
  let reading ← Run.optionsOf "r" "p" arguments
  let names := reading.arguments
  if names.isEmpty then Run.fail "arg count".toList
  else
    let (line, ended) ← inputLine (reading.letters.contains 'r') 1000
    let parts := lineParts (← get).separators names.length line
    for (name, part) in names.zip parts do
      Run.assign (← checkedName name) part false
    return if ended then 0 else 1

/-- Shows or changes the permissions that new files are not given. They are told as they are, or in
words as those that new files are given. -/
def mask (arguments : List Chars) : Run Nat := do
  let reading ← Run.optionsOf "S" "" arguments
  let state ← get
  let given := File.Mode.without File.Mode.all state.space.mask
  let change (mask : Nat) : Run Nat := do
    set { state with space := { state.space with mask := mask &&& File.Mode.all } }
    return 0
  match reading.arguments with
  | [] =>
      if reading.letters.isEmpty then
        let digits := Nat.toDigits 8 state.space.mask
        Run.output (List.replicate (4 - digits.length) '0' ++ digits ++ ['\n'])
      else Run.output (File.Mode.inWords given ++ ['\n'])
  | mode :: _ =>
      if mode.head?.any Char.isDigit then
        if mode.all Format.isOctal then
          change (Text.ofDigits 8 (mode.filterMap Text.digitValue?))
        else Run.fail ("Illegal number: ".toList ++ mode)
      else
        match File.Mode.change? given mode with
        | some mode => change (File.Mode.without File.Mode.all mode)
        | none => Run.fail ("Illegal mode: ".toList ++ mode)

/-- Looks for programs by their names. -/
def findPrograms (names : List Chars) : Run Nat := do
  let mut status := 0
  for name in names do
    let state ← get
    let known := name.contains '/' || isBuiltin name || (state.functions.find? name).isSome
    if !known then
      match Executable.ofName state.space state.path name with
      | .ok _ => pure ()
      | .error refusal =>
          Run.complain (name ++ ": ".toList ++ refusal.reason.toList)
          status := 1
  return status

def hash (arguments : List Chars) : Run Nat := do
  let reading ← Run.optionsOf "r" "" arguments
  if reading.letters.isEmpty then findPrograms reading.arguments else return 0

/-- Reads the next option of some arguments, or of the positional parameters, and tells whether
there was one. -/
def getOption (arguments : List Chars) : Run Nat := do
  match arguments with
  | known :: name :: rest =>
      let state ← get
      let arguments := if rest.isEmpty then state.positional else rest
      let fresh := arguments.length + 1 < state.cursor.index
      let step := (if fresh then {} else state.cursor).next known arguments
      match step.value with
      | .kept => pure ()
      | .gone => modify fun state => state.removeVariable "OPTARG".toList
      | .given value => Run.assign "OPTARG".toList value false
      match step.complaint with
      | some complaint => discard (Run.emit 2 (complaint ++ ['\n']))
      | none => pure ()
      Run.assign "OPTIND".toList (Text.decimal step.cursor.index) false
      modify fun state => { state with cursor := step.cursor }
      Run.assign (← checkedName name) [step.letter] false
      return if step.found then 0 else 1
  | _ => Run.fail "Usage: getopts optstring var [arg...]".toList

/-- Would show or change a limit. No limit is ever reached, and the size of files has none. -/
def limit (arguments : List Chars) : Run Nat := do
  let reading ← Run.optionsOf "HSatfdscmlpnvwr" "" arguments
  match reading.arguments with
  | [] =>
      if reading.letters.all ("HSf".toList.contains ·) then Run.output "unlimited\n".toList
      else return 0
  | [value] =>
      if value == "unlimited".toList || value.all Char.isDigit then return 0
      else Run.fail "bad number".toList
  | _ => Run.fail "too many arguments".toList

/-- Tells what names stand for. -/
def type (names : List Chars) : Run Nat := do
  let mut status := 0
  for name in names do
    match (← get).description? name with
    | some (_, text) => discard (Run.output (name ++ text ++ ['\n']))
    | none =>
        discard (Run.output (name ++ ": not found\n".toList))
        status := 127
  return status

/-- Describes a name, as it is told on request. -/
def describe (arguments : List Chars) : Run Nat := do
  let reading ← Run.optionsOf "pvV" "" arguments
  let long := reading.letters.contains 'V'
  match reading.arguments with
  | [] => return 0
  | name :: _ =>
      match (← get).description? name with
      | some (short, text) => Run.output ((if long then name ++ text else short) ++ ['\n'])
      | none =>
          if long then discard (Run.output (name ++ ": not found\n".toList))
          return 127

def exit (arguments : List Chars) : Run Nat := do
  match arguments with
  | [] =>
      match (← get).interrupted with
      | some status => Run.setStatus status
      | none => pure ()
  | status :: _ => Run.setStatus (← Run.number status)
  throw .exit

def leaveFunction (arguments : List Chars) : Run Nat := do
  match arguments with
  | [] => pure ()
  | status :: _ => Run.setStatus (← Run.number status)
  throw .return

/-- Leaves loops, or goes on with the next round of one. -/
def skip (stop : Nat → Stop) (arguments : List Chars) : Run Nat := do
  let count ← match arguments with
    | [] => pure 1
    | count :: _ => do
        let number ← Run.number count
        if number == 0 then Run.fail ("Illegal number: ".toList ++ count) else pure number
  let loops := (← get).loops
  Run.setStatus 0
  if loops == 0 then return 0 else throw (stop (min count loops))

/-- The commands that run no others, by name. -/
def ofName? (name : Chars) : Option (List Chars → Run Nat) :=
  match String.ofList name with
  | ":" | "true" | "times" => some fun _ => return 0
  | "false" => some fun _ => return 1
  | "alias" => some showNames
  | "unalias" => some dropNames
  | "getopts" => some getOption
  | "hash" => some hash
  | "ulimit" => some limit
  | "jobs" => some showJobs
  | "bg" | "fg" => some takeUp
  | "echo" => some echo
  | "printf" => some printf
  | "test" => some test
  | "[" => some bracket
  | "cd" | "chdir" => some changeDirectory
  | "pwd" => some workingDirectory
  | "set" => some changeSettings
  | "shift" => some shift
  | "unset" => some unset
  | "export" => some (declare "export " (·.exported) ({ · with exported := true }))
  | "readonly" => some (declare "readonly " (·.readOnly) ({ · with readOnly := true }))
  | "local" => some makeLocal
  | "read" => some read
  | "kill" => some kill
  | "trap" => some trap
  | "wait" => some wait
  | "umask" => some mask
  | "type" => some type
  | "command" => some describe
  | "exit" => some exit
  | "return" => some leaveFunction
  | "break" => some (skip .leave)
  | "continue" => some (skip .next)
  | _ => none

end Builtin

end Confinement.Shell
