import Confinement.Shell.Expansion
import Confinement.Shell.Format
import Confinement.Shell.Lookup

/-!
The programs beside the shell. Each has its arguments, the first of which is the name it was called
by, and its variables; it writes to the descriptors that it was given.
-/

namespace Confinement.Shell

/-- Variables as a program is given them. -/
abbrev Variables := List (Chars × Chars)

/-- What a program comes to: an end, or another program that takes its place. -/
inductive Performance where
  | ended (ending : Ending)
  | replaced (executable : Executable) (arguments : List Chars) (bindings : Variables)

namespace Utility

def exit (status : Nat) : Run Performance :=
  return .ended (.exited status)

/-- Complains in the name of a program. -/
def complain (name : Chars) (message : Chars) : Run Unit :=
  discard (Run.emit 2 (name ++ ": ".toList ++ message ++ ['\n']))

/-- Complains about how a program was called. -/
def misuse (name : Chars) (message : Chars) (status : Nat) : Run Performance := do
  complain name message
  discard (Run.emit 2 ("Try '".toList ++ name ++ " --help' for more information.\n".toList))
  exit status

/-- Why an argument is not an option that a program knows. -/
def invalidOption? (known : String) : Chars → Option Chars
  | '-' :: '-' :: [] => none
  | '-' :: '-' :: name => some ("unrecognized option '--".toList ++ name ++ ['\x27'])
  | '-' :: letters =>
      (letters.find? fun letter => !known.toList.contains letter).map fun letter =>
        "invalid option -- '".toList ++ [letter, '\x27']
  | _ => none

/-- A path as a program mentions it: between quotes if a shell would read more into it. -/
def mentioned (path : Chars) : Chars :=
  let isPlain (char : Char) := char.isAlphanum || "%+,-./:=@_^".toList.contains char
  if !path.isEmpty && path.all isPlain then path else '\x27' :: path ++ ['\x27']

def isOption (argument : Chars) : Bool :=
  argument.head? == some '-' && argument != ['-']

def write (text : Chars) : Run Performance := do
  exit (if ← Run.emit 1 text then 0 else 1)

/-- Writes words, with their escapes replaced if that is asked for. -/
def echo (arguments : List Chars) : Run Performance :=
  let isFlag (argument : Chars) :=
    argument.length > 1 && argument.head? == some '-' && argument.tail.all ("neE".toList.contains ·)
  let flags := (arguments.takeWhile isFlag).flatMap (·.tail)
  let words := arguments.dropWhile isFlag
  let escapes := flags.reverse.find? (· != 'n') == some 'e'
  let (text, ends) :=
    if escapes then Format.echoed words else (Expansion.joined [' '] words, false)
  write (if flags.contains 'n' || ends then text else text ++ ['\n'])

/-- Copies one file to the output. -/
def copyFile (name path : Chars) : Run Bool := do
  let state ← get
  let failure? := match state.descriptors.find? 0 with
    | some (.file handle) => match state.space.read handle with
      | .error errno => some errno
      | .ok _ => none
    | _ => none
  if path == ['-'] then
    match failure? with
    | none => Run.emit 1 (← Run.readAll 0)
    | some errno =>
        complain name ("-: ".toList ++ errno.text.toList)
        return false
  else
    let read := do
      let (handle, space) ← state.space.openAt .workingDirectory (Chars.toBytes path) {} 0
      space.read handle
    match read with
    | .ok (data, _) => Run.emit 1 (Chars.ofBytes data)
    | .error errno =>
        complain name (mentioned path ++ ": ".toList ++ errno.text.toList)
        return false

def copy (name : Chars) (arguments : List Chars) : Run Performance := do
  let dashes := "--".toList
  let options := arguments.takeWhile (· != dashes)
  match options.findSome? (invalidOption? "AbeEnstTuv") with
  | some reason => misuse name reason 1
  | none =>
      let files := options.filter (!isOption ·) ++ arguments.drop (options.length + 1)
      let mut fine := true
      for file in if files.isEmpty then [['-']] else files do
        fine := (← copyFile name file) && fine
      exit (if fine then 0 else 1)

/-- How many milliseconds a time lasts: a number with a unit, or for ever. -/
def milliseconds? (text : Chars) : Option (Option Nat) :=
  let whole := text.takeWhile Char.isDigit
  let rest := text.drop whole.length
  let fraction := if rest.head? == some '.' then rest.tail.takeWhile Char.isDigit else []
  let unit := if rest.head? == some '.' then rest.tail.drop fraction.length else rest
  let scale? := match unit with
    | [] | ['s'] => some 1
    | ['m'] => some 60
    | ['h'] => some 3600
    | ['d'] => some 86400
    | _ => none
  if text == "inf".toList || text == "infinity".toList then some none
  else if whole.isEmpty && fraction.isEmpty then none
  else
    scale?.map fun scale =>
      let divisor := Nat.pow 10 fraction.length
      let value := Text.ofDigits 10 ((whole ++ fraction).filterMap Text.digitValue?)
      some ((value * scale * 1000 + divisor - 1) / divisor)

def sleep (name : Chars) (arguments : List Chars) : Run Performance := do
  match arguments.findSome? (invalidOption? "") with
  | some reason => misuse name reason 1
  | none =>
      let times := arguments.filter (· != "--".toList)
      let invalid := times.filter fun time => (milliseconds? time).isNone
      if times.isEmpty then misuse name "missing operand".toList 1
      else if !invalid.isEmpty then
        for time in invalid do
          complain name ("invalid time interval '".toList ++ time ++ ['\x27'])
        discard (Run.emit 2 ("Try '".toList ++ name ++ " --help' for more information.\n".toList))
        exit 1
      else
        let lengths := times.filterMap milliseconds?
        if lengths.contains none then return .ended .forever
        else
          modify fun state =>
            { state with elapsed := (lengths.filterMap id).foldl (· + ·) state.elapsed }
          exit 0

def listing (bindings : Variables) : Chars :=
  bindings.flatMap fun entry => entry.1 ++ '=' :: entry.2 ++ ['\n']

/-- Gives a variable a value among others. -/
def withVariable (bindings : Variables) (name value : Chars) : Variables :=
  if bindings.any (·.1 == name) then
    bindings.map fun entry => if entry.1 == name then (name, value) else entry
  else bindings ++ [(name, value)]

/-- Runs a program with other variables, or shows what they would be. -/
def environment (name : Chars) : Nat → List Chars → Variables → Run Performance
  | 0, _, _ => exit 125
  | fuel + 1, arguments, bindings => do
      match arguments with
      | ['-', 'i'] :: rest | ['-'] :: rest => environment name fuel rest []
      | ['-', 'u'] :: removed :: rest =>
          environment name fuel rest (bindings.filter (·.1 != removed))
      | ['-', '-'] :: rest => start rest bindings
      | first :: rest =>
          match invalidOption? "" first with
          | some reason => misuse name reason 125
          | none => start (first :: rest) bindings
      | [] => start [] bindings
where
  start (arguments : List Chars) (bindings : Variables) : Run Performance := do
    let assignments := arguments.takeWhile (·.contains '=')
    let bindings := assignments.foldl (fun bindings assignment =>
      let value := assignment.dropWhile (· != '=')
      withVariable bindings (assignment.takeWhile (· != '=')) value.tail) bindings
    match arguments.drop assignments.length with
    | [] => write (listing bindings)
    | program :: arguments =>
        let path := (bindings.lookup "PATH".toList).getD "/bin:/usr/bin".toList
        match Executable.ofName (← get).space path program with
        | .ok executable => return .replaced executable (program :: arguments) bindings
        | .error refusal =>
            complain name ('\x27' :: program ++ "': ".toList ++ refusal.errno.text.toList)
            exit (if refusal.errno == .noEntry then 127 else 126)

/-- Writes the values of variables. -/
def showVariables (names : List Chars) (bindings : Variables) : Run Performance := do
  if names.isEmpty then write (listing bindings)
  else
    let values := names.map fun name => bindings.lookup name
    discard (Run.emit 1 (values.flatMap fun value =>
      match value with
      | some value => value ++ ['\n']
      | none => []))
    exit (if values.all (·.isSome) then 0 else 1)

/-- The complaint of a program about a condition that cannot be judged. -/
def conditionComplaint (reason : Chars) : Chars :=
  let illegal := "Illegal number: ".toList
  if illegal.isPrefixOf reason then
    "invalid integer '".toList ++ reason.drop illegal.length ++ ['\x27']
  else reason

def condition (bracketed : Bool) (name : Chars) (words : List Chars) : Run Performance := do
  if bracketed && words.getLast? != some [']'] then
    complain name "missing ']'".toList
    exit 2
  else
    let words := if bracketed then words.dropLast else words
    match Condition.judge (← get).space (words.length + 2) false words with
    | .ok holds => exit (if holds then 0 else 1)
    | .error reason =>
        complain name (conditionComplaint reason.toList)
        exit 2

/-- The names in a directory that do not begin with a dot. -/
def namesIn (entries : Table Bytes Nat) : List Chars :=
  let names := entries.entries.map fun entry => Chars.ofBytes entry.1
  (names.filter (·.head? != some '.')).mergeSort fun first second => !decide (second < first)

/-- Names a file, or what is in a directory, and tells whether it could. -/
def listFile (name path : Chars) : Run Bool := do
  let space := (← get).space
  match space.tree.find true space.workingDirectory (Chars.toBytes path) with
  | .error errno =>
      complain name ("cannot access '".toList ++ path ++ "': ".toList ++ errno.text.toList)
      return false
  | .ok node =>
      match space.tree.content? node with
      | some (.directory _ entries) =>
          if space.tree.allows node File.Node.toRead then
            Run.emit 1 ((namesIn entries).flatMap (· ++ ['\n']))
          else
            let reason := Errno.accessDenied.text.toList
            complain name ("cannot open directory '".toList ++ path ++ "': ".toList ++ reason)
            return false
      | _ => Run.emit 1 (path ++ ['\n'])

def list (name : Chars) (arguments : List Chars) : Run Performance := do
  let files := arguments.filter (!isOption ·)
  let mut fine := true
  for file in if files.isEmpty then [['.']] else files do
    fine := (← listFile name file) && fine
  exit (if fine then 0 else 2)

/-- Runs any program but the shell. -/
def perform (program : Program) (arguments : List Chars) (bindings : Variables) :
    Run Performance := do
  let name := arguments.headD []
  let rest := arguments.tail
  match program with
  | .shell | .succeed => exit 0
  | .fail => exit 1
  | .echo => echo rest
  | .copy => copy name rest
  | .sleep => sleep name rest
  | .environment => environment name (rest.length + 2) rest bindings
  | .showVariables => showVariables rest bindings
  | .condition bracketed => condition bracketed name rest
  | .workingDirectory => write ((← get).directory ++ ['\n'])
  | .list => list name rest

end Utility

end Confinement.Shell
