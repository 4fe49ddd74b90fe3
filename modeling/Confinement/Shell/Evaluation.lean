import Confinement.Shell.Builtin
import Confinement.Shell.Redirection
import Confinement.Shell.Start

/-!
Running commands. Every command leaves a status; what keeps the commands after it from being run is
a stop, which the constructs around it catch if it is meant for them. How deep commands may be
nested and how often a loop may go round is limited, so that every run comes to an end.
-/

namespace Confinement.Shell

/-- How often a loop goes round before it is taken for one that does not end. -/
def patience : Nat := 20000

/-- How deep commands may be nested before the stack of the shell is full. -/
def depth : Nat := 30000

/-- How many functions may be running at once. -/
def maxCalls : Nat := 1000

/-- The signal of a process whose stack is full. -/
def stackFull : Stop := .killed 11

namespace Run

/-- The status left by the command before. -/
def status : Run Nat :=
  return (← get).status

def atLine (line : Nat) : Run Unit :=
  modify fun state => { state with line := line }

/-- Ends a shell that is to go on after no failure that nobody looks at. -/
def leaveOnError (tested : Bool) : Run Unit := do
  let state ← get
  if !tested && state.status != 0 && state.isSet 'e' then throw .exit

/-- Shows a command that is about to be run. -/
def trace (stream : Option Stream) (words : List Chars) : Run Unit := do
  let state ← get
  if state.isSet 'x' then
    let lead := (state.value? "PS4".toList).getD []
    match stream with
    | some stream => discard (emitTo stream (lead ++ Expansion.joined [' '] words ++ ['\n']))
    | none => return ()

/-- Marks the end of a child, which comes as a signal. -/
def childEnded : Run Unit :=
  modify fun state =>
    match state.traps.find? Signal.childEnded with
    | some (_ :: _) => { state with received := Signal.childEnded :: state.received }
    | _ => state

end Run

/-- Whether an argument list is one of a command that gives variables values. -/
def declares (arguments : List Chars) : Bool :=
  match arguments.dropWhile (· == "command".toList) with
  | name :: _ => ["export", "readonly", "local", "alias"].contains (String.ofList name)
  | [] => false

/-- The arguments that words come to. -/
def argumentsOf (substitute : Substitute) (found : List Chars) :
    List Word → Run (List Chars)
  | [] => return found
  | word :: rest => do
      let fields ←
        if declares found && word.assignment?.isSome then
          pure [← Expansion.text substitute word]
        else Expansion.fields substitute word
      argumentsOf substitute (found ++ fields) rest

def isCovered (substitute : Substitute) (text : Chars) : List Word → Run Bool
  | [] => return false
  | word :: rest => do
      if (← Expansion.pattern substitute word).covers text then return true
      else isCovered substitute text rest

/-- The commands of the first branch with a pattern that covers a text. -/
def branchFor (substitute : Substitute) (text : Chars) :
    List (List Word × Option Command) → Run (Option Command)
  | [] => return none
  | (patterns, body) :: rest => do
      if ← isCovered substitute text patterns then return body
      else branchFor substitute text rest

/-- What a loop makes of a stop in its body: whether it goes on. -/
def loopGoesOn : Except Stop Unit → Run Bool
  | .ok () => return true
  | .error (.leave count) => if count ≤ 1 then return false else throw (.leave (count - 1))
  | .error (.next count) => if count ≤ 1 then return true else throw (.next (count - 1))
  | .error stop => throw stop

/-- Runs a loop, inside of which commands may leave it. -/
def withinLoop {α : Type} (action : Run α) : Run Unit := do
  let before := (← get).loops
  modify fun state => { state with loops := before + 1 }
  let result ← Run.attempt action
  modify fun state => { state with loops := before }
  discard (Run.resume result)

/-- A command without the words before it that say how to run it. -/
structure Called where
  arguments : List Chars
  /-- The name may be one of a function, and the command may end the shell. -/
  special : Bool := true

/-- Takes away the words that put a command on a level with others. -/
def Called.plain : Nat → Called → Called
  | 0, called => called
  | fuel + 1, called =>
      match called.arguments with
      | [] => called
      | name :: rest =>
          let known := "pvV".toList
          if name != "command".toList then called
          else
            match OptionReading.ofArguments known [] (rest.length + 1) { arguments := rest } with
            | .error _ => called
            | .ok reading =>
                if reading.arguments.isEmpty || reading.letters.any (· != 'p') then called
                else plain fuel ⟨reading.arguments, false⟩

/-- The script of a file that is run in the shell itself. -/
def scriptAt (path : Chars) : Run Chars := do
  let space := (← get).space
  match space.openAt .workingDirectory (Chars.toBytes path) {} 0 with
  | .error errno =>
      let reason := Redirected.reason false errno
      Run.fail ("cannot open ".toList ++ path ++ ": ".toList ++ reason.toList)
  | .ok (handle, space) =>
      match space.read handle with
      | .ok (data, _) => return Chars.ofBytes data
      | .error _ => return []

/-- The path of a script that is looked for where programs are. -/
def scriptPath (name : Chars) : Run Chars := do
  let state ← get
  let paths := (Executable.directories state.path).map (Executable.candidate · name)
  if name.contains '/' then return name
  else
    match paths.find? fun path => (Executable.isRegular state.space path).toOption == some true with
    | some path => return path
    | none => Run.fail (name ++ ": not found".toList)

mutual

/-- Runs a command. A `tested` one may fail in a shell that ends with the first failure. -/
def evaluate : Nat → Bool → Command → Run Unit
  | 0, _, _ => throw stackFull
  | fuel + 1, tested, command => do
      match command with
      | .simple line assignments words redirections =>
          Run.atLine line
          simple fuel tested assignments words redirections
          Run.leaveOnError tested
      | .pipeline negated [only] =>
          evaluate fuel (tested || negated) only
          if negated then Run.setStatus (if (← Run.status) == 0 then 1 else 0)
      | .pipeline negated commands =>
          let start := (← get).elapsed
          pipeline fuel (tested || negated) start start none commands
          Run.arrive
          if negated then Run.setStatus (if (← Run.status) == 0 then 1 else 0)
          else Run.leaveOnError tested
      | .both first second =>
          evaluate fuel true first
          if (← Run.status) == 0 then evaluate fuel tested second
      | .either first second =>
          evaluate fuel true first
          if (← Run.status) != 0 then evaluate fuel tested second
      | .sequence first second =>
          evaluate fuel tested first
          evaluate fuel tested second
      | .background line body =>
          Run.atLine line
          background fuel body
      | .subshell line body redirections =>
          Run.atLine line
          let targets ← Redirected.expand (substitute fuel) redirections
          let status ← apart fuel do
            if ← Redirected.performAll (substitute fuel) false targets then
              evaluateAll fuel tested body
            else throw .mistake
          Run.arrive
          Run.setStatus status
          Run.leaveOnError tested
      | .conditional condition yes no =>
          evaluateAll fuel true condition
          match if (← Run.status) == 0 then yes else no with
          | some branch => evaluate fuel tested branch
          | none => Run.setStatus 0
      | .loop negated condition body =>
          let round (last : Nat) : Run (Option Nat) := do
            let judged ← Run.attempt (evaluateAll fuel true condition)
            let isJudged := judged.toOption.isSome
            let holds := ((← Run.status) == 0) != negated
            if !isJudged then
              if ← loopGoesOn judged then return some last
              else
                Run.setStatus last
                return none
            else if !holds then
              Run.setStatus last
              return none
            else if ← loopGoesOn (← Run.attempt (evaluateAll fuel tested body)) then
              return some (← Run.status)
            else return none
          withinLoop (Run.iterate round patience 0)
      | .each line name words body =>
          Run.atLine line
          let values ← argumentsOf (substitute fuel) [] words
          let round (values : List Chars) : Run (Option (List Chars)) := do
            match values with
            | [] => return none
            | value :: rest =>
                Run.assign name value false
                let goesOn ← loopGoesOn (← Run.attempt (evaluateAll fuel tested body))
                return if goesOn then some rest else none
          if values.isEmpty then Run.setStatus 0
          else withinLoop (Run.iterate round (values.length + 1) values)
      | .choice line word branches =>
          Run.atLine line
          let text ← Expansion.text (substitute fuel) word
          match ← branchFor (substitute fuel) text branches with
          | some body => evaluate fuel tested body
          | none => Run.setStatus 0
      | .define name body =>
          modify fun state => { state with functions := state.functions.put name body }
          Run.setStatus 0
      | .redirected line body redirections =>
          Run.atLine line
          let targets ← Redirected.expand (substitute fuel) redirections
          Run.keepingDescriptors do
            if ← Redirected.performAll (substitute fuel) true targets then
              evaluateAll fuel tested body
            else Run.leaveOnError tested
      pending fuel

def evaluateAll : Nat → Bool → Option Command → Run Unit
  | 0, _, _ => throw stackFull
  | _ + 1, _, none => return ()
  | fuel + 1, tested, some command => evaluate fuel tested command

/-- Runs a text, line by line, and tells whether there was a command in it. -/
def runText : Nat → Bool → Chars → Run Bool
  | 0, _, _ => throw stackFull
  | fuel + 1, tested, text => do
      let round (progress : Reader × Bool) : Run (Option (Reader × Bool)) := do
        let (reader, ran) := progress
        let state ← get
        let reader := { reader with
          documents := state.documents
          nextDocument := state.nextDocument }
        match Reader.nextLine reader with
        | .error mistake =>
            Run.atLine mistake.line
            Run.fail mistake.message.toList
        | .ok (none, _) => return none
        | .ok (some command, reader) =>
            set { state with
              readLine := reader.line
              documents := reader.documents
              nextDocument := reader.nextDocument }
            if command.isNone || state.isSet 'n' then return some (reader, ran)
            else
              evaluateAll fuel tested command
              return some (reader, true)
      let before := (← get).readLine
      let result ← Run.attempt (Run.iterate round (text.length + 2) ({ rest := text }, false))
      modify fun state => { state with readLine := before }
      return (← Run.resume result).2

/-- Runs the actions for signals that have come. -/
def pending : Nat → Run Unit
  | 0 => throw stackFull
  | fuel + 1 => do
      let state ← get
      if state.received.isEmpty || state.isSubshell then return ()
      else
        set { state with received := [] }
        for signal in state.received.mergeSort do
          match (← get).traps.find? signal with
          | none => pure ()
          | some action =>
              let before ← get
              set { before with interrupted := some before.status }
              discard (runText fuel false action)
              modify fun state =>
                { state with interrupted := before.interrupted, status := before.status }

/-- Runs the action for the end of a shell. -/
def conclude : Nat → Except Stop Unit → Run (Except Stop Unit)
  | 0, result => return result
  | fuel + 1, result => do
      let state ← get
      match result, state.traps.find? 0 with
      | .error (.killed _), _ | .error .forever, _ | _, none => return result
      | _, some action =>
          set { state with traps := state.traps.erase 0, interrupted := some state.status }
          match ← Run.attempt (runText fuel false action) with
          | .error (.killed signal) => return .error (.killed signal)
          | .error .forever => return .error .forever
          | .error .exit | .error .mistake => return result
          | _ =>
              Run.setStatus state.status
              return result

/-- Runs something in a part of the shell that does not change the rest, and gives its status. -/
def apart : Nat → Run Unit → Run Nat
  | 0, _ => throw stackFull
  | fuel + 1, action => do
      let before ← get
      set before.apart
      let result ← conclude fuel (← Run.attempt action)
      let ran ← get
      set (before.after ran)
      Run.childEnded
      match result with
      | .error (.killed signal) => throw (.killed signal)
      | .error .forever =>
          Run.arrive
          throw .forever
      | _ => return ran.status % 256

/-- Runs commands ahead of time, as if beside those that follow. -/
def background : Nat → Command → Run Unit
  | 0, _ => throw stackFull
  | fuel + 1, body => do
      let before ← get
      let process := before.nextProcess
      set { before with
        nextProcess := process + 1
        descriptors := before.descriptors.put 0 .nothing
        job := process }
      let result ← Run.attempt (apart fuel (evaluate fuel false body))
      let ran ← get
      let ending : Ending := match result with
        | .ok status => .exited status
        | .error _ => .forever
      let job : Job := ⟨process, ending, ran.elapsed⟩
      set { before.after ran with
        status := 0
        elapsed := before.elapsed
        jobs := before.jobs ++ [job]
        background := some process }

/-- Runs commands of which each reads what the one before it writes. All begin at one time. -/
def pipeline : Nat → Bool → Nat → Nat → Option Nat → List Command → Run Unit
  | 0, _, _, _, _, _ => throw stackFull
  | _ + 1, _, _, _, _, [] => return ()
  | fuel + 1, tested, start, latest, input, command :: rest => do
      let before ← get
      let number := before.nextText
      let fed := match input with
        | some input => before.descriptors.put 0 (.given input)
        | none => before.descriptors
      set { before with
        elapsed := start
        nextText := number + 1
        texts := before.texts.put number []
        descriptors := if rest.isEmpty then fed else fed.put 1 (.collected number) }
      let status ← apart fuel (evaluate fuel tested command)
      let latest := max latest (← get).elapsed
      modify fun state => { state with descriptors := before.descriptors, elapsed := latest }
      if rest.isEmpty then Run.setStatus status
      else pipeline fuel tested start latest (some number) rest

/-- What the commands of a substitution write. -/
def substitute : Nat → Option Command → Run Chars
  | 0, _ => throw stackFull
  | _ + 1, none => return []
  | fuel + 1, some body => do
      let (status, text) ← Run.collecting (apart fuel (evaluate fuel false body))
      modify fun state => { state with substituted := status }
      Run.arrive
      return text

/-- Runs a simple command: its words are expanded, its redirections made and its variables set
before what it names is run. -/
def simple : Nat → Bool → List (Chars × Word) → List Word → List Redirection → Run Unit
  | 0, _, _, _, _ => throw stackFull
  | fuel + 1, tested, assignments, words, redirections => do
      modify fun state => { state with substituted := 0 }
      let arguments ← argumentsOf (substitute fuel) [] words
      let called := Called.plain arguments.length { arguments := arguments }
      let name := called.arguments.headD []
      let special := called.special && isSpecialBuiltin name
      let replaces := name == "exec".toList
      let targets ← Redirected.expand (substitute fuel) redirections
      let before ← get
      let action : Run Unit := do
        if !(← Redirected.performAll (substitute fuel) true targets) then
          if special then throw .mistake else return ()
        else
          let lasting := arguments.isEmpty || special
          let mut shown : List Chars := []
          for (name, word) in assignments do
            let value ← Expansion.text (substitute fuel) word
            Run.assign name value (!lasting || replaces)
            shown := shown ++ [name ++ '=' :: value]
          Run.trace (before.descriptors.find? 2) (shown ++ arguments)
          if arguments.isEmpty then Run.setStatus (← get).substituted
          else
            let result ← Run.attempt (named fuel tested called)
            if !lasting then
              for (name, _) in assignments.reverse do
                modify fun state => state.restore (name, before.lookup? name)
            Run.resume result
      if replaces then action else Run.keepingDescriptors action

/-- Runs what a name stands for: a function, a command of the shell itself or a program. -/
def named : Nat → Bool → Called → Run Unit
  | 0, _, _ => throw stackFull
  | fuel + 1, tested, called => do
      match called.arguments with
      | [] => Run.setStatus 0
      | name :: arguments =>
          let functions := (← get).functions
          match if called.special then functions.find? name else none with
          | some body => call fuel tested body arguments
          | none =>
              if isBuiltin name then
                builtin fuel tested (called.special && isSpecialBuiltin name) name arguments
              else external fuel name arguments

/-- Runs the body of a function with its own positional parameters. -/
def call : Nat → Bool → Command → List Chars → Run Unit
  | 0, _, _, _ => throw stackFull
  | fuel + 1, tested, body, arguments => do
      let before ← get
      if maxCalls ≤ before.calls then
        Run.fail "Maximum function recursion depth (1000) reached".toList
      set { before with
        calls := before.calls + 1
        positional := arguments
        cursor := {}
        loops := 0
        locals := [] :: before.locals }
      let result ← Run.attempt (evaluate fuel tested body)
      let own := (← get).locals.headD []
      modify fun state =>
        { own.foldl State.restore state with
          calls := before.calls
          positional := before.positional
          cursor := before.cursor
          loops := before.loops
          locals := before.locals }
      match own.find? (!isName ·.1) with
      | some (name, _) => Run.fail (name ++ ": bad variable name".toList)
      | none =>
          match result with
          | .error .return => return ()
          | result => Run.resume result

/-- Runs a command of the shell itself. A mistake in one that is not special is kept to it. -/
def builtin : Nat → Bool → Bool → Chars → List Chars → Run Unit
  | 0, _, _, _, _ => throw stackFull
  | fuel + 1, tested, special, name, arguments => do
      let before := (← get).command
      modify fun state => { state with command := some name }
      let action : Run Unit :=
        match Builtin.ofName? name with
        | some action => do Run.setStatus (← action arguments)
        | none =>
            match String.ofList name with
            | "eval" => do
                if !(← runText fuel tested (Expansion.joined [' '] arguments)) then Run.setStatus 0
            | "." => sourced fuel arguments
            | _ => replaced fuel arguments
      let result ← Run.attempt action
      modify fun state => { state with command := before }
      match result with
      | .error .mistake => if special then throw .mistake else return ()
      | result => Run.resume result

/-- Runs the commands of a file in the shell itself. -/
def sourced : Nat → List Chars → Run Unit
  | 0, _ => throw stackFull
  | fuel + 1, arguments => do
      match (← Run.optionsOf "" "" arguments).arguments with
      | [] => Run.setStatus 0
      | name :: _ =>
          let path ← scriptPath name
          let script ← scriptAt path
          modify fun state => { state with command := some path }
          match ← Run.attempt (runText fuel false script) with
          | .ok true | .error .return => return ()
          | .ok false => Run.setStatus 0
          | .error stop => throw stop

/-- Puts a program in the place of the shell. -/
def replaced : Nat → List Chars → Run Unit
  | 0, _ => throw stackFull
  | fuel + 1, arguments => do
      match arguments with
      | [] => Run.setStatus 0
      | name :: arguments =>
          let state ← get
          match Executable.ofName state.space state.path name with
          | .error refusal =>
              Run.complain (name ++ ": ".toList ++ refusal.reason.toList)
              Run.setStatus refusal.triedStatus
              throw .exit
          | .ok executable =>
              let ending ← launch fuel state.process executable (name :: arguments)
                state.environment
              modify fun state => { state with traps := {} }
              match ending with
              | .forever => throw .forever
              | .exited status => Run.setStatus status
              | .killed signal =>
                  if !state.isSubshell then throw (.killed signal)
                  Run.reportDeath ending
                  Run.setStatus ending.status
              throw .exit

/-- Runs a program in a process of its own and waits for its end. -/
def external : Nat → Chars → List Chars → Run Unit
  | 0, _, _ => throw stackFull
  | fuel + 1, name, arguments => do
      let state ← get
      match Executable.ofName state.space state.path name with
      | .error refusal =>
          Run.complain (name ++ ": ".toList ++ refusal.reason.toList)
          Run.setStatus refusal.status
      | .ok executable =>
          let process := state.nextProcess
          set { state with nextProcess := process + 1 }
          let ending ← launch fuel process executable (name :: arguments) state.environment
          if ending == .forever then throw .forever
          Run.reportDeath ending
          Run.childEnded
          Run.setStatus ending.status

/-- Runs a program up to its end. -/
def launch : Nat → Nat → Executable → List Chars → Variables → Run Ending
  | 0, _, _, _, _ => throw stackFull
  | fuel + 1, process, executable, arguments, bindings => do
      let arguments :=
        if executable.isScript then arguments.take 1 ++ executable.path :: arguments.tail
        else arguments
      match executable.program with
      | .shell =>
          let before ← get
          set (before.started process (arguments.headD []) bindings)
          let ending ← session fuel arguments.tail
          set { before.after (← get) with arrivals := before.arrivals, received := before.received }
          return ending
      | program =>
          match ← Utility.perform program arguments bindings with
          | .ended ending => return ending
          | .replaced executable arguments bindings =>
              launch fuel process executable arguments bindings

/-- Runs a shell with its arguments from its beginning to its end. -/
def session : Nat → List Chars → Run Ending
  | 0, _ => throw stackFull
  | fuel + 1, arguments => do
      let body : Run Unit := do
        let fresh ← get
        set { fresh with name := "sh".toList }
        Run.moveCursor ((fresh.value? "OPTIND".toList).getD ['1'])
        set fresh
        let settings : Settings := { options := [], arguments := arguments }
        match settings.read true (arguments.length + 1) with
        | .error reason => Run.fail reason
        | .ok settings =>
            let readsInput := settings.options.contains 's'
            let named (script : Chars) (rest : List Chars) : Run Unit := do
              modify fun state =>
                match rest with
                | [] => state
                | name :: positional => { state with name := name, positional := positional }
              discard (runText fuel false script)
            modify fun state => { state with options := settings.options }
            match settings.arguments with
            | [] =>
                if settings.runsText then Run.fail "-c requires an argument".toList
                else discard (runText fuel false (← Run.readAll 0))
            | first :: rest =>
                if settings.runsText then named first rest
                else if readsInput then
                  modify fun state => { state with positional := first :: rest }
                  discard (runText fuel false (← Run.readAll 0))
                else named (← scriptAt first) (first :: rest)
      let result ← conclude fuel (← Run.attempt body)
      let state ← get
      let early := state.arrivals.filter fun arrival =>
        result matches .error .forever || arrival.1 < state.elapsed
      match early.mergeSort fun first second => first.1 ≤ second.1 with
      | (time, signal) :: _ =>
          set { state with
            elapsed := time
            errors := state.errors.filter (·.time ≤ time)
            arrivals := [] }
          return .killed signal
      | [] =>
          set { state with arrivals := [] }
          match result with
          | .error (.killed signal) => return .killed signal
          | .error .forever => return .forever
          | _ => return .exited (state.status % 256)

end

/-- What a program leaves behind: how and when it ends, and what it wrote to the error stream with
the time of each text. -/
structure Outcome where
  ending : Ending
  elapsed : Nat
  errors : List (Nat × Bytes)

/-- Runs a program among some files, with nothing to read and with an error stream that is looked
at. -/
def execute (space : File.Space) (program : Program) (arguments bindings : List Chars) : Outcome :=
  let outside : State := {
    name := []
    descriptors := ⟨[(0, .nothing), (1, .unseen), (2, .errors)]⟩
    space := space
    directory := State.pathOf space.tree space.tree.nodes.size space.workingDirectory [] }
  let given := bindings.filterMap fun entry =>
    match Builtin.splitAssignment entry with
    | (name, some value) => some (name, value)
    | (_, none) => none
  let executable : Executable := ⟨arguments.headD [], program, false⟩
  let (result, state) := launch depth outside.process executable arguments given outside
  let ending := match result with
    | .ok ending => ending
    | .error (.killed signal) => .killed signal
    | .error _ => .forever
  let errors := state.errors.reverse.mergeSort fun first second => first.time ≤ second.time
  { ending := ending
    elapsed := state.elapsed
    errors := errors.map fun remark => (remark.time, Chars.toBytes remark.text) }

end Confinement.Shell
