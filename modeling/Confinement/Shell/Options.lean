import Confinement.Shell.Run

/-!
Options: single letters behind a dash at the start of the arguments of a command, and the options of
the shell itself, which have names too.
-/

namespace Confinement.Shell

/-- The options that a command was given, with the values of those that take one, and the arguments
that follow them. -/
structure OptionReading where
  letters : List Char := []
  values : List (Char × Chars) := []
  arguments : List Chars

namespace OptionReading

/-- Reads the letters of one argument. -/
def ofLetters (plain valued : List Char) : Chars → OptionReading → Except Chars OptionReading
  | [], reading => .ok reading
  | letter :: rest, reading =>
      if plain.contains letter then
        ofLetters plain valued rest { reading with letters := reading.letters ++ [letter] }
      else if valued.contains letter then
        match rest, reading.arguments with
        | [], [] => .error ("No arg for -".toList ++ letter :: " option".toList)
        | [], value :: arguments =>
            .ok { reading with
              values := (letter, value) :: reading.values
              arguments := arguments }
        | value, _ => .ok { reading with values := (letter, value) :: reading.values }
      else .error ("Illegal option -".toList ++ [letter])

/-- Reads the options at the start of arguments. Two dashes end them. -/
def ofArguments (plain valued : List Char) : Nat → OptionReading → Except Chars OptionReading
  | 0, reading => .ok reading
  | fuel + 1, reading =>
      match reading.arguments with
      | ['-', '-'] :: rest => .ok { reading with arguments := rest }
      | ('-' :: letter :: letters) :: rest =>
          match ofLetters plain valued (letter :: letters) { reading with arguments := rest } with
          | .error reason => .error reason
          | .ok reading => ofArguments plain valued fuel reading
      | _ => .ok reading

end OptionReading

/-- The options and arguments of a command, which knows some letters. -/
def Run.optionsOf (plain valued : String) (arguments : List Chars) : Run OptionReading := do
  let reading : OptionReading := { arguments := arguments }
  match OptionReading.ofArguments plain.toList valued.toList (arguments.length + 1) reading with
  | .ok reading => return reading
  | .error reason => Run.fail reason

/-- What becomes of the variable for the value of an option. -/
inductive OptionValue where
  | kept
  | gone
  | given (value : Chars)

/-- What comes of looking for the next option. -/
structure OptionStep where
  found : Bool := true
  letter : Char := '?'
  value : OptionValue := .kept
  complaint : Option Chars := none
  cursor : OptionCursor

/-- Whether an option takes a value, which a colon behind its letter tells, if it is a known one. -/
def takesValue? (letter : Char) : Chars → Option Bool
  | [] => none
  | char :: ':' :: rest => if char == letter then some true else takesValue? letter rest
  | char :: rest => if char == letter then some false else takesValue? letter rest

namespace OptionCursor

/-- What is left of the argument that is being read. -/
def left (cursor : OptionCursor) (arguments : List Chars) : Chars :=
  match cursor.offset with
  | some offset =>
      if cursor.index ≤ 1 then [] else ((arguments[cursor.index - 2]?).getD []).drop offset
  | none => []

/-- Reads the next option among some arguments. A colon in front of the options that are known
keeps complaints back. -/
def next (cursor : OptionCursor) (known : Chars) (arguments : List Chars) : OptionStep :=
  match cursor.left arguments with
  | letter :: rest => ofLetter cursor.index letter rest
  | [] =>
      match arguments[cursor.index - 1]? with
      | some ['-', '-'] => { found := false, cursor := { index := cursor.index + 1 } }
      | some ('-' :: letter :: rest) => ofLetter (cursor.index + 1) letter rest
      | _ => { found := false, cursor := { index := cursor.index } }
where
  ofLetter (index : Nat) (letter : Char) (rest : Chars) : OptionStep :=
    let quiet := known.head? == some ':'
    let read := ((arguments[index - 2]?).getD []).length - rest.length
    let within : OptionCursor := { index := index, offset := some read }
    let wrong (lead trail : String) (mark : Char) (cursor : OptionCursor) : OptionStep :=
      if quiet then { letter := mark, value := .given [letter], cursor := cursor }
      else
        let complaint := lead.toList ++ letter :: trail.toList
        { value := .gone, complaint := some complaint, cursor := cursor }
    match takesValue? letter known with
    | none => wrong "Illegal option -" "" '?' within
    | some false => { letter := letter, value := .given [], cursor := within }
    | some true =>
        if !rest.isEmpty then
          { letter := letter, value := .given rest, cursor := { index := index } }
        else
          match arguments[index - 1]? with
          | some value =>
              { letter := letter, value := .given value, cursor := { index := index + 1 } }
          | none => wrong "No arg for -" " option" ':' { index := index }

end OptionCursor

/-- A value in quotes, as the shell would read it again. -/
def quoted (value : Chars) : Chars :=
  '\x27' :: value.flatMap (fun char =>
    if char == '\x27' then "'\"'\"'".toList else [char]) ++ ['\x27']

/-- The settings with which a shell is started or which it gives itself. -/
structure Settings where
  options : List Char
  /-- The shell is to run a text instead of a file. -/
  runsText : Bool := false
  /-- The shell is to run its input. -/
  readsInput : Bool := false
  /-- Positional parameters are there, though there may be none of them. -/
  hasParameters : Bool := false
  /-- All options are to be told, as they are or as what would set them. -/
  listing : Option Bool := none
  arguments : List Chars

namespace Settings

def optionNames : List (String × Char) :=
  [("errexit", 'e'), ("noglob", 'f'), ("ignoreeof", 'I'), ("interactive", 'i'), ("monitor", 'm'),
    ("noexec", 'n'), ("stdin", 's'), ("xtrace", 'x'), ("verbose", 'v'), ("vi", 'V'),
    ("emacs", 'E'), ("noclobber", 'C'), ("allexport", 'a'), ("notify", 'b'), ("nounset", 'u'),
    ("privileged", 'p'), ("nolog", 'l'), ("debug", 'd')]

/-- All options by their names, as they are or as what would set them. -/
def list (options : List Char) (plain : Bool) : Chars :=
  let lines := optionNames.map fun (name, letter) =>
    let on := options.contains letter
    if plain then
      name.toList ++ List.replicate (16 - name.length) ' ' ++ (if on then "on" else "off").toList
    else (if on then "set -o " else "set +o ").toList ++ name.toList
  (if plain then "Current option settings\n".toList else []) ++ lines.flatMap (· ++ ['\n'])

def change (settings : Settings) (option : Char) (on : Bool) : Settings :=
  let others := settings.options.filter (· != option)
  { settings with options := if on then option :: others else others }

/-- Reads the letters of one argument. -/
def ofLetters (starting on : Bool) : Chars → Settings → Except Chars Settings
  | [], settings => .ok settings
  | letter :: rest, settings =>
      if letter == 'c' && starting then
        ofLetters starting on rest { settings with runsText := true }
      else if letter == 'o' then
        match settings.arguments with
        | [] => ofLetters starting on rest { settings with listing := some on }
        | name :: arguments =>
            match optionNames.lookup (String.ofList name) with
            | none => .error ("Illegal option -o ".toList ++ name)
            | some option =>
                let settings := { settings with arguments := arguments }
                ofLetters starting on rest (settings.change option on)
      else if State.optionLetters.contains letter then
        ofLetters starting on rest (settings.change letter on)
      else .error ("Illegal option -".toList ++ [letter])

/-- Reads settings at the start of arguments, of a shell that is `starting` or of one that runs. -/
def read (starting : Bool) : Nat → Settings → Except Chars Settings
  | 0, settings => .ok settings
  | fuel + 1, settings =>
      match settings.arguments with
      | ['-'] :: rest =>
          let settings := { settings with arguments := rest, hasParameters := !rest.isEmpty }
          .ok (if starting then settings else (settings.change 'x' false).change 'v' false)
      | ['-', '-'] :: rest => .ok { settings with arguments := rest, hasParameters := true }
      | (sign :: letters) :: rest =>
          if sign == '-' || sign == '+' then
            match ofLetters starting (sign == '-') letters { settings with arguments := rest } with
            | .error reason => .error reason
            | .ok settings => read starting fuel settings
          else .ok { settings with hasParameters := true }
      | [] :: _ => .ok { settings with hasParameters := true }
      | [] => .ok settings

end Settings

end Confinement.Shell
