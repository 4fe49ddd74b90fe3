import Confinement.Shell.Arithmetic
import Confinement.Shell.Pattern
import Confinement.Shell.Run

/-!
Expansion of words: parameters, substitutions and arithmetic are replaced by their values, and
values outside quotes are split into fields.
-/

namespace Confinement.Shell

/-- What a word is made of once its expansions are done. -/
inductive Atom where
  | char (char : Char) (quoted splits : Bool)
  /-- Quotes were here, so that there is a field even if it is empty. -/
  | mark
  /-- The end of one positional parameter among several. -/
  | gap (hard : Bool)
deriving DecidableEq, Repr

namespace Atom

def ofValue (quoted : Bool) (text : Chars) : List Atom :=
  text.map (.char · quoted (!quoted))

/-- The same text as the value of an expansion, which is split where it is not quoted. -/
def asValue : Atom → Atom
  | .char letter false _ => .char letter false true
  | atom => atom

def text (atoms : List Atom) : Chars :=
  atoms.filterMap fun
    | .char letter _ _ => some letter
    | .mark => none
    | .gap _ => some ' '

def pattern (atoms : List Atom) : Pattern :=
  Pattern.ofWord <| atoms.filterMap fun
    | .char letter quoted _ => some (letter, quoted)
    | .mark => none
    | .gap _ => some (' ', true)

/-- What a separator may still do after the end of a field. -/
inductive Pause where
  | over
  /-- Blanks have ended a field, and one other separator belongs to them. -/
  | pending
  | closed
deriving DecidableEq, Repr

/-- Splits atoms into fields. `field` is the one that is being read, with its last character
first. -/
def split (separators : Chars) : List Atom → Chars → Bool → Pause → List Chars
  | [], field, alive, _ => if alive then [field.reverse] else []
  | .mark :: rest, field, _, _ => split separators rest field true .over
  | .gap hard :: rest, field, alive, _ =>
      let later := split separators rest [] false .over
      if hard || alive then field.reverse :: later else later
  | .char letter _ splits :: rest, field, alive, pause =>
      if splits && separators.contains letter then
        if isBlank letter then
          if alive then field.reverse :: split separators rest [] false .pending
          else split separators rest field false pause
        else if pause == .pending then split separators rest [] false .closed
        else field.reverse :: split separators rest [] false .closed
      else split separators rest (letter :: field) true .over

def fields (separators : Chars) (atoms : List Atom) : List Chars :=
  split separators atoms [] false .over

end Atom

/-- How the commands of a substitution are run: the text they write. -/
abbrev Substitute := Option Command → Run Chars

namespace Expansion

def isList (name : Chars) : Bool :=
  name == ['@'] || name == ['*']

/-- Texts with another between each two of them. -/
def joined (between : Chars) : List Chars → Chars
  | [] => []
  | [last] => last
  | first :: rest => first ++ between ++ joined between rest

/-- The positional parameters at once. -/
def positional (state : State) (star quoted splitting : Bool) : List Atom :=
  let separator := match state.separators with
    | [] => if (state.lookup? "IFS".toList).isSome then [] else [' ']
    | first :: _ => [first]
  if !splitting || star && quoted then
    Atom.ofValue quoted (joined (if star then separator else [' ']) state.positional)
  else
    let between (atoms : List (List Atom)) := (atoms.intersperse [.gap quoted]).flatten
    between (state.positional.map fun value =>
      if quoted then .mark :: Atom.ofValue true value else Atom.ofValue false value)

/-- The number that the value of a variable stands for. -/
def numberOf (state : State) (name : Chars) : Except String Int :=
  let text := (state.parameter? name).getD []
  let trimmed := text.dropWhile isBlank
  let (negative, digits) := match trimmed with
    | '-' :: rest => (true, rest)
    | '+' :: rest => (false, rest)
    | rest => (false, rest)
  let (value, length) := Arithmetic.leadingNumber digits
  if (digits.drop length).all isBlank then
    .ok (Arithmetic.clamped (if negative then -value else value))
  else .error ("Illegal number: " ++ String.ofList text)

def calculate (text : Chars) : Run Chars := do
  let state ← get
  match Arithmetic.evaluate (numberOf state) text with
  | .error message => Run.fail message.toList
  | .ok (value, assigned) =>
      for entry in assigned.reverse do
        Run.assign entry.1 (Text.signedDecimal entry.2) false
      return Text.signedDecimal value

/-- A leading tilde stands for the home directory. -/
def withHome (state : State) : Word → Word
  | .literal '~' false :: rest =>
      let ends := match rest with
        | [] | .literal '/' false :: _ => true
        | _ => false
      match ends, state.value? "HOME".toList with
      | true, some home => home.map (Piece.literal · true) ++ rest
      | _, _ => .literal '~' false :: rest
  | word => word

mutual

/-- Expands the pieces of a word. Fields are told apart if the word is to be split. -/
def expand (substitute : Substitute) (splitting : Bool) : Nat → Word → Run (List Atom)
  | 0, _ => return []
  | _ + 1, [] => return []
  | fuel + 1, piece :: rest => do
      let first : List Atom ← match piece with
        | .literal char quoted => pure [.char char quoted false]
        | .quotes => pure [.mark]
        | .parameter name usage word quoted =>
            parameter substitute splitting fuel name usage word quoted
        | .substitution body quoted =>
            let output ← substitute body
            let trimmed := (output.reverse.dropWhile (· == '\n')).reverse
            pure (Atom.ofValue quoted trimmed)
        | .arithmetic expression quoted =>
            let text := Atom.text (← expand substitute false fuel expression)
            pure (Atom.ofValue quoted (← calculate text))
        | .malformed => Run.fail "Bad substitution".toList
      return first ++ (← expand substitute splitting fuel rest)

/-- Expands one parameter. -/
def parameter (substitute : Substitute) (splitting : Bool) :
    Nat → Chars → Usage → Word → Bool → Run (List Atom)
  | 0, _, _, _, _ => return []
  | fuel + 1, name, usage, word, quoted => do
      let state ← get
      let value? :=
        if isList name then
          if state.positional.isEmpty then none
          else some (Atom.text (positional state (name == ['*']) true false))
        else state.parameter? name
      let required : Run Chars := do
        match value? with
        | some value => return value
        | none =>
            if state.isSet 'u' && !isList name then
              Run.fail (name ++ ": parameter not set".toList)
            else return []
      let plain : Run (List Atom) := do
        if isList name then return positional state (name == ['*']) quoted splitting
        else return Atom.ofValue quoted (← required)
      let missing (colon : Bool) : Bool :=
        match value? with
        | none => true
        | some value => colon && value.isEmpty
      let other : Run (List Atom) := do
        let atoms ← expand substitute splitting fuel (withHome state word)
        return atoms.map Atom.asValue
      match usage with
      | .plain => plain
      | .length =>
          return Atom.ofValue quoted (Text.decimal (← required).length)
      | .default colon => if missing colon then other else plain
      | .replace colon => if missing colon then return [] else other
      | .assign colon =>
          if missing colon then
            let text := Atom.text (← expand substitute false fuel word)
            if isName name then
              Run.assign name text false
              return Atom.ofValue quoted text
            else Run.fail (name ++ ": bad variable name".toList)
          else plain
      | .require colon =>
          if missing colon then
            let text := Atom.text (← expand substitute false fuel word)
            let reason :=
              if !text.isEmpty then text
              else if colon then "parameter not set or null".toList
              else "parameter not set".toList
            Run.fail (name ++ ": ".toList ++ reason)
          else plain
      | .trim atEnd longest =>
          let value ← required
          let pattern := Atom.pattern (← expand substitute false fuel word)
          return Atom.ofValue quoted (Pattern.trim pattern atEnd longest value)

end

/-- How many pieces a word may have, and pieces in it. -/
def pieceLimit : Nat := 1000000

/-- The fields that a word comes to. -/
def fields (substitute : Substitute) (word : Word) : Run (List Chars) := do
  let atoms ← expand substitute true pieceLimit (withHome (← get) word)
  return Atom.fields (← get).separators atoms

/-- The one text that a document comes to. -/
def textAsIs (substitute : Substitute) (word : Word) : Run Chars := do
  return Atom.text (← expand substitute false pieceLimit word)

/-- The one text that a word comes to where it is not split. -/
def text (substitute : Substitute) (word : Word) : Run Chars := do
  textAsIs substitute (withHome (← get) word)

/-- The pattern that a word comes to. -/
def pattern (substitute : Substitute) (word : Word) : Run Pattern := do
  return Atom.pattern (← expand substitute false pieceLimit (withHome (← get) word))

end Expansion

end Confinement.Shell
