import Confinement.Shell.Token

/-!
Reading the characters of a script: lines are counted, and a line that ends in a backslash goes on
in the next. What is between single quotes, in back quotes or in a document is taken as it stands.
-/

namespace Confinement.Shell

/-- A document that is still to come. -/
structure Announcement where
  number : Nat
  delimiter : Chars
  quoted : Bool
  stripTabs : Bool

structure Reader where
  rest : Chars
  line : Nat := 1
  /-- A token that was read and not used. -/
  unused : Option Token := none
  announced : List Announcement := []
  documents : List (Nat × Word) := []
  nextDocument : Nat := 0
  /-- The text that is read is a document. -/
  inDocument : Bool := false
  /-- The word that is read ends a document, and nothing in it is expanded. -/
  inDelimiter : Bool := false

structure Mistake where
  line : Nat
  message : String

abbrev Reading := StateT Reader (Except Mistake)

namespace Reader

def fail {α : Type} (message : String) : Reading α := do
  let line := (← get).line
  throw (Mistake.mk line message)

def unexpected {α : Type} (token : Token) (wanted : Option String) : Reading α :=
  let expecting := match wanted with
    | some wanted => " (expecting \"" ++ wanted ++ "\")"
    | none => ""
  fail ("Syntax error: " ++ token.name ++ " unexpected" ++ expecting)

/-- The next character as it is. -/
def takeRaw : Reading (Option Char) := do
  let reader ← get
  match reader.rest with
  | [] => return none
  | char :: rest =>
      let line := if char == '\n' then reader.line + 1 else reader.line
      set { reader with rest := rest, line := line }
      return some char

/-- Passes over lines that are continued by a backslash. -/
def joinLines (reader : Reader) : Chars → Reader
  | '\\' :: '\n' :: rest => joinLines { reader with line := reader.line + 1, rest := rest } rest
  | rest => { reader with rest := rest }

/-- The next character, which stays where it is. -/
def peek : Reading (Option Char) := do
  modify fun reader => reader.joinLines reader.rest
  return (← get).rest.head?

def takeChar : Reading (Option Char) := do
  discard peek
  takeRaw

/-- Takes the next character if it is the one given. -/
def accept (char : Char) : Reading Bool := do
  if (← peek) == some char then
    discard takeRaw
    return true
  else return false

/-- Characters as long as they belong to a class. -/
def takeWhile (isPart : Char → Bool) : Nat → Reading Chars
  | 0 => return []
  | fuel + 1 => do
      match ← peek with
      | some char =>
          if isPart char then
            discard takeRaw
            return char :: (← takeWhile isPart fuel)
          else return []
      | none => return []

/-- Characters up to a single quote, each of them plain. -/
def singleQuoted : Nat → Reading Word
  | 0 => return []
  | fuel + 1 => do
      match ← takeRaw with
      | none => fail "Syntax error: Unterminated quoted string"
      | some '\x27' => return []
      | some char => return .literal char true :: (← singleQuoted fuel)

/-- Characters up to the end of a line. -/
def comment : Nat → Reading Unit
  | 0 => return ()
  | fuel + 1 => do
      match (← get).rest with
      | [] | '\n' :: _ => return ()
      | _ =>
          discard takeRaw
          comment fuel

/-- The script in back quotes, freed of the backslashes that protect it. -/
def backQuoted (inDouble : Bool) : Nat → Reading Chars
  | 0 => return []
  | fuel + 1 => do
      match ← takeChar with
      | none => fail "Syntax error: EOF in backquote substitution"
      | some '\x60' => return []
      | some '\\' =>
          match (← get).rest with
          | char :: _ =>
              let protects := "\\\x60$".toList.contains char || inDouble && char == '"'
              if protects then
                discard takeRaw
                return char :: (← backQuoted inDouble fuel)
              else return '\\' :: (← backQuoted inDouble fuel)
          | [] => return '\\' :: (← backQuoted inDouble fuel)
      | some char => return char :: (← backQuoted inDouble fuel)

/-- Lines up to one that is the delimiter of a document. -/
def documentLines (announcement : Announcement) : Nat → Chars → Chars × Chars × Nat
  | 0, rest => ([], rest, 0)
  | _ + 1, [] => ([], [], 0)
  | fuel + 1, rest =>
      let start := if announcement.stripTabs then rest.dropWhile (· == '\t') else rest
      let line := start.takeWhile (· != '\n')
      let after := start.drop (line.length + 1)
      if line == announcement.delimiter then ([], after, 1)
      else
        let (lines, after', count) := documentLines announcement fuel after
        if line.length < start.length then (line ++ '\n' :: lines, after', count + 1)
        else (line ++ lines, after', count)

/-- Gives a token back, to be read again. -/
def unread (token : Token) : Reading Unit :=
  modify fun reader => { reader with unused := some token }

/-- Reads something from a text of its own. -/
def within {α : Type} (text : Reader) (reading : Reading α) : Reading α := do
  match reading { text with unused := none, announced := [] } with
  | .error mistake => throw mistake
  | .ok (value, inner) =>
      modify fun outer => { outer with
        documents := inner.documents
        nextDocument := inner.nextDocument }
      return value

/-- The characters that go on with an operator. -/
def continuations : String → Chars
  | "&" => ['&']
  | "|" => ['|']
  | ";" => [';']
  | "<" => ['<', '&', '>']
  | ">" => ['>', '&', '|']
  | "<<" => ['-']
  | _ => []

/-- Goes on with an operator for as long as the characters that follow belong to it. -/
def completed : Nat → String → Reading String
  | 0, operator => return operator
  | fuel + 1, operator => do
      if (continuations operator).isEmpty then return operator
      else
        match ← peek with
        | some char =>
            if (continuations operator).contains char then
              discard takeRaw
              completed fuel (operator.push char)
            else return operator
        | none => return operator

/-- The operator that comes next, if it begins with one of some characters. -/
def operator? (starts : String) : Reading (Option String) := do
  match ← peek with
  | some char =>
      if starts.toList.contains char then
        discard takeRaw
        return some (← completed 2 (String.singleton char))
      else return none
  | none => return none

def announce (word : Word) (stripTabs : Bool) : Reading Nat := do
  let reader ← get
  let chars := word.filterMap fun
    | .literal char _ => some char
    | _ => none
  let quoted := word.any fun
    | .quotes | .literal _ true => true
    | _ => false
  let number := reader.nextDocument
  set { reader with
    announced := reader.announced ++ [Announcement.mk number chars quoted stripTabs]
    nextDocument := number + 1 }
  return number

end Reader

end Confinement.Shell
