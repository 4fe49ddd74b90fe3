import Confinement.Text.Utf8

/-!
Commands of a shell, as they are written: words with their expansions still in them, redirections,
and the ways in which commands are put together.
-/

namespace Confinement.Shell

/-- Text as a shell sees it, which knows no characters but bytes: each byte stands as the character
with its number. -/
abbrev Chars := List Char

namespace Chars

def ofBytes (bytes : Bytes) : Chars :=
  bytes.map fun byte => Char.ofNat byte.toNat

def toBytes (text : Chars) : Bytes :=
  text.map fun char => UInt8.ofNat char.toNat

def ofString (string : String) : Chars :=
  ofBytes (utf8 string)

end Chars

/-- What is made of a parameter's value. -/
inductive Usage where
  | plain
  | length
  /-- Another word for a value that is missing or, with a colon, empty. -/
  | default (colon : Bool)
  /-- The same, and the parameter keeps that word. -/
  | assign (colon : Bool)
  /-- A complaint about a value that is missing or empty. -/
  | require (colon : Bool)
  /-- Another word for a value that is there. -/
  | replace (colon : Bool)
  /-- The value without what a pattern matches at one end. -/
  | trim (atEnd longest : Bool)
deriving DecidableEq, Repr

inductive RedirectionKind where
  | input
  | output
  | append
  | both
  /-- The descriptor becomes the same as another, or is closed. -/
  | copy
  /-- Input is text that follows the command, by its number. -/
  | document (number : Nat)
deriving DecidableEq, Repr

mutual

inductive Piece where
  | literal (char : Char) (quoted : Bool)
  /-- A pair of quotes was here, so that the word counts even if it is empty. -/
  | quotes
  | parameter (name : Chars) (usage : Usage) (word : List Piece) (quoted : Bool)
  | substitution (body : Option Command) (quoted : Bool)
  | arithmetic (expression : List Piece) (quoted : Bool)
  /-- An expansion that makes no sense, which is found out when it is reached. -/
  | malformed

inductive Redirection where
  | mk (descriptor : Nat) (kind : RedirectionKind) (target : List Piece)

inductive Command where
  | simple (line : Nat) (assignments : List (Chars × List Piece)) (words : List (List Piece))
      (redirections : List Redirection)
  | pipeline (negated : Bool) (commands : List Command)
  | both (first second : Command)
  | either (first second : Command)
  | sequence (first second : Command)
  | background (line : Nat) (body : Command)
  | subshell (line : Nat) (body : Option Command) (redirections : List Redirection)
  | conditional (condition yes no : Option Command)
  | loop (negated : Bool) (condition body : Option Command)
  | each (line : Nat) (name : Chars) (words : List (List Piece)) (body : Option Command)
  | choice (line : Nat) (word : List Piece) (branches : List (List (List Piece) × Option Command))
  | define (name : Chars) (body : Command)
  | redirected (line : Nat) (body : Option Command) (redirections : List Redirection)

end

/-- Words as they stand in a command. -/
abbrev Word := List Piece

namespace Word

/-- The text of a word that has neither quotes nor expansions. -/
def plain? : Word → Option Chars
  | [] => some []
  | .literal char false :: rest => (plain? rest).map (char :: ·)
  | _ => none

end Word

def isBlank (char : Char) : Bool :=
  char == ' ' || char == '\t' || char == '\n'

def isNameStart (char : Char) : Bool :=
  char.isAlpha || char == '_'

def isNamePart (char : Char) : Bool :=
  char.isAlphanum || char == '_'

def isName : Chars → Bool
  | [] => false
  | first :: rest => isNameStart first && rest.all isNamePart

/-- Commands of the shell itself whose failure ends it and whose variables stay. -/
def specialBuiltins : List String :=
  [".", ":", "break", "continue", "eval", "exec", "exit", "export", "local", "readonly", "return",
    "set", "shift", "times", "trap", "unset"]

/-- No function can have the name of a special command. -/
def isFunctionName (name : Chars) : Bool :=
  isName name && !specialBuiltins.contains (String.ofList name)

/-- Splits a word that gives a variable a value. -/
def Word.assignment? (word : Word) : Option (Chars × Word) :=
  let isPart : Piece → Bool
    | .literal char false => isNamePart char
    | _ => false
  match plain? (word.takeWhile isPart), word.dropWhile isPart with
  | some name, .literal '=' false :: value => if isName name then some (name, value) else none
  | _, _ => none

/-- Variables that the shell keeps for itself, by characters that are no names. -/
def isSpecial (char : Char) : Bool :=
  char.isDigit || "#$*@!?-".toList.contains char

end Confinement.Shell
