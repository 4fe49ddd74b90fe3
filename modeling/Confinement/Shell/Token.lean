import Confinement.Shell.Syntax

/-!
What a script is read as: tokens one after the other, and inside of words the characters that mean
something where they stand.
-/

namespace Confinement.Shell

inductive Token where
  | endOfInput
  | newline
  /-- A keyword, or an operator between commands. -/
  | sign (text : String)
  | word (word : Word)
  | redirection (descriptor : Nat) (operator : String)

namespace Token

def keywords : List String :=
  ["!", "case", "do", "done", "elif", "else", "esac", "fi", "for", "if", "in", "then", "until",
    "while", "\x7b", "\x7d"]

/-- Signs after which a list of commands does not go on. -/
def closers : List String :=
  [")", ";;", "do", "done", "elif", "else", "esac", "fi", "then", "\x7d"]

def name : Token → String
  | .endOfInput => "end of file"
  | .newline => "newline"
  | .sign text => "\"" ++ text ++ "\""
  | .word _ => "word"
  | .redirection _ _ => "redirection"

def isSign (token : Token) (text : String) : Bool :=
  match token with
  | .sign found => found == text
  | _ => false

def isCloser : Token → Bool
  | .endOfInput => true
  | .sign text => closers.contains text
  | _ => false

end Token

/-- What the pieces of a word stand in. It tells where they end and which characters are plain. -/
inductive Context where
  | word
  | double
  | document
  /-- A word inside braces. Between quotes of its own a closing brace is plain. -/
  | brace (quoted inner : Bool)
  | arithmetic (depth : Nat)
deriving DecidableEq, Repr

namespace Context

def isQuoted : Context → Bool
  | .word => false
  | .brace quoted _ => quoted
  | _ => true

/-- Characters that end a word without quotes. -/
def wordEnds : List Char :=
  " \t\n&|;()<>".toList

/-- Whether a backslash keeps a character from having a meaning. In a document a quote has none. -/
def escapes (context : Context) (inDocument : Bool) (char : Char) : Bool :=
  match context with
  | .word | .brace false _ => true
  | .brace true _ => "$\x60\"\\\x7d".toList.contains char
  | .double | .document | .arithmetic _ =>
      "$\x60\\".toList.contains char || (char == '"' && !inDocument)

end Context

end Confinement.Shell
