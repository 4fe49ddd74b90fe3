/-!
The programs that a process can be replaced by.
-/

namespace Confinement

inductive Program where
  | shell
  /-- Ends well, whatever it may write to its output. -/
  | succeed
  | fail
  | echo
  /-- Copies files to its output. -/
  | copy
  | sleep
  /-- Runs a program with other variables. -/
  | environment
  | showVariables
  /-- Judges a condition, between brackets if it is called by a bracket. -/
  | condition (bracketed : Bool)
  | workingDirectory
  /-- Names what is in directories. -/
  | list
deriving DecidableEq, Repr

namespace Program

/-- Programs by the names of their files, those that do more than end well. -/
def standard : List (String × Program) :=
  [("dash", .shell), ("bash", .shell), ("false", .fail), ("echo", .echo), ("cat", .copy),
    ("sleep", .sleep), ("env", .environment), ("printenv", .showVariables),
    ("test", .condition false), ("[", .condition true), ("pwd", .workingDirectory), ("ls", .list)]

/-- The longest string, with its closing NUL, that a new program can be given. -/
def maxString : Nat := 131072

/-- The most that all strings of a new program may take, with a pointer to each. -/
def maxStrings : Nat := 2097152

/-- Whether strings of these lengths are more than a new program can be given. -/
def areTooLong (lengths : List Nat) : Bool :=
  lengths.any (maxString ≤ ·) || maxStrings < lengths.foldl (fun sum length => sum + length + 9) 0

end Program

end Confinement
