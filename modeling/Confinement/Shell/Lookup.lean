import Confinement.Shell.State

/-!
Commands by name: those of the shell itself, and the programs in the directories of its path. A name
with a slash in it is a path.
-/

namespace Confinement.Shell

/-- Commands of the shell itself that may fail without ending it. -/
def regularBuiltins : List String :=
  ["alias", "bg", "cd", "chdir", "command", "echo", "false", "fg", "getopts", "hash", "jobs",
    "kill", "printf", "pwd", "read", "test", "[", "true", "type", "ulimit", "umask", "unalias",
    "wait"]

def isSpecialBuiltin (name : Chars) : Bool :=
  specialBuiltins.contains (String.ofList name)

def isBuiltin (name : Chars) : Bool :=
  isSpecialBuiltin name || regularBuiltins.contains (String.ofList name)

/-- What is run for the name of a program: the program itself, or a shell with a script. -/
structure Executable where
  path : Chars
  program : Program
  isScript : Bool := false

/-- Why a program cannot be run. -/
structure Refusal where
  errno : Errno
  /-- The program was there to be tried. -/
  tried : Bool

namespace Refusal

def reason (refusal : Refusal) : String :=
  if refusal.errno == .noEntry || refusal.errno == .notDirectory then "not found"
  else refusal.errno.text

/-- The status that tells of a program that was tried without success. -/
def triedStatus (refusal : Refusal) : Nat :=
  if [Errno.noEntry, .notDirectory, .tooManyLinks, .nameTooLong].contains refusal.errno then 127
  else 126

def status (refusal : Refusal) : Nat :=
  if refusal.tried then refusal.triedStatus else 127

end Refusal

namespace Executable

/-- The directories of a path. An empty one is the current directory. -/
def directories (path : Chars) : List Chars :=
  path.splitOn ':'

def candidate (directory name : Chars) : Chars :=
  if directory.isEmpty then name else directory ++ '/' :: name

def isRegular (space : File.Space) (path : Chars) : Except Errno Bool :=
  match space.tree.find true space.workingDirectory (Chars.toBytes path) with
  | .error errno => .error errno
  | .ok node =>
      match space.tree.content? node with
      | some (.regular _) | some (.program _) | some (.report _ _) => .ok true
      | _ => .ok false

/-- The program at a path. What may be executed but is no program is a script. -/
def atPath (space : File.Space) (path : Chars) : Except Errno Executable :=
  match space.tree.program space.workingDirectory (Chars.toBytes path) with
  | .ok program => .ok ⟨path, program, false⟩
  | .error errno =>
      if errno == .notExecutable then .ok ⟨path, .shell, true⟩ else .error errno

/-- The first of some paths at which there is a program; `seen` is what was wrong so far. -/
def first (space : File.Space) (seen : Refusal) : List Chars → Except Refusal Executable
  | [] => .error seen
  | path :: rest =>
      match isRegular space path with
      | .error errno =>
          if errno == .noEntry || errno == .notDirectory then first space seen rest
          else first space { seen with errno := errno } rest
      | .ok false => first space { seen with errno := .accessDenied } rest
      | .ok true =>
          match atPath space path with
          | .ok executable => .ok executable
          | .error errno => first space { seen with errno := errno } rest

/-- The program that a name stands for where programs are looked for in `path`. -/
def ofName (space : File.Space) (path name : Chars) : Except Refusal Executable :=
  if name.contains '/' then
    match atPath space name with
    | .ok executable => .ok executable
    | .error errno => .error ⟨errno, true⟩
  else
    first space ⟨.noEntry, false⟩ ((directories path).map (candidate · name))

end Executable

/-- Where the shell looks for programs. -/
def State.path (state : State) : Chars :=
  (state.value? "PATH".toList).getD []

/-- How a shell tells what a name stands for; none for a name that stands for nothing. -/
def State.description? (state : State) (name : Chars) : Option (Chars × Chars) :=
  if Token.keywords.contains (String.ofList name) then some (name, " is a shell keyword".toList)
  else if (state.functions.find? name).isSome then some (name, " is a shell function".toList)
  else if isSpecialBuiltin name then some (name, " is a special shell builtin".toList)
  else if isBuiltin name then some (name, " is a shell builtin".toList)
  else
    match Executable.ofName state.space state.path name with
    | .ok executable => some (executable.path, " is ".toList ++ executable.path)
    | .error _ => none

end Confinement.Shell
