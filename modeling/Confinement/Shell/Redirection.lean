import Confinement.Shell.Expansion

/-!
Redirections: where the descriptors of a command lead. Targets are expanded one after the other
before the first of them is opened.
-/

namespace Confinement.Shell

/-- A redirection with its target expanded: a path or the descriptor to copy. What a document says
is expanded only when it is needed. -/
structure Redirected where
  descriptor : Nat
  kind : RedirectionKind
  target : Chars

namespace Redirected

/-- Names of files that stand for descriptors. -/
def descriptorNames : List (String × Nat) :=
  [("/dev/stdin", 0), ("/dev/stdout", 1), ("/dev/stderr", 2)] ++
  (List.range 10).flatMap fun number =>
    let digit := String.ofList (Text.decimal number)
    [("/dev/fd/" ++ digit, number), ("/proc/self/fd/" ++ digit, number)]

def expand (substitute : Substitute) : List Redirection → Run (List Redirected)
  | [] => return []
  | .mk descriptor kind target :: rest => do
      let text ← Expansion.text substitute target
      if kind == .copy && text != ['-'] && !(text.length == 1 && text.all Char.isDigit) then
        modify fun state => { state with line := state.readLine }
        Run.fail "Syntax error: Bad fd number".toList
      return ⟨descriptor, kind, text⟩ :: (← expand substitute rest)

/-- Makes a descriptor lead to a stream. -/
def lead (descriptor : Nat) (stream : Stream) : Run Bool := do
  modify fun state => { state with descriptors := state.descriptors.put descriptor stream }
  return true

def close (descriptor : Nat) : Run Unit :=
  modify fun state => { state with descriptors := state.descriptors.erase descriptor }

/-- Makes a descriptor the same as another. It no longer leads to where it did when it turns out
that there is no other, unless it has not been saved. -/
def copy (saved : Bool) (descriptor other : Nat) : Run Bool := do
  if descriptor = other then return true
  else
    match (← get).descriptors.find? other with
    | some stream => lead descriptor stream
    | none =>
        if saved then close descriptor
        Run.complain (Text.decimal other ++ ": Bad file descriptor".toList)
        return false

/-- Why a file could not be opened. -/
def reason (creating : Bool) (errno : Errno) : String :=
  if errno == .noEntry || errno == .notDirectory then
    if creating then "Directory nonexistent" else "No such file"
  else errno.text

def openFile (descriptor : Nat) (path : Chars) (flags : File.OpenFlags) : Run Bool := do
  let state ← get
  let refuse (errno : Errno) : Run Bool := do
    let attempted := if flags.create then "cannot create " else "cannot open "
    Run.complain (attempted.toList ++ path ++ ": ".toList ++ (reason flags.create errno).toList)
    return false
  match descriptorNames.lookup (String.ofList path) with
  | some other =>
      match state.descriptors.find? other with
      | some stream => lead descriptor stream
      | none => refuse .noEntry
  | none =>
      match state.space.openAt .workingDirectory (Chars.toBytes path) flags 0o666 with
      | .ok (handle, space) =>
          set { state with space := space }
          lead descriptor (.file handle)
      | .error errno => refuse errno

/-- Does what one redirection asks for, and tells whether it could. -/
def perform (substitute : Substitute) (saved : Bool) (redirected : Redirected) : Run Bool := do
  let ⟨descriptor, kind, target⟩ := redirected
  match kind with
  | .input => openFile descriptor target {}
  | .output => openFile descriptor target { access := .write, create := true, truncate := true }
  | .append => openFile descriptor target { access := .write, create := true, append := true }
  | .both => openFile descriptor target { access := .readWrite, create := true }
  | .copy =>
      if target == ['-'] then
        close descriptor
        return true
      else copy saved descriptor (Text.ofDigits 10 (target.filterMap Text.digitValue?))
  | .document document =>
      let word := ((← get).documents.lookup document).getD []
      match ← Run.attempt (Expansion.textAsIs substitute word) with
      | .error .mistake => return false
      | .error stop => throw stop
      | .ok text =>
          let state ← get
          let number := state.nextText
          set { state with nextText := number + 1, texts := state.texts.put number text }
          lead descriptor (.given number)

/-- Does what redirections ask for, up to the first that fails. -/
def performAll (substitute : Substitute) (saved : Bool) : List Redirected → Run Bool
  | [] => return true
  | redirected :: rest => do
      if ← perform substitute saved redirected then performAll substitute saved rest
      else
        Run.setStatus 2
        return false

end Redirected

end Confinement.Shell
