import Confinement.Errno

/-!
How a body judges its own steps. A judgement that goes against the body is the text it fails with.
-/

namespace Confinement.Harness

/-- The value of a step that worked, or the text that names the step that broke. -/
def checked {α : Type} (result : Except Errno α) (what : String) : Except String α :=
  match result with
  | .ok value => .ok value
  | .error errno => .error (what ++ ": " ++ errno.message)

/-- Asks that a step fail with one error number. -/
def expectErrno {α : Type} (result : Except IoError α) (wanted : Errno) (what : String) :
    Except String Unit :=
  match result with
  | .ok _ => .error (what ++ ": succeeded, wanted " ++ wanted.message)
  | .error cause =>
      if cause.errno? = some wanted then .ok ()
      else .error (what ++ ": got " ++ cause.message ++ ", wanted " ++ wanted.message)

end Confinement.Harness
