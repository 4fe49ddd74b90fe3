import Confinement.Errno
import Confinement.Harness.Registry

/-!
Why the run of a proc counts as failed.
-/

namespace Confinement.Harness

inductive Error where
  | unknownProc (name : String)
  | executable (cause : IoError)
  | marker (cause : IoError)
  | spawn (name : String) (cause : IoError)
  | wait (name : String) (cause : IoError)
  | wrongOutcome (name : String) (expected : Expectation) (status : WaitStatus)
  | notDispatched (name : String) (status : WaitStatus)
  | timeout (name : String) (limit : Duration)
deriving DecidableEq, Repr

namespace Error

def message : Error → String
  | .unknownProc name => UnknownProc.message ⟨name⟩
  | .executable cause => "locate test executable: " ++ cause.message
  | .marker cause => "dispatch marker: " ++ cause.message
  | .spawn name cause => "spawn " ++ name ++ ": " ++ cause.message
  | .wait name cause => "wait for " ++ name ++ ": " ++ cause.message
  | .wrongOutcome name expected status =>
      "process " ++ name ++ " did not " ++ expected.text ++ " when it was supposed to (" ++
        status.text ++ ")"
  | .notDispatched name status =>
      "process " ++ name ++ " exited (" ++ status.text ++ ") without running its body"
  | .timeout name limit =>
      "process " ++ name ++ " still running after " ++ limit.text ++ ", killed"

/-- The failure behind an error, where it is kept apart from the message. -/
def source? : Error → Option IoError
  | .spawn _ cause => some cause
  | .wait _ cause => some cause
  | _ => none

end Error

end Confinement.Harness
