import Confinement.Errno
import Confinement.Rights.Set
import Confinement.Text.Utf8

/-!
The dialogue with a kernel: calls with their arguments on one side and replies on the other. A
kernel here is any list of replies, which its calls use up in order, so that what a wrapper asks
can be told from what it makes of the answer.
-/

namespace Confinement.Kernel

/-- What a kernel hands back. A negative value means failure for the reason `errno`; the other
fields are what it stores through the pointers of a call. -/
structure Reply where
  value : Int := 0
  errno : Errno := ⟨0⟩
  mode : Nat := 0
  rights : Option RightsSet := none
  data : Bytes := []
  length : Option Nat := none
  allocated : Int := 0
deriving DecidableEq, Repr, Inhabited

/-- A request for space in a file. -/
structure Preallocation where
  flags : Nat
  position : Int
  offset : Int
  length : Int
  allocated : Int
deriving DecidableEq, Repr

inductive Call where
  | capEnter
  /-- Carries the mode as it is before the kernel stores its own. -/
  | capGetMode (initial : Nat)
  | capRightsLimit (descriptor : Int) (rights : RightsSet)
  | capRightsGet (version : Nat) (descriptor : Int) (rights : RightsSet)
  | cloneFile (source target : Bytes) (flags : Nat)
  | cloneFileAt (sourceDirectory : Int) (source : Bytes) (targetDirectory : Int) (target : Bytes)
      (flags : Nat)
  | cloneOpenFileAt (source targetDirectory : Int) (target : Bytes) (flags : Nat)
  | fileControl (descriptor command : Int) (request : Preallocation)
  /-- A null buffer asks for the size alone. -/
  | readSetting (name : Bytes) (room : Option Nat)
deriving DecidableEq, Repr

/-- The replies still to come and the calls made so far. -/
structure Session where
  replies : List Reply
  calls : List Call := []
deriving DecidableEq, Repr

/-- A wrapper: a result or the error number it fails with, and the session after its calls. -/
abbrev Wrapper (α : Type) := Session → Except Errno α × Session

/-- Makes one call. A kernel that has run out of replies answers with an empty success. -/
def Session.ask (session : Session) (call : Call) : Reply × Session :=
  match session.replies with
  | [] => ({}, { session with calls := session.calls ++ [call] })
  | reply :: replies => (reply, ⟨replies, session.calls ++ [call]⟩)

/-- A call fails if and only if its value is negative. -/
def Reply.check (reply : Reply) : Except Errno Unit :=
  if reply.value < 0 then .error reply.errno else .ok ()

/-- A string the kernel can be given: without a NUL byte. -/
def cString (bytes : Bytes) : Except Errno Bytes :=
  if bytes.contains 0 then .error .invalid else .ok bytes

/-- Makes one call whose success says nothing more. -/
def perform (call : Call) : Wrapper Unit := fun session =>
  let (reply, session) := session.ask call
  (reply.check, session)

end Confinement.Kernel
