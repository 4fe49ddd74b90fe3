import Confinement.Kernel.Dialogue

/-!
Copy-on-write clones of files, and space reserved ahead of writing. Paths are checked before the
call, the source first.
-/

namespace Confinement.Kernel

/-- Clone a symbolic link at the source itself. -/
def cloneNoFollow : Nat := 1

/-- Leave the ownership of the source behind. -/
def cloneNoOwnerCopy : Nat := 2

/-- Clones the file at `source` to `target`, which must not exist. -/
def cloneFile (source target : Bytes) (flags : Nat) : Wrapper Unit := fun session =>
  match cString source with
  | .error errno => (.error errno, session)
  | .ok source =>
      match cString target with
      | .error errno => (.error errno, session)
      | .ok target => perform (.cloneFile source target flags) session

/-- Clones with each path relative to a directory of its own. -/
def cloneFileAt (sourceDirectory : Int) (source : Bytes) (targetDirectory : Int) (target : Bytes)
    (flags : Nat) : Wrapper Unit := fun session =>
  match cString source with
  | .error errno => (.error errno, session)
  | .ok source =>
      match cString target with
      | .error errno => (.error errno, session)
      | .ok target =>
          perform (.cloneFileAt sourceDirectory source targetDirectory target flags) session

/-- Clones an open file. -/
def cloneOpenFileAt (source targetDirectory : Int) (target : Bytes) (flags : Nat) :
    Wrapper Unit := fun session =>
  match cString target with
  | .error errno => (.error errno, session)
  | .ok target => perform (.cloneOpenFileAt source targetDirectory target flags) session

/-- Sends a request for space. The kernel notes the space it found in the request, also when it
fails. -/
def preallocate (descriptor command : Int) (request : Preallocation) (session : Session) :
    Except Errno Unit × Preallocation × Session :=
  let (reply, session) := session.ask (.fileControl descriptor command request)
  (reply.check, { request with allocated := reply.allocated }, session)

end Confinement.Kernel
