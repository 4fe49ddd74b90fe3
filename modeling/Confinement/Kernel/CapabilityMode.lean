import Confinement.Kernel.Dialogue

/-!
Capability mode and the rights of descriptors. The rights of a descriptor are handed to the kernel
and taken from it as they are; whether they are valid is the kernel's to say.
-/

namespace Confinement.Kernel

/-- The descriptor lacks a right the call needs. -/
def notCapable : Errno := ⟨93⟩

/-- The call is not permitted in capability mode. -/
def capabilityMode : Errno := ⟨94⟩

/-- The version of rights set that the kernel is asked for. -/
def rightsVersion : Nat := 0

/-- Enters capability mode for good. -/
def enterCapabilityMode : Wrapper Unit :=
  perform .capEnter

/-- Whether the process is in capability mode. -/
def inCapabilityMode : Wrapper Bool := fun session =>
  let (reply, session) := session.ask (.capGetMode 0)
  match reply.check with
  | .error errno => (.error errno, session)
  | .ok () => (.ok (reply.mode != 0), session)

/-- Limits a descriptor to the given rights. -/
def limitRights (descriptor : Int) (rights : RightsSet) : Wrapper Unit :=
  perform (.capRightsLimit descriptor rights)

/-- The rights of a descriptor. The kernel fills in a set that starts out empty. -/
def rightsOf (descriptor : Int) : Wrapper RightsSet := fun session =>
  let (reply, session) := session.ask (.capRightsGet rightsVersion descriptor .empty)
  match reply.check with
  | .error errno => (.error errno, session)
  | .ok () => (.ok (reply.rights.getD .empty), session)

end Confinement.Kernel
