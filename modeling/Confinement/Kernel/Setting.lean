import Confinement.Kernel.Dialogue

/-!
Kernel settings by name. A value of unknown size is read in two calls, one for the size and one for
the bytes; the size may change between them. A number is accepted only at its exact width.
-/

namespace Confinement.Kernel

/-- The bytes are no text. -/
def illegalSequence : Errno := ⟨86⟩

/-- The number of little-endian bytes. -/
def littleEndian : Bytes → Nat
  | [] => 0
  | byte :: bytes => byte.toNat + 256 * littleEndian bytes

/-- The size that a call without a buffer reports. -/
def Reply.size (reply : Reply) : Nat :=
  reply.length.getD reply.data.length

/-- A zeroed buffer of `room` bytes after the kernel has copied its data into it, as far as they
fit. -/
def Reply.buffer (reply : Reply) (room : Nat) : Bytes :=
  let copied := reply.data.take room
  copied ++ List.replicate (room - copied.length) 0

/-- The length that a call with a buffer reports, which may exceed the room. -/
def Reply.written (reply : Reply) (room : Nat) : Nat :=
  reply.length.getD (min room reply.data.length)

/-- The bytes of a setting. -/
def readSetting (name : Bytes) : Wrapper Bytes := fun session =>
  match cString name with
  | .error errno => (.error errno, session)
  | .ok name =>
      let (sizing, session) := session.ask (.readSetting name none)
      match sizing.check with
      | .error errno => (.error errno, session)
      | .ok () =>
          let room := sizing.size
          let (reading, session) := session.ask (.readSetting name (some room))
          match reading.check with
          | .error errno => (.error errno, session)
          | .ok () => (.ok ((reading.buffer room).take (reading.written room)), session)

/-- A setting of eight bytes, read in one call. -/
def readSetting64 (name : Bytes) : Wrapper Nat := fun session =>
  match cString name with
  | .error errno => (.error errno, session)
  | .ok name =>
      let (reading, session) := session.ask (.readSetting name (some 8))
      match reading.check with
      | .error errno => (.error errno, session)
      | .ok () =>
          if reading.written 8 = 8 then (.ok (littleEndian (reading.buffer 8)), session)
          else (.error .inputOutput, session)

/-- A setting of four bytes. -/
def readSetting32 (name : Bytes) : Wrapper Nat := fun session =>
  match readSetting name session with
  | (.error errno, session) => (.error errno, session)
  | (.ok bytes, session) =>
      if bytes.length = 4 then (.ok (littleEndian bytes), session)
      else (.error .inputOutput, session)

/-- Bytes without the NUL bytes at their end. -/
def dropTrailingNul (bytes : Bytes) : Bytes :=
  (bytes.reverse.dropWhile (· == 0)).reverse

/-- A setting that is text, padded with NUL bytes. -/
def readSettingText (name : Bytes) : Wrapper (List Char) := fun session =>
  match readSetting name session with
  | (.error errno, session) => (.error errno, session)
  | (.ok bytes, session) =>
      match Text.decodeUtf8? (dropTrailingNul bytes) with
      | some text => (.ok text, session)
      | none => (.error illegalSequence, session)

end Confinement.Kernel
