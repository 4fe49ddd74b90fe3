import Confinement.Errno
import Confinement.Table
import Confinement.Text.Utf8

/-!
Shared memory segments and the views that a process attaches to them. The kernel counts how often a
segment is mapped; all mappings of it show the same bytes, as many as it was made with. A removed
segment gives up its key at once and its memory when it is mapped no more. A view is a mapping in
somebody's hands, who gives it back by detaching or dropping it. The process owns all segments, but
is bound by the permissions that they were made with.
-/

namespace Confinement

/-- A segment of memory as the kernel keeps it. -/
structure Segment where
  /-- Absent for a private or removed segment. -/
  key : Option Nat
  permissions : Nat
  size : Nat
  /-- What was written and at which offset, the latest first. -/
  writes : List (Nat × Bytes) := []
  attached : Nat := 0
  removed : Bool := false
deriving DecidableEq, Repr

namespace Segment

/-- The byte at an offset: the one that was written there last, or zero. -/
def byte (segment : Segment) (offset : Nat) : UInt8 :=
  (segment.writes.findSome? fun write =>
    if write.1 ≤ offset then write.2[offset - write.1]? else none).getD 0

def write (segment : Segment) (offset : Nat) (data : Bytes) : Segment :=
  { segment with writes := (offset, data) :: segment.writes }

/-- Permissions as the owner has them: 4 to read, 2 to write. -/
def ownerMay (segment : Segment) (wanted : Nat) : Bool :=
  wanted &&& (7 ^^^ (segment.permissions / 64 &&& 7)) == 0

end Segment

/-- A place in the process where a segment is mapped. -/
structure Mapping where
  segment : Int
  /-- The address that was asked for, or zero if none was. -/
  address : Nat
  length : Nat
deriving DecidableEq, Repr

/-- An attached view of a segment. -/
structure View where
  /-- Where the view is mapped: a number that stands for the address. -/
  pointer : Nat
  length : Nat
  writable : Bool
deriving DecidableEq, Repr

/-- Segments by identifier and mappings by pointer. -/
structure SharedMemory where
  segments : Table Int Segment := {}
  mappings : Table Nat Mapping := {}
  nextSegment : Nat := 0
  /-- The pointer that was given out last. None is given out twice, and zero never. -/
  lastPointer : Nat := 0
  /-- What the kernel says to its next calls for reasons that lie outside, such as limits: an error
  number where it turns a call down. -/
  refusals : List (Option Errno) := []
  /-- Every pointer that the kernel was told to unmap, the latest first. -/
  unmapped : List Nat := []
deriving DecidableEq, Repr, Inhabited

/-- What a caller asks for beside a key and a size. -/
structure SegmentRequest where
  create : Bool
  exclusive : Bool
  hugePages : Bool := false
  /-- Whether the segment may be larger than the memory there is, as long as nobody fills it. -/
  unreserved : Bool := false
  permissions : Nat
deriving DecidableEq, Repr

namespace SegmentRequest

def createFlag : Nat := 0o1000
def exclusiveFlag : Nat := 0o2000
def hugePagesFlag : Nat := 0o4000
def unreservedFlag : Nat := 0o10000

/-- A request as one word: flags above nine permission bits. -/
def ofBits (bits : Nat) : SegmentRequest where
  create := bits &&& createFlag != 0
  exclusive := bits &&& exclusiveFlag != 0
  hugePages := bits &&& hugePagesFlag != 0
  unreserved := bits &&& unreservedFlag != 0
  permissions := bits &&& 0o777

/-- Permissions that are asked for, for whomever: 4 to read, 2 to write, 1 without meaning. -/
def wanted (request : SegmentRequest) : Nat :=
  (request.permissions ||| request.permissions / 8 ||| request.permissions / 64) &&& 7

end SegmentRequest

/-- Why a view cannot be read or written. -/
inductive ViewError where
  /-- There is no such view any more. -/
  | absent
  | readOnly
  | outside
deriving DecidableEq, Repr

namespace SharedMemory

/-- Addresses of views are whole pages. -/
def pageSize : Nat := 4096

/-- The largest size that may be asked for, and the largest that can be had. -/
def maxRequest : Nat := 0xfffffffffeffffff
def maxSize : Nat := 0x7fffffffffffffff

/-- The memory there is for one segment. -/
def available : Nat := 0x400000000

/-- The end of the addresses that a process can use, and of those that it can name. -/
def addressLimit : Nat := 0x7ffffffff000
def addressSpace : Nat := 0x10000000000000000

/-- A length in whole pages. -/
def paged (length : Nat) : Nat :=
  (length + (pageSize - 1)) / pageSize * pageSize

def find? (memory : SharedMemory) (id : Int) : Option Segment :=
  memory.segments.find? id

def mapping? (memory : SharedMemory) (pointer : Nat) : Option Mapping :=
  memory.mappings.find? pointer

/-- The segment that a key stands for, with its identifier. -/
def ofKey? (memory : SharedMemory) (key : Nat) : Option (Int × Segment) :=
  memory.segments.entries.find? (·.2.key == some key)

/-- Replaces the segment of an identifier by what `change` makes of it, possibly nothing. -/
def update (memory : SharedMemory) (id : Int) (change : Segment → Option Segment) : SharedMemory :=
  { memory with segments := memory.segments.alter id change }

/-- A removed segment that is mapped nowhere ceases to exist. -/
def settled (segment : Segment) : Option Segment :=
  if segment.removed && segment.attached == 0 then none else some segment

/-- Makes a call to the kernel, unless it turns the call down beforehand. -/
def ask {α : Type} (memory : SharedMemory)
    (call : SharedMemory → Except Errno α × SharedMemory) : Except Errno α × SharedMemory :=
  match memory.refusals with
  | [] => call memory
  | none :: refusals => call { memory with refusals := refusals }
  | some errno :: refusals => (.error errno, { memory with refusals := refusals })

/-- Keeps a segment more, under the next identifier. -/
def addSegment (memory : SharedMemory) (segment : Segment) : SharedMemory :=
  { memory with
    segments := memory.segments.put memory.nextSegment segment
    nextSegment := memory.nextSegment + 1 }

def createSegment (memory : SharedMemory) (key : Option Nat) (size : Nat)
    (request : SegmentRequest) : Except Errno Int × SharedMemory :=
  if size = 0 ∨ maxRequest < size then (.error .invalid, memory)
  else if request.hugePages then (.error .notPermitted, memory)
  else if maxSize < size then (.error .invalid, memory)
  else if !request.unreserved && available < size then (.error .noMemory, memory)
  else
    (.ok memory.nextSegment,
      memory.addSegment { key := key, permissions := request.permissions, size := size })

/-- The identifier of the segment for a key, which is made if the caller asks for it. Without a key
the segment is always new. A segment that exists may be asked for with any size up to its own and
with permissions that its owner has. -/
def findOrCreate (memory : SharedMemory) (key : Option Nat) (size : Nat)
    (request : SegmentRequest) : Except Errno Int × SharedMemory :=
  match key with
  | none => memory.createSegment none size request
  | some name =>
      match memory.ofKey? name with
      | none =>
          if request.create then memory.createSegment key size request
          else (.error .noEntry, memory)
      | some (id, segment) =>
          if request.create && request.exclusive then (.error .alreadyExists, memory)
          else if segment.size < size then (.error .invalid, memory)
          else if !segment.ownerMay request.wanted then (.error .accessDenied, memory)
          else (.ok id, memory)

def get (memory : SharedMemory) (key : Option Nat) (size : Nat) (request : SegmentRequest) :
    Except Errno Int × SharedMemory :=
  memory.ask (·.findOrCreate key size request)

/-- Whether pages from an address on are taken by a mapping that was put at an address of its own. -/
def isTaken (memory : SharedMemory) (address length : Nat) : Bool :=
  memory.mappings.entries.any fun entry =>
    entry.2.address != 0 && address < entry.2.address + paged entry.2.length &&
      entry.2.address < address + length

/-- Why a mapping of some length cannot be put at an address, if it cannot. Where there is room for
address zero is left open. -/
def misplaced? (memory : SharedMemory) (address length : Nat) : Option Errno :=
  if address = 0 then none
  else if addressSpace ≤ address + length ∨ memory.isTaken address length then some .invalid
  else if addressLimit < address + paged length then some .noMemory
  else none

/-- Counts a mapping more, under the next pointer. -/
def addMapping (memory : SharedMemory) (mapping : Mapping) : SharedMemory :=
  let counted := memory.update mapping.segment fun segment =>
    some { segment with attached := segment.attached + 1 }
  { counted with
    mappings := memory.mappings.put (memory.lastPointer + 1) mapping
    lastPointer := memory.lastPointer + 1 }

/-- Counts a mapping less. -/
def removeMapping (memory : SharedMemory) (pointer : Nat) (mapping : Mapping) : SharedMemory :=
  let counted := memory.update mapping.segment fun segment =>
    settled { segment with attached := segment.attached - 1 }
  { counted with mappings := memory.mappings.erase pointer }

/-- Maps a segment at an address, or wherever there is room for address zero. -/
def mapAt (memory : SharedMemory) (id : Int) (address : Nat) (readOnly : Bool) :
    Except Errno Nat × SharedMemory :=
  match memory.find? id with
  | none => (.error .invalid, memory)
  | some segment =>
      if address % pageSize ≠ 0 then (.error .invalid, memory)
      else if !segment.ownerMay (if readOnly then 4 else 6) then (.error .accessDenied, memory)
      else
        match memory.misplaced? address segment.size with
        | some errno => (.error errno, memory)
        | none => (.ok (memory.lastPointer + 1), memory.addMapping ⟨id, address, segment.size⟩)

def map (memory : SharedMemory) (id : Int) (address : Nat) (readOnly : Bool) :
    Except Errno Nat × SharedMemory :=
  memory.ask (·.mapAt id address readOnly)

/-- Undoes a mapping. -/
def unmap (memory : SharedMemory) (pointer : Nat) : Except Errno Unit × SharedMemory :=
  let told := { memory with unmapped := pointer :: memory.unmapped }
  match memory.mapping? pointer with
  | none => (.error .invalid, told)
  | some mapping => (.ok (), told.removeMapping pointer mapping)

structure SegmentStatus where
  size : Nat
  attached : Nat
  permissions : Nat
deriving DecidableEq, Repr

/-- What its owner may know of a segment that may be read. -/
def inspect (memory : SharedMemory) (id : Int) : Except Errno SegmentStatus :=
  match memory.find? id with
  | none => .error .invalid
  | some segment =>
      if segment.ownerMay 4 then .ok ⟨segment.size, segment.attached, segment.permissions⟩
      else .error .accessDenied

def status (memory : SharedMemory) (id : Int) : Except Errno SegmentStatus × SharedMemory :=
  memory.ask fun memory => (memory.inspect id, memory)

/-- Removes a segment, now or with its last mapping. -/
def discard (memory : SharedMemory) (id : Int) : Except Errno Unit × SharedMemory :=
  match memory.find? id with
  | none => (.error .invalid, memory)
  | some _ =>
      (.ok (), memory.update id fun segment => settled { segment with key := none, removed := true })

def remove (memory : SharedMemory) (id : Int) : Except Errno Unit × SharedMemory :=
  memory.ask (·.discard id)

/-- Attaches a view to a segment, as long as the kernel says that the segment is. A segment that was
mapped but cannot be looked at is unmapped again. -/
def attach (memory : SharedMemory) (id : Int) (address : Nat) (readOnly : Bool) :
    Except Errno View × SharedMemory :=
  match memory.map id address readOnly with
  | (.error errno, memory) => (.error errno, memory)
  | (.ok pointer, memory) =>
      if pointer = 0 then (.error .invalid, memory)
      else
        match memory.status id with
        | (.error errno, memory) => (.error errno, (memory.unmap pointer).2)
        | (.ok status, memory) => (.ok ⟨pointer, status.size, !readOnly⟩, memory)

/-- Gives a view back and tells how that went. -/
def detach (memory : SharedMemory) (view : View) : Except Errno Unit × SharedMemory :=
  memory.unmap view.pointer

/-- Gives a view back. Unlike after `detach`, nobody hears how that went. -/
def drop (memory : SharedMemory) (view : View) : SharedMemory :=
  (memory.unmap view.pointer).2

/-- Bytes that a view shows. -/
def read (memory : SharedMemory) (view : View) (offset length : Nat) : Except ViewError Bytes :=
  match (memory.mapping? view.pointer).bind (memory.find? ·.segment) with
  | none => .error .absent
  | some segment =>
      if view.length < offset + length then .error .outside
      else .ok ((List.range' offset length).map segment.byte)

/-- Writes through a view; a view for reading gives no way to. -/
def write (memory : SharedMemory) (view : View) (offset : Nat) (data : Bytes) :
    Except ViewError SharedMemory :=
  if !view.writable then .error .readOnly
  else
    match memory.mapping? view.pointer with
    | none => .error .absent
    | some mapping =>
        if view.length < offset + data.length then .error .outside
        else .ok (memory.update mapping.segment fun segment => some (segment.write offset data))

/-- Whether segments can be had at all: makes a small one and removes it again. -/
def probe (memory : SharedMemory) : Except Errno Nat × SharedMemory :=
  match memory.get none 1 { create := true, exclusive := false, permissions := 0o600 } with
  | (.error errno, memory) => (.error errno, memory)
  | (.ok id, memory) => (.ok id.toNat, (memory.remove id).2)

theorem settled_eq_some_iff {segment after : Segment} :
    settled segment = some after ↔
      after = segment ∧ (segment.removed = true → 0 < segment.attached) := by
  unfold settled
  cases segment.removed with
  | false => simp [eq_comm]
  | true =>
      cases segment.attached with
      | zero => simp
      | succ count => simp [eq_comm]

theorem find?_update (memory : SharedMemory) (id other : Int)
    (change : Segment → Option Segment) :
    (memory.update id change).find? other =
      if other = id then (memory.find? id).bind change else memory.find? other := by
  by_cases same : other = id
  · rw [if_pos same, same]
    exact Table.find?_alter_self memory.segments id change
  · rw [if_neg same]
    exact Table.find?_alter_ne memory.segments change same

theorem find?_addSegment (memory : SharedMemory) (segment : Segment) (id : Int) :
    (memory.addSegment segment).find? id =
      if id = memory.nextSegment then some segment else memory.find? id := by
  split
  · next same => rw [same]; exact Table.find?_put_self ..
  · next different => exact Table.find?_put_ne _ _ different

theorem find?_addMapping (memory : SharedMemory) (mapping : Mapping) (id : Int) :
    (memory.addMapping mapping).find? id =
      if id = mapping.segment then
        (memory.find? id).map fun segment => { segment with attached := segment.attached + 1 }
      else memory.find? id := by
  refine (find?_update memory mapping.segment id _).trans ?_
  split
  · next same => rw [same, Option.map_eq_bind]; rfl
  · rfl

theorem mapping?_addMapping (memory : SharedMemory) (mapping : Mapping) (pointer : Nat) :
    (memory.addMapping mapping).mapping? pointer =
      if pointer = memory.lastPointer + 1 then some mapping else memory.mapping? pointer := by
  split
  · next same => rw [same]; exact Table.find?_put_self ..
  · next different => exact Table.find?_put_ne _ _ different

theorem find?_removeMapping (memory : SharedMemory) (pointer : Nat) (mapping : Mapping) (id : Int) :
    (memory.removeMapping pointer mapping).find? id =
      if id = mapping.segment then
        (memory.find? id).bind fun segment =>
          settled { segment with attached := segment.attached - 1 }
      else memory.find? id := by
  refine (find?_update memory mapping.segment id _).trans ?_
  split
  · next same => rw [same]
  · rfl

theorem mapping?_removeMapping (memory : SharedMemory) (pointer : Nat) (mapping : Mapping)
    (other : Nat) :
    (memory.removeMapping pointer mapping).mapping? other =
      if other = pointer then none else memory.mapping? other := by
  split
  · next same => rw [same]; exact Table.find?_erase_self ..
  · next different => exact Table.find?_erase_ne _ different

end SharedMemory

end Confinement
