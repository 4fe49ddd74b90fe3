import Confinement.Proofs.History
import Confinement.Proofs.SharedMemory.Calls

/-!
Runs of a process that makes segments, attaches views to them, uses these and gives them back. It
can use and give back the views that it holds and no others. What an operation can do is said once,
in `Effect`.
-/

namespace Confinement.SharedMemory

/-- A view with the identifier that it was attached by. -/
structure Holding where
  id : Int
  view : View
deriving DecidableEq, Repr

structure Process where
  memory : SharedMemory
  /-- The views that the process has and has not given back. -/
  held : List Holding := []
deriving DecidableEq, Repr

/-- A process without segments, under a kernel that will turn down these of its calls. -/
def Process.start (refusals : List (Option Errno)) : Process where
  memory := { refusals := refusals }

/-- How many views a process holds that were attached to a segment. -/
def Process.viewsOf (process : Process) (id : Int) : Nat :=
  process.held.countP (·.id == id)

inductive Operation where
  | get (key : Option Nat) (size : Nat) (request : SegmentRequest)
  | attach (id : Int) (address : Nat) (readOnly : Bool)
  | detach (holding : Holding)
  | drop (holding : Holding)
  | remove (id : Int)
  | status (id : Int)
  | read (holding : Holding) (offset length : Nat)
  | write (holding : Holding) (offset : Nat) (data : Bytes)
deriving DecidableEq, Repr

inductive Answer where
  | done
  | identifier (id : Int)
  | view (view : View)
  | status (status : SegmentStatus)
  | bytes (data : Bytes)
  | refused (errno : Errno)
  | unusable (reason : ViewError)
  /-- The process has no such view, so the operation was not even tried. -/
  | notHeld
deriving DecidableEq, Repr

/-- Whether an answer reports something and nothing was changed. -/
def Answer.isReport : Answer → Bool
  | .status _ | .bytes _ | .refused _ | .unusable _ | .notHeld => true
  | .done | .identifier _ | .view _ => false

/-- The answer to an operation and the process after it. A view that is given back is not held any
more, whatever the kernel says. -/
def step (process : Process) : Operation → Answer × Process
  | .get key size request =>
      match process.memory.get key size request with
      | (.error errno, memory) => (.refused errno, ⟨memory, process.held⟩)
      | (.ok id, memory) => (.identifier id, ⟨memory, process.held⟩)
  | .attach id address readOnly =>
      match process.memory.attach id address readOnly with
      | (.error errno, memory) => (.refused errno, ⟨memory, process.held⟩)
      | (.ok view, memory) => (.view view, ⟨memory, ⟨id, view⟩ :: process.held⟩)
  | .detach holding =>
      if holding ∈ process.held then
        match process.memory.detach holding.view with
        | (.error errno, memory) => (.refused errno, ⟨memory, process.held.erase holding⟩)
        | (.ok (), memory) => (.done, ⟨memory, process.held.erase holding⟩)
      else (.notHeld, process)
  | .drop holding =>
      if holding ∈ process.held then
        (.done, ⟨process.memory.drop holding.view, process.held.erase holding⟩)
      else (.notHeld, process)
  | .remove id =>
      match process.memory.remove id with
      | (.error errno, memory) => (.refused errno, ⟨memory, process.held⟩)
      | (.ok (), memory) => (.done, ⟨memory, process.held⟩)
  | .status id =>
      match process.memory.status id with
      | (.error errno, memory) => (.refused errno, ⟨memory, process.held⟩)
      | (.ok status, memory) => (.status status, ⟨memory, process.held⟩)
  | .read holding offset length =>
      if holding ∈ process.held then
        match process.memory.read holding.view offset length with
        | .error reason => (.unusable reason, process)
        | .ok data => (.bytes data, process)
      else (.notHeld, process)
  | .write holding offset data =>
      if holding ∈ process.held then
        match process.memory.write holding.view offset data with
        | .error reason => (.unusable reason, process)
        | .ok memory => (.done, ⟨memory, process.held⟩)
      else (.notHeld, process)

/-- The operations of a run with the answers they got. -/
abbrev Past := List (Operation × Answer)

/-! What an operation can do. -/

/-- The effects that an operation can have, with the answers that go with them. -/
inductive Effect (process : Process) : Operation → Answer → Process → Prop where
  | nothing {operation : Operation} {answer : Answer} {refusals : List (Option Errno)}
      (report : answer.isReport = true) :
      Effect process operation answer
        ⟨{ process.memory with refusals := refusals }, process.held⟩
  | found {key : Option Nat} {size : Nat} {request : SegmentRequest} {id : Int}
      {refusals : List (Option Errno)} (present : (process.memory.find? id).isSome = true) :
      Effect process (.get key size request) (.identifier id)
        ⟨{ process.memory with refusals := refusals }, process.held⟩
  | created {key : Option Nat} {size : Nat} {request : SegmentRequest}
      {refusals : List (Option Errno)} :
      Effect process (.get key size request) (.identifier process.memory.nextSegment)
        ⟨{ process.memory with refusals := refusals }.addSegment
          { key := key, permissions := request.permissions, size := size }, process.held⟩
  | attached {id : Int} {address : Nat} {readOnly : Bool} {segment : Segment}
      {refusals : List (Option Errno)} (present : process.memory.find? id = some segment) :
      Effect process (.attach id address readOnly)
        (.view ⟨process.memory.lastPointer + 1, segment.size, !readOnly⟩)
        ⟨{ process.memory with refusals := refusals }.addMapping ⟨id, address, segment.size⟩,
          ⟨id, ⟨process.memory.lastPointer + 1, segment.size, !readOnly⟩⟩ :: process.held⟩
  | undone {id : Int} {address : Nat} {readOnly : Bool} {segment : Segment} {errno : Errno}
      {refusals : List (Option Errno)} (present : process.memory.find? id = some segment) :
      Effect process (.attach id address readOnly) (.refused errno)
        ⟨{ process.memory with refusals := refusals }.undone ⟨id, address, segment.size⟩,
          process.held⟩
  | returned {operation : Operation} {holding : Holding} {mapping : Mapping}
      (given : operation = .detach holding ∨ operation = .drop holding)
      (member : holding ∈ process.held)
      (mapped : process.memory.mapping? holding.view.pointer = some mapping) :
      Effect process operation .done
        ⟨{ process.memory with
            unmapped := holding.view.pointer :: process.memory.unmapped
          }.removeMapping holding.view.pointer mapping, process.held.erase holding⟩
  | removed {id : Int} {segment : Segment} {refusals : List (Option Errno)}
      (present : process.memory.find? id = some segment) :
      Effect process (.remove id) .done
        ⟨{ process.memory with refusals := refusals }.update id fun segment =>
          settled { segment with key := none, removed := true }, process.held⟩
  | written {holding : Holding} {offset : Nat} {data : Bytes} {mapping : Mapping}
      (member : holding ∈ process.held) (writable : holding.view.writable = true)
      (mapped : process.memory.mapping? holding.view.pointer = some mapping)
      (inside : offset + data.length ≤ holding.view.length) :
      Effect process (.write holding offset data) .done
        ⟨process.memory.update mapping.segment fun segment => some (segment.write offset data),
          process.held⟩

end Confinement.SharedMemory
