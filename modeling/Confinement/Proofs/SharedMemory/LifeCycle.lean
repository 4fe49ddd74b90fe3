import Confinement.Proofs.SharedMemory.Segments
import Confinement.Proofs.SharedMemory.Views

/-!
Lives of segments and of views together. A segment that was removed exists until its last view is
given back, in whatever order these come; until then the views can be used. Main statement:
`segments_live_by_views`.
-/

namespace Confinement.SharedMemory

/-- What holds between operations. -/
structure Settled (past : Past) (process : Process) : Prop where
  owned : Owned process
  tracked : Tracked past process
  known : Known past process

theorem Settled.step {past : Past} {process : Process} (state : Settled past process)
    (operation : Operation) :
    Settled (past ++ [(operation, (step process operation).1)]) (step process operation).2 :=
  ⟨state.owned.step operation, state.tracked.step state.owned operation,
    state.known.step state.owned operation⟩

theorem settled_start (refusals : List (Option Errno)) : Settled [] (.start refusals) :=
  ⟨owned_start refusals, tracked_start refusals, known_start refusals⟩

theorem settled_final (refusals : List (Option Errno)) (operations : List Operation) :
    Settled (transcript step (.start refusals) operations)
      (final step (.start refusals) operations) :=
  transcript_invariant Settled (settled_start refusals) fun _ _ operation state =>
    state.step operation

namespace Owned

variable {process : Process} (owned : Owned process)

include owned

theorem isSome_mapping?_iff {pointer : Nat} :
    (process.memory.mapping? pointer).isSome = true ↔
      ∃ holding ∈ process.held, holding.view.pointer = pointer := by
  constructor
  · intro mapped
    obtain ⟨mapping, found⟩ := Option.isSome_iff_exists.mp mapped
    exact (owned.inHand pointer mapping found).2
  · rintro ⟨holding, member, rfl⟩
    obtain ⟨address, mapped⟩ := owned.mapped holding member
    exact Option.isSome_iff_exists.mpr ⟨_, mapped⟩

/-- A failed attachment leaves every segment as it was. -/
theorem attach_refused {id : Int} {address : Nat} {readOnly : Bool} {errno : Errno}
    (refused : (SharedMemory.step process (.attach id address readOnly)).1 = .refused errno) :
    (SharedMemory.step process (.attach id address readOnly)).2.held = process.held ∧
      ∀ other, (SharedMemory.step process (.attach id address readOnly)).2.memory.find? other =
        process.memory.find? other := by
  have effect := owned.effect (.attach id address readOnly)
  rw [refused] at effect
  generalize (SharedMemory.step process (.attach id address readOnly)).2 = next at effect ⊢
  cases effect with
  | nothing _ => exact ⟨rfl, fun _ => rfl⟩
  | @undone _ _ _ _ _ refusals _ => exact ⟨rfl, (owned.aside refusals _).find?_undone _⟩

theorem step_detach {holding : Holding} (member : holding ∈ process.held) :
    (SharedMemory.step process (.detach holding)).1 = .done := by
  obtain ⟨address, mapped⟩ := owned.mapped holding member
  simp only [SharedMemory.step, if_pos member, detach, unmap, mapped]

theorem step_read {holding : Holding} (member : holding ∈ process.held) (offset length : Nat) :
    ∃ segment, process.memory.find? holding.id = some segment ∧
      (SharedMemory.step process (.read holding offset length)).1 =
        if offset + length ≤ holding.view.length then
          .bytes ((List.range' offset length).map segment.byte)
        else .unusable .outside := by
  obtain ⟨address, mapped⟩ := owned.mapped holding member
  obtain ⟨segment, found, _⟩ := owned.present holding member
  refine ⟨segment, found, ?_⟩
  simp only [SharedMemory.step, if_pos member, read, mapped, Option.bind_some, found]
  by_cases inside : offset + length ≤ holding.view.length
  · rw [if_pos inside, if_neg (Nat.not_lt.mpr inside)]
  · rw [if_neg inside, if_pos (Nat.not_le.mp inside)]

theorem step_write {holding : Holding} (member : holding ∈ process.held) (offset : Nat)
    (data : Bytes) :
    (SharedMemory.step process (.write holding offset data)).1 =
      if holding.view.writable = false then .unusable .readOnly
      else if offset + data.length ≤ holding.view.length then .done else .unusable .outside := by
  obtain ⟨address, mapped⟩ := owned.mapped holding member
  cases writable : holding.view.writable with
  | false => simp [SharedMemory.step, member, write, writable]
  | true =>
      by_cases inside : offset + data.length ≤ holding.view.length
      · simp [SharedMemory.step, member, write, writable, mapped, inside, Nat.not_lt.mpr inside]
      · simp [SharedMemory.step, member, write, writable, mapped, inside, Nat.not_le.mp inside]

end Owned

/-- The number of attachments that a kernel reports is the number it counts. -/
theorem attached_of_status {process : Process} {id : Int} {status : SegmentStatus}
    (told : (step process (.status id)).1 = .status status) :
    ∃ segment, process.memory.find? id = some segment ∧ status.attached = segment.attached := by
  obtain ⟨refusals, ⟨errno, refused⟩ | asked⟩ :=
    process.memory.ask_cases fun memory => (memory.inspect id, memory)
  · simp only [step, SharedMemory.status, refused] at told
    cases told
  · simp only [step, SharedMemory.status, asked] at told
    cases known : inspect { process.memory with refusals := refusals } id with
    | error errno =>
        rw [known] at told
        cases told
    | ok shown =>
        rw [known] at told
        cases told
        obtain ⟨segment, found, rfl⟩ := inspect_of_ok _ known
        exact ⟨segment, found, rfl⟩

theorem Settled.isSome_find?_iff {past : Past} {process : Process} (state : Settled past process)
    {id : Int} :
    (process.memory.find? id).isSome = true ↔
      IdentifiedIn past id ∧ (RemovedIn past id → 0 < process.viewsOf id) := by
  obtain ⟨owned, _, known⟩ := state
  constructor
  · intro exist
    obtain ⟨segment, found⟩ := Option.isSome_iff_exists.mp exist
    have flag : process.memory.removed? id = some segment.removed := by rw [removed?, found]; rfl
    refine ⟨known.identified id (by rw [flag]; exact Option.some_ne_none _), fun removed => ?_⟩
    obtain ⟨count, used⟩ := owned.counted id segment found
    exact count ▸ used ((known.flagged id _ flag).mpr removed)
  · rintro ⟨identified, used⟩
    cases found : process.memory.find? id with
    | some segment => rfl
    | none =>
        have removed := known.gone id identified (by rw [removed?, found]; rfl)
        obtain ⟨holding, member, rfl⟩ := viewsOf_pos_iff.mp (used removed)
        obtain ⟨segment, present, _⟩ := owned.present holding member
        rw [found] at present
        cases present

end Confinement.SharedMemory