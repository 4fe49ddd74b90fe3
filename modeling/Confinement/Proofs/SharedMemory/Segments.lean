import Confinement.Proofs.SharedMemory.Ownership

/-!
The lives of segments. A segment exists from the time its identifier is handed out; it bears the
mark of a removal, and only a removed one ceases to exist. Main statement: `Known.step`.
-/

namespace Confinement.SharedMemory

def IdentifiedIn (past : Past) (id : Int) : Prop :=
  ∃ key size request, (.get key size request, .identifier id) ∈ past

def RemovedIn (past : Past) (id : Int) : Prop :=
  (.remove id, .done) ∈ past

section Append

variable {past : Past} {entry : Operation × Answer} {id : Int}

theorem identifiedIn_append :
    IdentifiedIn (past ++ [entry]) id ↔
      IdentifiedIn past id ∨ ∃ key size request, entry = (.get key size request, .identifier id) := by
  simp only [IdentifiedIn, List.mem_append, List.mem_singleton, exists_or, eq_comm (b := entry)]

theorem removedIn_append :
    RemovedIn (past ++ [entry]) id ↔ RemovedIn past id ∨ entry = (.remove id, .done) := by
  simp only [RemovedIn, List.mem_append, List.mem_singleton, eq_comm (b := entry)]

end Append

/-- Whether a segment was removed, if it exists. -/
def removed? (memory : SharedMemory) (id : Int) : Option Bool :=
  (memory.find? id).map (·.removed)

theorem removed?_addMapping (memory : SharedMemory) (mapping : Mapping) (id : Int) :
    (memory.addMapping mapping).removed? id = memory.removed? id := by
  rw [removed?, find?_addMapping]
  split
  · exact Option.map_map ..
  · rfl

/-- With its last mapping a segment goes if it was removed, and no other. -/
theorem removed?_removeMapping (memory : SharedMemory) (pointer : Nat) (mapping : Mapping)
    (id : Int) :
    (memory.removeMapping pointer mapping).removed? id = memory.removed? id ∨
      (memory.removeMapping pointer mapping).removed? id = none ∧
        memory.removed? id = some true := by
  rw [removed?, find?_removeMapping, removed?]
  split
  · cases memory.find? id with
    | none => exact .inl rfl
    | some segment =>
        rw [Option.bind_some]
        cases settlement : settled { segment with attached := segment.attached - 1 } with
        | some after =>
            left
            rw [(settled_eq_some_iff.mp settlement).1]
            rfl
        | none =>
            right
            refine ⟨rfl, congrArg some ?_⟩
            cases removed : segment.removed with
            | true => exact removed
            | false => simp [settled, removed] at settlement
  · exact .inl rfl

theorem removed?_write (memory : SharedMemory) (id other : Int) (offset : Nat) (data : Bytes) :
    (memory.update id fun segment => some (segment.write offset data)).removed? other =
      memory.removed? other := by
  rw [removed?, find?_write, Option.map_map, removed?]
  congr 1
  funext segment
  simp only [Function.comp_apply]
  split <;> rfl

/-- Segments exist and are marked as removed by the past. -/
structure Known (past : Past) (process : Process) : Prop where
  flagged : ∀ id flag, process.memory.removed? id = some flag → (flag = true ↔ RemovedIn past id)
  identified : ∀ id, process.memory.removed? id ≠ none → IdentifiedIn past id
  gone : ∀ id, IdentifiedIn past id → process.memory.removed? id = none → RemovedIn past id
  numbered : ∀ id, IdentifiedIn past id ∨ RemovedIn past id → id < process.memory.nextSegment

namespace Known

variable {past : Past} {process : Process} (known : Known past process)

include known

/-- Nothing changes for segments in an operation that neither makes one nor removes one. Those that
were removed may go. -/
theorem pass {entry : Operation × Answer} {next : Process}
    (notIdentified : ∀ id, IdentifiedIn (past ++ [entry]) id → IdentifiedIn past id)
    (notRemoved : ∀ id, entry ≠ (.remove id, .done))
    (segments : ∀ id, next.memory.removed? id = process.memory.removed? id ∨
      next.memory.removed? id = none ∧ process.memory.removed? id = some true)
    (nextSegment : next.memory.nextSegment = process.memory.nextSegment) :
    Known (past ++ [entry]) next := by
  have removed (id : Int) : RemovedIn (past ++ [entry]) id ↔ RemovedIn past id :=
    removedIn_append.trans (or_iff_left (notRemoved id))
  constructor
  case flagged =>
    intro id flag found
    rcases segments id with same | ⟨none, _⟩
    · rw [removed]
      exact known.flagged id flag (same.symm.trans found)
    · rw [none] at found
      cases found
  case identified =>
    intro id present
    rcases segments id with same | ⟨none, _⟩
    · exact identifiedIn_append.mpr (.inl (known.identified id (same ▸ present)))
    · exact absurd none present
  case gone =>
    intro id was absent
    rw [removed]
    rcases segments id with same | ⟨_, flagged⟩
    · exact known.gone id (notIdentified id was) (same.symm.trans absent)
    · exact (known.flagged id true flagged).mp rfl
  case numbered =>
    rintro id (was | was)
    · exact nextSegment ▸ known.numbered id (.inl (notIdentified id was))
    · exact nextSegment ▸ known.numbered id (.inr ((removed id).mp was))

theorem aside (refusals : List (Option Errno)) :
    Known past ⟨{ process.memory with refusals := refusals }, process.held⟩ :=
  ⟨known.flagged, known.identified, known.gone, known.numbered⟩

theorem create {key : Option Nat} {size : Nat} {request : SegmentRequest} {segment : Segment}
    (kept : segment.removed = false) :
    Known (past ++ [(.get key size request, .identifier process.memory.nextSegment)])
      ⟨process.memory.addSegment segment, process.held⟩ := by
  have segments (id : Int) :
      (process.memory.addSegment segment).removed? id =
        if id = process.memory.nextSegment then some false else process.memory.removed? id := by
    rw [removed?, find?_addSegment]
    split
    · rw [Option.map_some, kept]
    · rfl
  have fresh : ¬ (IdentifiedIn past process.memory.nextSegment ∨
      RemovedIn past process.memory.nextSegment) :=
    fun was => Int.lt_irrefl _ (known.numbered _ was)
  have removed (id : Int) :
      RemovedIn (past ++ [(.get key size request, .identifier process.memory.nextSegment)]) id ↔
        RemovedIn past id :=
    removedIn_append.trans (or_iff_left (by simp))
  have identified (id : Int) :
      IdentifiedIn (past ++ [(.get key size request, .identifier process.memory.nextSegment)]) id ↔
        IdentifiedIn past id ∨ id = process.memory.nextSegment := by
    rw [identifiedIn_append]
    refine or_congr_right ⟨?_, ?_⟩
    · rintro ⟨_, _, _, equal⟩
      cases equal
      rfl
    · rintro rfl
      exact ⟨key, size, request, rfl⟩
  constructor
  case flagged =>
    intro id flag found
    rw [removed]
    rw [segments] at found
    split at found
    · next same =>
        cases found
        exact iff_of_false (by decide) fun was => fresh (.inr (same ▸ was))
    · exact known.flagged id flag found
  case identified =>
    intro id present
    rw [identified]
    rw [segments] at present
    split at present
    · next same => exact .inr same
    · exact .inl (known.identified id present)
  case gone =>
    intro id was absent
    rw [removed]
    rw [segments] at absent
    split at absent
    · cases absent
    · next different =>
        exact known.gone id (((identified id).mp was).resolve_right different) absent
  case numbered =>
    intro id was
    rw [identified, removed] at was
    have old (was : IdentifiedIn past id ∨ RemovedIn past id) :
        id < process.memory.nextSegment + 1 :=
      Int.lt_trans (known.numbered id was) (Int.lt_succ _)
    rcases was with (was | rfl) | was
    · exact old (.inl was)
    · exact Int.lt_succ _
    · exact old (.inr was)

theorem remove {id : Int} {segment : Segment} (present : process.memory.find? id = some segment) :
    Known (past ++ [(.remove id, .done)])
      ⟨process.memory.update id fun segment =>
        settled { segment with key := none, removed := true }, process.held⟩ := by
  let after : SharedMemory := process.memory.update id fun segment =>
    settled { segment with key := none, removed := true }
  have others {other : Int} (different : other ≠ id) :
      after.removed? other = process.memory.removed? other := by
    rw [removed?, find?_update, if_neg different]
    rfl
  have flag {flag : Bool} (found : after.removed? id = some flag) : flag = true := by
    rw [removed?, find?_update, if_pos rfl, Option.map_eq_some_iff] at found
    obtain ⟨left, changed, rfl⟩ := found
    obtain ⟨before, _, kept⟩ := Option.bind_eq_some_iff.mp changed
    rw [(settled_eq_some_iff.mp kept).1]
  have removed (other : Int) :
      RemovedIn (past ++ [(.remove id, .done)]) other ↔ RemovedIn past other ∨ other = id := by
    rw [removedIn_append]
    exact or_congr_right (by simp [eq_comm])
  have identified (other : Int) :
      IdentifiedIn (past ++ [(.remove id, .done)]) other ↔ IdentifiedIn past other :=
    identifiedIn_append.trans (or_iff_left (by simp))
  have was : IdentifiedIn past id := known.identified id (by simp [removed?, present])
  constructor
  case flagged =>
    intro other value found
    rw [removed]
    by_cases same : other = id
    · subst same
      exact iff_of_true (flag found) (.inr rfl)
    · rw [or_iff_left same]
      exact known.flagged other value ((others same).symm.trans found)
  case identified =>
    intro other found
    rw [identified]
    by_cases same : other = id
    · exact same ▸ was
    · exact known.identified other (others same ▸ found)
  case gone =>
    intro other identifiedThen absent
    rw [removed]
    by_cases same : other = id
    · exact .inr same
    · exact .inl (known.gone other ((identified other).mp identifiedThen)
        ((others same).symm.trans absent))
  case numbered =>
    intro other named
    rw [identified, removed] at named
    rcases named with before | before | rfl
    · exact known.numbered other (.inl before)
    · exact known.numbered other (.inr before)
    · exact known.numbered other (.inl was)

theorem step (owned : Owned process) (operation : Operation) :
    Known (past ++ [(operation, (step process operation).1)]) (step process operation).2 := by
  have effect := owned.effect operation
  generalize (SharedMemory.step process operation).1 = answer,
    (SharedMemory.step process operation).2 = next at effect ⊢
  -- Only operations that hand out an identifier add one to the past.
  have others (quiet : ∀ id, answer ≠ .identifier id) (id : Int)
      (was : IdentifiedIn (past ++ [(operation, answer)]) id) : IdentifiedIn past id := by
    refine (identifiedIn_append.mp was).resolve_right ?_
    rintro ⟨_, _, _, equal⟩
    cases equal
    exact quiet id rfl
  cases effect with
  | nothing report =>
      refine known.pass (others ?_) ?_ (fun _ => .inl rfl) rfl
      · rintro _ rfl
        cases report
      · rintro _ equal
        cases equal
        cases report
  | @found _ _ _ id _ present =>
      refine known.pass ?_ (by simp) (fun _ => .inl rfl) rfl
      intro other was
      rcases identifiedIn_append.mp was with before | ⟨_, _, _, equal⟩
      · exact before
      · cases equal
        exact known.identified id (by simp [removed?, Option.isSome_iff_ne_none.mp present])
  | @created _ _ _ refusals => exact (known.aside refusals).create rfl
  | attached _ =>
      exact known.pass (others (by simp)) (by simp) (fun id => .inl (removed?_addMapping _ _ id)) rfl
  | @undone _ _ _ _ _ refusals _ =>
      refine known.pass (others (by simp)) (by simp) (fun id => .inl ?_) rfl
      exact congrArg _ ((owned.aside refusals _).find?_undone _ id)
  | returned given _ _ =>
      refine known.pass (others (by simp)) ?_ (fun id => removed?_removeMapping _ _ _ id) rfl
      rintro _ equal
      rcases given with rfl | rfl <;> cases equal
  | @removed _ _ refusals present => exact (known.aside refusals).remove present
  | written _ _ _ _ =>
      exact known.pass (others (by simp)) (by simp) (fun id => .inl (removed?_write _ _ id _ _)) rfl

end Known

theorem known_start (refusals : List (Option Errno)) : Known [] (.start refusals) where
  flagged _ _ found := nomatch found
  identified _ present := absurd rfl present
  gone := by
    rintro _ ⟨_, _, _, member⟩
    cases member
  numbered := by
    rintro _ (⟨_, _, _, member⟩ | member)
    all_goals cases member

end Confinement.SharedMemory
