import Confinement.Proofs.SharedMemory.Run

/-!
Who owns what. Between operations every view in hand is a mapping and every mapping a view in hand,
and a segment counts the views that were attached to it. Main statements: `Owned.effect`, by which
an operation can do no more than `Effect` says, and `Owned.step`.
-/

namespace Confinement.SharedMemory

/-- Views in hand, mappings and counts agree. -/
structure Owned (process : Process) : Prop where
  /-- A view in hand is mapped, to the segment that it was attached to and as long as it is. -/
  mapped : ∀ holding ∈ process.held, ∃ address,
    process.memory.mapping? holding.view.pointer =
      some ⟨holding.id, address, holding.view.length⟩
  /-- A mapping is in hand, and no pointer is ahead of the last one given out. -/
  inHand : ∀ pointer mapping, process.memory.mapping? pointer = some mapping →
    pointer ≤ process.memory.lastPointer ∧
      ∃ holding ∈ process.held, holding.view.pointer = pointer
  distinct : ∀ first ∈ process.held, ∀ second ∈ process.held,
    first.view.pointer = second.view.pointer → first = second
  once : process.held.Nodup
  /-- The segment of a view in hand exists and is as long as the view. -/
  present : ∀ holding ∈ process.held, ∃ segment,
    process.memory.find? holding.id = some segment ∧ segment.size = holding.view.length
  /-- A segment counts the views in hand. If it was removed, there are some. -/
  counted : ∀ id segment, process.memory.find? id = some segment →
    segment.attached = process.viewsOf id ∧ (segment.removed = true → 0 < segment.attached)
  numbered : ∀ id segment, process.memory.find? id = some segment →
    id < process.memory.nextSegment

theorem owned_start (refusals : List (Option Errno)) : Owned (.start refusals) where
  mapped _ member := nomatch member
  inHand _ _ found := nomatch found
  distinct _ member := nomatch member
  once := .nil
  present _ member := nomatch member
  counted _ _ found := nomatch found
  numbered _ _ found := nomatch found

/-- What a write leaves of the segments. -/
theorem find?_write (memory : SharedMemory) (id other : Int) (offset : Nat) (data : Bytes) :
    (memory.update id fun segment => some (segment.write offset data)).find? other =
      (memory.find? other).map fun segment =>
        if other = id then segment.write offset data else segment := by
  rw [find?_update]
  split
  · next same => rw [same, Option.map_eq_bind]; rfl
  · rw [Option.map_id_fun', id_eq]

theorem viewsOf_cons (memory : SharedMemory) (holding : Holding) (held : List Holding) (id : Int) :
    Process.viewsOf ⟨memory, holding :: held⟩ id =
      Process.viewsOf ⟨memory, held⟩ id + if holding.id = id then 1 else 0 := by
  simp only [Process.viewsOf, List.countP_cons, beq_iff_eq]

theorem viewsOf_erase (memory : SharedMemory) {holding : Holding} {held : List Holding}
    (member : holding ∈ held) (id : Int) :
    Process.viewsOf ⟨memory, held⟩ id =
      Process.viewsOf ⟨memory, held.erase holding⟩ id + if holding.id = id then 1 else 0 := by
  rw [← viewsOf_cons]
  exact (List.perm_cons_erase member).countP_eq _

theorem viewsOf_pos_iff {process : Process} {id : Int} :
    0 < process.viewsOf id ↔ ∃ holding ∈ process.held, holding.id = id := by
  simp only [Process.viewsOf, List.countP_pos_iff, beq_iff_eq]

namespace Owned

variable {process : Process} (owned : Owned process)

include owned

theorem pointer_le {holding : Holding} (member : holding ∈ process.held) :
    holding.view.pointer ≤ process.memory.lastPointer := by
  obtain ⟨address, mapped⟩ := owned.mapped holding member
  exact (owned.inHand _ _ mapped).1

theorem mapping?_fresh : process.memory.mapping? (process.memory.lastPointer + 1) = none := by
  cases found : process.memory.mapping? (process.memory.lastPointer + 1) with
  | none => rfl
  | some mapping => exact absurd (owned.inHand _ mapping found).1 (Nat.not_succ_le_self _)

theorem find?_fresh : process.memory.find? process.memory.nextSegment = none := by
  cases found : process.memory.find? process.memory.nextSegment with
  | none => rfl
  | some segment => exact absurd (owned.numbered _ segment found) (Int.lt_irrefl _)

theorem viewsOf_fresh : process.viewsOf process.memory.nextSegment = 0 := by
  refine Nat.eq_zero_of_not_pos fun some => ?_
  obtain ⟨holding, member, same⟩ := viewsOf_pos_iff.mp some
  obtain ⟨segment, found, _⟩ := owned.present holding member
  rw [same, owned.find?_fresh] at found
  cases found

/-- A view that was mapped and unmapped at once leaves every segment as it was. -/
theorem find?_undone (mapping : Mapping) (id : Int) :
    (process.memory.undone mapping).find? id = process.memory.find? id := by
  refine (find?_removeMapping _ _ mapping id).trans ?_
  have mapped : (process.memory.addMapping mapping).find? id = _ :=
    find?_addMapping process.memory mapping id
  split
  · next same =>
      refine (congrArg (Option.bind · _) mapped).trans ?_
      rw [if_pos same]
      cases found : process.memory.find? id with
      | none => rfl
      | some segment =>
          exact settled_eq_some_iff.mpr ⟨rfl, (owned.counted id segment found).2⟩
  · next different => exact mapped.trans (if_neg different)

theorem mapping?_undone (mapping : Mapping) (pointer : Nat) :
    (process.memory.undone mapping).mapping? pointer = process.memory.mapping? pointer := by
  refine (mapping?_removeMapping _ _ mapping pointer).trans ?_
  split
  · next same => rw [same]; exact owned.mapping?_fresh.symm
  · next different =>
      exact (mapping?_addMapping process.memory mapping pointer).trans (if_neg different)

/-- Every operation has one of the effects that are listed. -/
theorem effect (operation : Operation) :
    Effect process operation (step process operation).1 (step process operation).2 := by
  cases operation with
  | get key size request =>
      obtain ⟨refusals, ⟨errno, refused⟩ | asked⟩ :=
        process.memory.ask_cases (·.findOrCreate key size request)
      · simp only [step, get, refused]
        exact .nothing rfl
      · rcases findOrCreate_cases { process.memory with refusals := refusals } key size request with
          ⟨errno, refused⟩ | ⟨id, present, found⟩ | created
        · simp only [step, get, asked, refused]
          exact .nothing rfl
        · simp only [step, get, asked, found]
          exact .found present
        · simp only [step, get, asked, created]
          exact .created
  | attach id address readOnly =>
      obtain ⟨refusals, ⟨errno, refused⟩ | ⟨segment, present, ⟨errno, undone⟩ | attached⟩⟩ :=
        process.memory.attach_cases id address readOnly
      · simp only [step, refused]
        exact .nothing rfl
      · simp only [step, undone]
        exact .undone present
      · simp only [step, attached]
        exact .attached present
  | detach holding =>
      by_cases member : holding ∈ process.held
      · obtain ⟨address, mapped⟩ := owned.mapped holding member
        simp only [step, if_pos member, detach, unmap, mapped]
        exact .returned (.inl rfl) member mapped
      · simp only [step, if_neg member]
        exact .nothing rfl
  | drop holding =>
      by_cases member : holding ∈ process.held
      · obtain ⟨address, mapped⟩ := owned.mapped holding member
        simp only [step, if_pos member, drop, unmap, mapped]
        exact .returned (.inr rfl) member mapped
      · simp only [step, if_neg member]
        exact .nothing rfl
  | remove id =>
      obtain ⟨refusals, ⟨errno, refused⟩ | asked⟩ := process.memory.ask_cases (·.discard id)
      · simp only [step, remove, refused]
        exact .nothing rfl
      · rcases discard_cases { process.memory with refusals := refusals } id with
          ⟨errno, refused⟩ | ⟨segment, present, removed⟩
        · simp only [step, remove, asked, refused]
          exact .nothing rfl
        · simp only [step, remove, asked, removed]
          exact .removed present
  | status id =>
      obtain ⟨refusals, ⟨errno, refused⟩ | asked⟩ :=
        process.memory.ask_cases fun memory => (memory.inspect id, memory)
      · simp only [step, status, refused]
        exact .nothing rfl
      · simp only [step, status, asked]
        cases inspect { process.memory with refusals := refusals } id with
        | error errno => exact .nothing rfl
        | ok known => exact .nothing rfl
  | read holding offset length =>
      simp only [step]
      split
      · cases process.memory.read holding.view offset length with
        | error reason => exact .nothing rfl
        | ok data => exact .nothing rfl
      · exact .nothing rfl
  | write holding offset data =>
      by_cases member : holding ∈ process.held
      · obtain ⟨address, mapped⟩ := owned.mapped holding member
        simp only [step, if_pos member]
        cases writable : holding.view.writable with
        | false =>
            simp only [write, writable]
            exact .nothing rfl
        | true =>
            by_cases outside : holding.view.length < offset + data.length
            · simp [write, writable, mapped, outside]
              exact .nothing rfl
            · simp only [write, writable, mapped, if_neg outside]
              exact .written member writable mapped (Nat.le_of_not_lt outside)
      · simp only [step, if_neg member]
        exact .nothing rfl

/-! What each effect keeps. -/

/-- Nobody loses a view to a change that leaves mappings alone and, of every segment, the size, the
count and whether it was removed. -/
theorem revise {after : SharedMemory} (change : Int → Segment → Segment)
    (segments : ∀ id, after.find? id = (process.memory.find? id).map (change id))
    (keeps : ∀ id segment, (change id segment).size = segment.size ∧
      (change id segment).attached = segment.attached ∧
      (change id segment).removed = segment.removed)
    (mappings : ∀ pointer, after.mapping? pointer = process.memory.mapping? pointer)
    (lastPointer : process.memory.lastPointer ≤ after.lastPointer)
    (nextSegment : after.nextSegment = process.memory.nextSegment) :
    Owned ⟨after, process.held⟩ where
  mapped holding member := by
    obtain ⟨address, mapped⟩ := owned.mapped holding member
    exact ⟨address, (mappings _).trans mapped⟩
  inHand pointer mapping found := by
    obtain ⟨bound, held⟩ := owned.inHand pointer mapping ((mappings pointer).symm.trans found)
    exact ⟨Nat.le_trans bound lastPointer, held⟩
  distinct := owned.distinct
  once := owned.once
  present holding member := by
    obtain ⟨segment, found, size⟩ := owned.present holding member
    exact ⟨change holding.id segment, by rw [segments, found]; rfl, (keeps _ _).1.trans size⟩
  counted id segment found := by
    rw [segments] at found
    obtain ⟨before, old, rfl⟩ := Option.map_eq_some_iff.mp found
    rw [(keeps id before).2.1, (keeps id before).2.2]
    exact owned.counted id before old
  numbered id segment found := by
    rw [segments] at found
    obtain ⟨before, old, _⟩ := Option.map_eq_some_iff.mp found
    exact nextSegment ▸ owned.numbered id before old

/-- As `revise`, for a memory with the same segments. -/
theorem unchanged {after : SharedMemory}
    (segments : ∀ id, after.find? id = process.memory.find? id)
    (mappings : ∀ pointer, after.mapping? pointer = process.memory.mapping? pointer)
    (lastPointer : process.memory.lastPointer ≤ after.lastPointer)
    (nextSegment : after.nextSegment = process.memory.nextSegment) :
    Owned ⟨after, process.held⟩ :=
  owned.revise (fun _ segment => segment)
    (fun id => by rw [segments, Option.map_id_fun', id_eq]) (fun _ _ => ⟨rfl, rfl, rfl⟩) mappings
    lastPointer nextSegment

/-- What the kernel will refuse and what it was told to unmap is nobody's property. -/
theorem aside (refusals : List (Option Errno)) (unmapped : List Nat) :
    Owned ⟨{ process.memory with refusals := refusals, unmapped := unmapped }, process.held⟩ :=
  owned.unchanged (fun _ => rfl) (fun _ => rfl) (Nat.le_refl _) rfl

theorem create {segment : Segment} (unmapped : segment.attached = 0)
    (kept : segment.removed = false) :
    Owned ⟨process.memory.addSegment segment, process.held⟩ := by
  constructor
  case mapped => exact owned.mapped
  case inHand => exact owned.inHand
  case distinct => exact owned.distinct
  case once => exact owned.once
  case present =>
    intro holding member
    obtain ⟨old, found, size⟩ := owned.present holding member
    have different : holding.id ≠ process.memory.nextSegment := by
      intro same
      rw [same, owned.find?_fresh] at found
      cases found
    exact ⟨old, (find?_addSegment ..).trans ((if_neg different).trans found), size⟩
  case counted =>
    intro id after found
    rw [find?_addSegment] at found
    split at found
    · next same =>
        cases found
        refine ⟨?_, fun removed => absurd removed (by rw [kept]; decide)⟩
        rw [unmapped, same]
        exact owned.viewsOf_fresh.symm
    · exact owned.counted id after found
  case numbered =>
    intro id after found
    rw [find?_addSegment] at found
    split at found
    · next same =>
        rw [same]
        exact Int.lt_succ _
    · exact Int.lt_trans (owned.numbered id after found) (Int.lt_succ _)

theorem attach {id : Int} {address : Nat} {segment : Segment}
    (present : process.memory.find? id = some segment) (writable : Bool) :
    Owned ⟨process.memory.addMapping ⟨id, address, segment.size⟩,
      ⟨id, ⟨process.memory.lastPointer + 1, segment.size, writable⟩⟩ :: process.held⟩ := by
  have fresh (holding : Holding) (member : holding ∈ process.held) :
      holding.view.pointer ≠ process.memory.lastPointer + 1 :=
    Nat.ne_of_lt (Nat.lt_succ_of_le (owned.pointer_le member))
  have grown (other : Int) (before : Segment) (found : process.memory.find? other = some before) :
      ∃ after, (process.memory.addMapping ⟨id, address, segment.size⟩).find? other = some after ∧
        after.size = before.size := by
    rw [find?_addMapping, found]
    split
    · exact ⟨_, rfl, rfl⟩
    · exact ⟨_, rfl, rfl⟩
  constructor
  case mapped =>
    intro holding member
    rcases List.mem_cons.mp member with rfl | old
    · exact ⟨address, (mapping?_addMapping ..).trans (if_pos rfl)⟩
    · obtain ⟨place, mapped⟩ := owned.mapped holding old
      exact ⟨place, (mapping?_addMapping ..).trans ((if_neg (fresh holding old)).trans mapped)⟩
  case inHand =>
    intro pointer mapping found
    rw [mapping?_addMapping] at found
    split at found
    · next same => exact ⟨Nat.le_of_eq same, _, List.mem_cons_self, same.symm⟩
    · obtain ⟨bound, holding, member, same⟩ := owned.inHand pointer mapping found
      exact ⟨Nat.le_succ_of_le bound, holding, List.mem_cons_of_mem _ member, same⟩
  case distinct =>
    intro first firstHeld second secondHeld same
    rcases List.mem_cons.mp firstHeld with rfl | firstOld
    · rcases List.mem_cons.mp secondHeld with rfl | secondOld
      · rfl
      · exact absurd same.symm (fresh second secondOld)
    · rcases List.mem_cons.mp secondHeld with rfl | secondOld
      · exact absurd same (fresh first firstOld)
      · exact owned.distinct first firstOld second secondOld same
  case once => exact List.nodup_cons.mpr ⟨fun old => fresh _ old rfl, owned.once⟩
  case present =>
    intro holding member
    rcases List.mem_cons.mp member with rfl | old
    · exact grown id segment present
    · obtain ⟨before, found, size⟩ := owned.present holding old
      obtain ⟨after, kept, same⟩ := grown holding.id before found
      exact ⟨after, kept, same.trans size⟩
  case counted =>
    intro other after found
    rw [find?_addMapping] at found
    rw [viewsOf_cons]
    split at found
    · next same =>
        obtain ⟨before, old, rfl⟩ := Option.map_eq_some_iff.mp found
        rw [if_pos same.symm]
        exact ⟨congrArg (· + 1) (owned.counted other before old).1, fun _ => Nat.succ_pos _⟩
    · next different =>
        rw [if_neg (Ne.symm different)]
        exact owned.counted other after found
  case numbered =>
    intro other after found
    rw [find?_addMapping] at found
    split at found
    · obtain ⟨before, old, _⟩ := Option.map_eq_some_iff.mp found
      exact owned.numbered other before old
    · exact owned.numbered other after found

theorem giveBack {holding : Holding} (member : holding ∈ process.held) {mapping : Mapping}
    (mapped : process.memory.mapping? holding.view.pointer = some mapping) :
    Owned ⟨process.memory.removeMapping holding.view.pointer mapping,
      process.held.erase holding⟩ := by
  obtain ⟨address, known⟩ := owned.mapped holding member
  rw [mapped] at known
  cases known
  have others {other : Holding} (left : other ∈ process.held.erase holding) :
      other ∈ process.held ∧ other ≠ holding :=
    ⟨List.mem_of_mem_erase left,
      fun same => owned.once.not_mem_erase (same ▸ left)⟩
  constructor
  case mapped =>
    intro other left
    obtain ⟨held, different⟩ := others left
    obtain ⟨place, found⟩ := owned.mapped other held
    refine ⟨place, (mapping?_removeMapping ..).trans ((if_neg fun same => ?_).trans found)⟩
    exact different (owned.distinct other held holding member same)
  case inHand =>
    intro pointer mapping found
    rw [mapping?_removeMapping] at found
    split at found
    · cases found
    · next apart =>
        obtain ⟨bound, other, held, same⟩ := owned.inHand pointer mapping found
        refine ⟨bound, other, (List.mem_erase_of_ne fun equal => ?_).mpr held, same⟩
        exact apart (by rw [← same, equal])
  case distinct =>
    intro first firstLeft second secondLeft
    exact owned.distinct first (others firstLeft).1 second (others secondLeft).1
  case once => exact owned.once.erase holding
  case present =>
    intro other left
    obtain ⟨held, _⟩ := others left
    obtain ⟨segment, found, size⟩ := owned.present other held
    rw [find?_removeMapping, found]
    split
    · next same =>
        -- The other view of the segment keeps it.
        have some : 0 < Process.viewsOf ⟨process.memory, process.held.erase holding⟩ other.id :=
          viewsOf_pos_iff.mpr ⟨other, left, rfl⟩
        have count := (owned.counted other.id segment found).1
        have less := viewsOf_erase process.memory member other.id
        rw [if_pos same.symm] at less
        refine ⟨_, settled_eq_some_iff.mpr ⟨rfl, fun _ => ?_⟩, size⟩
        have rest : segment.attached - 1 =
            Process.viewsOf ⟨process.memory, process.held.erase holding⟩ other.id := by
          rw [count, show process.viewsOf other.id = _ from less, Nat.add_sub_cancel]
        exact rest ▸ some
    · exact ⟨segment, rfl, size⟩
  case counted =>
    intro id after found
    have less := viewsOf_erase process.memory member id
    rw [find?_removeMapping] at found
    split at found
    · next same =>
        obtain ⟨before, old, kept⟩ := Option.bind_eq_some_iff.mp found
        obtain ⟨rfl, used⟩ := settled_eq_some_iff.mp kept
        refine ⟨?_, used⟩
        rw [if_pos same.symm] at less
        change before.attached - 1 = _
        rw [(owned.counted id before old).1, show process.viewsOf id = _ from less]
        rfl
    · next different =>
        rw [if_neg (Ne.symm different)] at less
        obtain ⟨count, used⟩ := owned.counted id after found
        exact ⟨count.trans less, used⟩
  case numbered =>
    intro id after found
    rw [find?_removeMapping] at found
    split at found
    · obtain ⟨before, old, _⟩ := Option.bind_eq_some_iff.mp found
      exact owned.numbered id before old
    · exact owned.numbered id after found

theorem remove (id : Int) :
    Owned ⟨process.memory.update id fun segment =>
      settled { segment with key := none, removed := true }, process.held⟩ := by
  constructor
  case mapped => exact owned.mapped
  case inHand => exact owned.inHand
  case distinct => exact owned.distinct
  case once => exact owned.once
  case present =>
    intro holding member
    obtain ⟨segment, found, size⟩ := owned.present holding member
    rw [find?_update]
    split
    · next same =>
        -- A view in hand keeps the segment.
        have some : 0 < process.viewsOf holding.id := viewsOf_pos_iff.mpr ⟨holding, member, rfl⟩
        rw [← same, found]
        refine ⟨_, settled_eq_some_iff.mpr ⟨rfl, fun _ => ?_⟩, size⟩
        exact (owned.counted holding.id segment found).1 ▸ some
    · exact ⟨segment, found, size⟩
  case counted =>
    intro other after found
    rw [find?_update] at found
    split at found
    · next same =>
        obtain ⟨before, old, kept⟩ := Option.bind_eq_some_iff.mp found
        obtain ⟨rfl, used⟩ := settled_eq_some_iff.mp kept
        exact ⟨same ▸ (owned.counted id before old).1, used⟩
    · exact owned.counted other after found
  case numbered =>
    intro other after found
    rw [find?_update] at found
    split at found
    · next same =>
        obtain ⟨before, old, _⟩ := Option.bind_eq_some_iff.mp found
        exact same ▸ owned.numbered id before old
    · exact owned.numbered other after found

theorem step (operation : Operation) : Owned (step process operation).2 := by
  have effect := owned.effect operation
  generalize (SharedMemory.step process operation).1 = answer,
    (SharedMemory.step process operation).2 = next at effect ⊢
  cases effect with
  | @nothing _ _ refusals _ | @found _ _ _ _ refusals _ => exact owned.aside refusals _
  | @created _ _ _ refusals => exact (owned.aside refusals _).create rfl rfl
  | @attached _ _ _ _ refusals present => exact (owned.aside refusals _).attach present _
  | @undone _ _ _ _ _ refusals present =>
      have asked := owned.aside refusals process.memory.unmapped
      exact asked.unchanged (asked.find?_undone _) (asked.mapping?_undone _) (Nat.le_succ _) rfl
  | @returned _ holding _ _ member mapped =>
      exact (owned.aside _ (holding.view.pointer :: _)).giveBack member mapped
  | @removed _ _ refusals present => exact (owned.aside refusals _).remove _
  | @written _ offset data mapping _ _ _ _ =>
      refine owned.revise
        (fun id segment => if id = mapping.segment then segment.write offset data else segment)
        (fun id => find?_write process.memory mapping.segment id offset data)
        (fun id segment => ?_) (fun _ => rfl) (Nat.le_refl _) rfl
      split <;> exact ⟨rfl, rfl, rfl⟩

end Owned

end Confinement.SharedMemory
