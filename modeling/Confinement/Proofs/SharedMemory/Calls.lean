import Confinement.SharedMemory

/-!
What calls about shared memory can come to. The kernel may turn down any call for reasons of its
own, but for the one that unmaps. An attachment fails and leaves all as it was, fails after it was
mapped, or leads to a view of the whole segment. Main statement: `attach_cases`.
-/

namespace Confinement.SharedMemory

section Calls

variable (memory : SharedMemory)

theorem ask_cases {α : Type} (call : SharedMemory → Except Errno α × SharedMemory) :
    ∃ refusals, (∃ errno, memory.ask call = (.error errno, { memory with refusals := refusals })) ∨
      memory.ask call = call { memory with refusals := refusals } := by
  obtain ⟨segments, mappings, nextSegment, lastPointer, refusals, unmapped⟩ := memory
  match refusals with
  | [] => exact ⟨[], .inr rfl⟩
  | none :: refusals => exact ⟨refusals, .inr rfl⟩
  | some errno :: refusals => exact ⟨refusals, .inl ⟨errno, rfl⟩⟩

theorem createSegment_cases (key : Option Nat) (size : Nat) (request : SegmentRequest) :
    (∃ errno, memory.createSegment key size request = (.error errno, memory)) ∨
      memory.createSegment key size request =
        (.ok memory.nextSegment,
          memory.addSegment { key := key, permissions := request.permissions, size := size }) := by
  unfold createSegment
  split
  · exact .inl ⟨_, rfl⟩
  · split
    · exact .inl ⟨_, rfl⟩
    · split
      · exact .inl ⟨_, rfl⟩
      · split
        · exact .inl ⟨_, rfl⟩
        · exact .inr rfl

theorem isSome_find?_of_ofKey? {key : Nat} {id : Int} {segment : Segment}
    (found : memory.ofKey? key = some (id, segment)) : (memory.find? id).isSome = true :=
  Table.isSome_find?_of_mem (List.mem_of_find?_eq_some found)

theorem findOrCreate_cases (key : Option Nat) (size : Nat) (request : SegmentRequest) :
    (∃ errno, memory.findOrCreate key size request = (.error errno, memory)) ∨
    (∃ id, (memory.find? id).isSome = true ∧
      memory.findOrCreate key size request = (.ok id, memory)) ∨
    memory.findOrCreate key size request =
      (.ok memory.nextSegment,
        memory.addSegment { key := key, permissions := request.permissions, size := size }) := by
  have made := memory.createSegment_cases key size request
  cases key with
  | none => exact made.imp_right .inr
  | some name =>
      cases found : memory.ofKey? name with
      | none =>
          simp only [findOrCreate, found]
          split
          · exact made.imp_right .inr
          · exact .inl ⟨_, rfl⟩
      | some entry =>
          obtain ⟨id, segment⟩ := entry
          simp only [findOrCreate, found]
          split
          · exact .inl ⟨_, rfl⟩
          · split
            · exact .inl ⟨_, rfl⟩
            · split
              · exact .inl ⟨_, rfl⟩
              · exact .inr (.inl ⟨id, memory.isSome_find?_of_ofKey? found, rfl⟩)

theorem mapAt_cases (id : Int) (address : Nat) (readOnly : Bool) :
    (∃ errno, memory.mapAt id address readOnly = (.error errno, memory)) ∨
    ∃ segment, memory.find? id = some segment ∧
      memory.mapAt id address readOnly =
        (.ok (memory.lastPointer + 1), memory.addMapping ⟨id, address, segment.size⟩) := by
  cases found : memory.find? id with
  | none => exact .inl ⟨.invalid, by simp only [mapAt, found]⟩
  | some segment =>
      simp only [mapAt, found]
      generalize (if readOnly = true then 4 else 6) = wanted
      split
      · exact .inl ⟨_, rfl⟩
      · split
        · exact .inl ⟨_, rfl⟩
        · split
          · exact .inl ⟨_, rfl⟩
          · exact .inr ⟨segment, rfl, rfl⟩

theorem discard_cases (id : Int) :
    (∃ errno, memory.discard id = (.error errno, memory)) ∨
    ∃ segment, memory.find? id = some segment ∧
      memory.discard id = (.ok (), memory.update id fun segment =>
        settled { segment with key := none, removed := true }) := by
  cases found : memory.find? id with
  | none => exact .inl ⟨.invalid, by simp only [discard, found]⟩
  | some segment => exact .inr ⟨segment, rfl, by simp only [discard, found]⟩

theorem inspect_of_ok {id : Int} {status : SegmentStatus} (known : memory.inspect id = .ok status) :
    ∃ segment, memory.find? id = some segment ∧
      status = ⟨segment.size, segment.attached, segment.permissions⟩ := by
  unfold inspect at known
  cases found : memory.find? id with
  | none =>
      rw [found] at known
      cases known
  | some segment =>
      simp only [found] at known
      split at known
      · cases known
        exact ⟨segment, rfl, rfl⟩
      · cases known

/-- The segment that was mapped and cannot be looked at has been unmapped. -/
def undone (mapping : Mapping) : SharedMemory :=
  { memory.addMapping mapping with unmapped := (memory.lastPointer + 1) :: memory.unmapped
    }.removeMapping (memory.lastPointer + 1) mapping

theorem unmap_addMapping (mapping : Mapping) :
    (memory.addMapping mapping).unmap (memory.lastPointer + 1) =
      (.ok (), memory.undone mapping) := by
  have found := (memory.mapping?_addMapping mapping (memory.lastPointer + 1)).trans (if_pos rfl)
  simp only [unmap, found]
  rfl

section Attach

variable {memory} {mapped after : SharedMemory} {id : Int} {address pointer : Nat} {readOnly : Bool}

theorem attach_of_unseen {errno : Errno}
    (put : memory.map id address readOnly = (.ok pointer, mapped)) (nonzero : pointer ≠ 0)
    (unseen : mapped.status id = (.error errno, after)) :
    memory.attach id address readOnly = (.error errno, (after.unmap pointer).2) := by
  simp only [attach, put, if_neg nonzero, unseen]

theorem attach_of_seen {status : SegmentStatus}
    (put : memory.map id address readOnly = (.ok pointer, mapped)) (nonzero : pointer ≠ 0)
    (seen : mapped.status id = (.ok status, after)) :
    memory.attach id address readOnly = (.ok ⟨pointer, status.size, !readOnly⟩, after) := by
  simp only [attach, put, if_neg nonzero, seen]

end Attach

theorem attach_cases (id : Int) (address : Nat) (readOnly : Bool) :
    ∃ refusals,
      (∃ errno, memory.attach id address readOnly =
        (.error errno, { memory with refusals := refusals })) ∨
      ∃ segment, memory.find? id = some segment ∧
        ((∃ errno, memory.attach id address readOnly =
          (.error errno, { memory with refusals := refusals }.undone ⟨id, address, segment.size⟩)) ∨
        memory.attach id address readOnly =
          (.ok ⟨memory.lastPointer + 1, segment.size, !readOnly⟩,
            { memory with refusals := refusals }.addMapping ⟨id, address, segment.size⟩)) := by
  obtain ⟨earlier, ⟨errno, refused⟩ | asked⟩ := memory.ask_cases (·.mapAt id address readOnly)
  · exact ⟨earlier, .inl ⟨errno, by simp only [attach, map, refused]⟩⟩
  rcases mapAt_cases { memory with refusals := earlier } id address readOnly with
    ⟨errno, refused⟩ | ⟨segment, found, mapped⟩
  · exact ⟨earlier, .inl ⟨errno, by simp only [attach, map, asked, refused]⟩⟩
  have put : memory.map id address readOnly = _ := asked.trans mapped
  have nonzero : memory.lastPointer + 1 ≠ 0 := Nat.succ_ne_zero _
  let mapping : Mapping := ⟨id, address, segment.size⟩
  let counted : SharedMemory := { memory with refusals := earlier }.addMapping mapping
  have unseen {errno : Errno} {refusals : List (Option Errno)}
      (said : counted.status id = (.error errno, { counted with refusals := refusals })) :
      memory.attach id address readOnly =
        (.error errno, { memory with refusals := refusals }.undone mapping) :=
    (attach_of_unseen put nonzero said).trans
      (congrArg (Prod.mk _ ·.2) (unmap_addMapping { memory with refusals := refusals } mapping))
  obtain ⟨refusals, ⟨errno, refused⟩ | looked⟩ :=
    counted.ask_cases fun memory => (memory.inspect id, memory)
  · exact ⟨refusals, .inr ⟨segment, found, .inl ⟨errno, unseen refused⟩⟩⟩
  · cases known : SharedMemory.inspect { counted with refusals := refusals } id with
    | error errno =>
        refine ⟨refusals, .inr ⟨segment, found, .inl ⟨errno, unseen ?_⟩⟩⟩
        rw [status, looked, known]
    | ok shown =>
        refine ⟨refusals, .inr ⟨segment, found, .inr ?_⟩⟩
        obtain ⟨same, present, rfl⟩ := inspect_of_ok _ known
        have size : counted.find? id = some same := present
        rw [find?_addMapping, if_pos rfl, found] at size
        cases size
        have seen : counted.status id =
            (.ok ⟨segment.size, segment.attached + 1, segment.permissions⟩,
              { counted with refusals := refusals }) := by
          rw [status, looked, known]
        exact attach_of_seen put nonzero seen

end Calls

end Confinement.SharedMemory
