import Confinement.Proofs.SharedMemory.Ownership

/-!
The lives of views. A view that was attached is held until it is given back, once, by detaching or
by dropping it, and the kernel is told to unmap it as often. Main statement: `Tracked.step`.
-/

namespace Confinement.SharedMemory

def AttachedIn (past : Past) (holding : Holding) : Prop :=
  ∃ address readOnly, (.attach holding.id address readOnly, .view holding.view) ∈ past

/-- How often a view was given back, in one way or the other. -/
def returns (past : Past) (holding : Holding) : Nat :=
  past.count (.detach holding, .done) + past.count (.drop holding, .done)

section Append

variable {past : Past} {entry : Operation × Answer} {holding : Holding}

theorem attachedIn_append :
    AttachedIn (past ++ [entry]) holding ↔
      AttachedIn past holding ∨
        ∃ address readOnly, entry = (.attach holding.id address readOnly, .view holding.view) := by
  simp only [AttachedIn, List.mem_append, List.mem_singleton, exists_or, eq_comm (b := entry)]

theorem returns_append :
    returns (past ++ [entry]) holding =
      returns past holding +
        if entry = (.detach holding, .done) ∨ entry = (.drop holding, .done) then 1 else 0 := by
  simp only [returns, List.count_append, List.count_singleton, beq_iff_eq]
  by_cases detached : entry = (.detach holding, .done)
  · subst detached
    simp
    omega
  · by_cases dropped : entry = (.drop holding, .done)
    · subst dropped
      simp
      omega
    · simp [detached, dropped]

end Append

/-- Views that were attached are held or were given back, by the past and by what the kernel was
told. -/
structure Tracked (past : Past) (process : Process) : Prop where
  attached : ∀ holding ∈ process.held, AttachedIn past holding
  pointer_le : ∀ holding, AttachedIn past holding →
    holding.view.pointer ≤ process.memory.lastPointer
  distinct : ∀ first second, AttachedIn past first → AttachedIn past second →
    first.view.pointer = second.view.pointer → first = second
  balanced : ∀ holding, AttachedIn past holding →
    returns past holding = if holding ∈ process.held then 0 else 1
  attachedFirst : ∀ holding, returns past holding ≠ 0 → AttachedIn past holding
  unmapped : ∀ holding, AttachedIn past holding →
    process.memory.unmapped.count holding.view.pointer = returns past holding
  unmapped_le : ∀ pointer ∈ process.memory.unmapped, pointer ≤ process.memory.lastPointer

namespace Tracked

variable {past : Past} {process : Process} (tracked : Tracked past process)

include tracked

/-- Nothing changes for views in an operation that neither attaches one nor gives one back. A new
pointer may be used up. -/
theorem pass {entry : Operation × Answer} {after : SharedMemory}
    (notAttached : ∀ id address readOnly view, entry ≠ (.attach id address readOnly, .view view))
    (notReturned : ∀ holding, ¬ (entry = (.detach holding, .done) ∨ entry = (.drop holding, .done)))
    (lastPointer : process.memory.lastPointer ≤ after.lastPointer)
    (unmapped : ∀ pointer ≤ process.memory.lastPointer,
      after.unmapped.count pointer = process.memory.unmapped.count pointer)
    (bound : ∀ pointer ∈ after.unmapped, pointer ≤ after.lastPointer) :
    Tracked (past ++ [entry]) ⟨after, process.held⟩ := by
  have same (holding : Holding) : AttachedIn (past ++ [entry]) holding ↔ AttachedIn past holding := by
    rw [attachedIn_append]
    exact or_iff_left fun ⟨address, readOnly, equal⟩ => notAttached _ address readOnly _ equal
  have count (holding : Holding) : returns (past ++ [entry]) holding = returns past holding := by
    rw [returns_append, if_neg (notReturned holding), Nat.add_zero]
  constructor
  case attached => exact fun holding member => (same holding).mpr (tracked.attached holding member)
  case pointer_le =>
    exact fun holding was =>
      Nat.le_trans (tracked.pointer_le holding ((same holding).mp was)) lastPointer
  case distinct =>
    exact fun first second firstWas secondWas =>
      tracked.distinct first second ((same first).mp firstWas) ((same second).mp secondWas)
  case balanced =>
    intro holding was
    rw [count]
    exact tracked.balanced holding ((same holding).mp was)
  case attachedFirst =>
    intro holding returned
    rw [count] at returned
    exact (same holding).mpr (tracked.attachedFirst holding returned)
  case unmapped =>
    intro holding was
    have before := (same holding).mp was
    rw [count, unmapped _ (tracked.pointer_le holding before)]
    exact tracked.unmapped holding before
  case unmapped_le => exact bound

theorem attach {id : Int} {address : Nat} {readOnly : Bool} {view : View} {after : SharedMemory}
    (pointer : view.pointer = process.memory.lastPointer + 1)
    (lastPointer : after.lastPointer = process.memory.lastPointer + 1)
    (unmapped : after.unmapped = process.memory.unmapped) :
    Tracked (past ++ [(.attach id address readOnly, .view view)])
      ⟨after, ⟨id, view⟩ :: process.held⟩ := by
  have same (holding : Holding) :
      AttachedIn (past ++ [(.attach id address readOnly, .view view)]) holding ↔
        AttachedIn past holding ∨ holding = ⟨id, view⟩ := by
    rw [attachedIn_append]
    refine or_congr_right ⟨?_, ?_⟩
    · rintro ⟨_, _, equal⟩
      cases equal
      rfl
    · rintro rfl
      exact ⟨address, readOnly, rfl⟩
  have count (holding : Holding) :
      returns (past ++ [(.attach id address readOnly, .view view)]) holding =
        returns past holding := by
    rw [returns_append, if_neg (by simp), Nat.add_zero]
  have fresh {holding : Holding} (was : AttachedIn past holding) :
      holding.view.pointer ≠ view.pointer := by
    rw [pointer]
    exact Nat.ne_of_lt (Nat.lt_succ_of_le (tracked.pointer_le holding was))
  -- The pointer is new, so this view was never attached before, nor given back.
  have never : ¬ AttachedIn past ⟨id, view⟩ := fun was => fresh was rfl
  have unreturned : returns past ⟨id, view⟩ = 0 :=
    Decidable.not_not.mp (mt (tracked.attachedFirst ⟨id, view⟩) never)
  constructor
  case attached =>
    intro holding member
    rcases List.mem_cons.mp member with new | old
    · exact (same holding).mpr (.inr new)
    · exact (same holding).mpr (.inl (tracked.attached holding old))
  case pointer_le =>
    intro holding was
    rw [lastPointer]
    rcases (same holding).mp was with old | rfl
    · exact Nat.le_succ_of_le (tracked.pointer_le holding old)
    · exact Nat.le_of_eq pointer
  case distinct =>
    intro first second firstWas secondWas equal
    rcases (same first).mp firstWas with firstOld | rfl
    · rcases (same second).mp secondWas with secondOld | rfl
      · exact tracked.distinct first second firstOld secondOld equal
      · exact absurd equal (fresh firstOld)
    · rcases (same second).mp secondWas with secondOld | rfl
      · exact absurd equal.symm (fresh secondOld)
      · rfl
  case balanced =>
    intro holding was
    rw [count]
    rcases (same holding).mp was with old | rfl
    · have different : holding ≠ ⟨id, view⟩ := fun equal => never (equal ▸ old)
      rw [tracked.balanced holding old]
      simp only [List.mem_cons, different, false_or]
    · rw [unreturned, if_pos List.mem_cons_self]
  case attachedFirst =>
    intro holding returned
    rw [count] at returned
    exact (same holding).mpr (.inl (tracked.attachedFirst holding returned))
  case unmapped =>
    intro holding was
    rw [count, unmapped]
    rcases (same holding).mp was with old | rfl
    · exact tracked.unmapped holding old
    · rw [unreturned, pointer, List.count_eq_zero]
      exact fun told => Nat.not_succ_le_self _ (tracked.unmapped_le _ told)
  case unmapped_le =>
    intro other told
    rw [unmapped] at told
    rw [lastPointer]
    exact Nat.le_succ_of_le (tracked.unmapped_le other told)

theorem giveBack (once : process.held.Nodup) {operation : Operation} {holding : Holding}
    (given : operation = .detach holding ∨ operation = .drop holding)
    (member : holding ∈ process.held) {after : SharedMemory}
    (lastPointer : after.lastPointer = process.memory.lastPointer)
    (unmapped : after.unmapped = holding.view.pointer :: process.memory.unmapped) :
    Tracked (past ++ [(operation, .done)]) ⟨after, process.held.erase holding⟩ := by
  have was := tracked.attached holding member
  have same (other : Holding) :
      AttachedIn (past ++ [(operation, .done)]) other ↔ AttachedIn past other := by
    rw [attachedIn_append]
    refine or_iff_left ?_
    rintro ⟨_, _, equal⟩
    cases equal
  have count (other : Holding) :
      returns (past ++ [(operation, .done)]) other =
        returns past other + if other = holding then 1 else 0 := by
    have names : ((operation, Answer.done) = (.detach other, .done) ∨
        (operation, Answer.done) = (.drop other, .done)) ↔ other = holding := by
      rcases given with rfl | rfl <;> simp [eq_comm]
    simp only [returns_append, names]
  constructor
  case attached =>
    exact fun other left =>
      (same other).mpr (tracked.attached other (List.mem_of_mem_erase left))
  case pointer_le =>
    intro other known
    rw [lastPointer]
    exact tracked.pointer_le other ((same other).mp known)
  case distinct =>
    exact fun first second firstWas secondWas =>
      tracked.distinct first second ((same first).mp firstWas) ((same second).mp secondWas)
  case balanced =>
    intro other known
    rw [count, tracked.balanced other ((same other).mp known)]
    by_cases equal : other = holding
    · subst equal
      rw [if_pos member, if_pos rfl, if_neg once.not_mem_erase]
    · rw [if_neg equal, Nat.add_zero]
      simp only [List.mem_erase_of_ne equal]
  case attachedFirst =>
    intro other returned
    by_cases equal : other = holding
    · exact (same other).mpr (equal ▸ was)
    · rw [count, if_neg equal, Nat.add_zero] at returned
      exact (same other).mpr (tracked.attachedFirst other returned)
  case unmapped =>
    intro other known
    have before := (same other).mp known
    rw [count, unmapped, List.count_cons, tracked.unmapped other before]
    by_cases equal : other = holding
    · simp [equal]
    · -- Telling the kernel one pointer says nothing about another view.
      have apart : holding.view.pointer ≠ other.view.pointer := fun pointers =>
        equal (tracked.distinct other holding before was pointers.symm)
      simp [equal, apart]
  case unmapped_le =>
    intro pointer told
    rw [unmapped] at told
    rw [lastPointer]
    rcases List.mem_cons.mp told with rfl | old
    · exact tracked.pointer_le holding was
    · exact tracked.unmapped_le pointer old

theorem step (owned : Owned process) (operation : Operation) :
    Tracked (past ++ [(operation, (step process operation).1)]) (step process operation).2 := by
  have effect := owned.effect operation
  generalize (SharedMemory.step process operation).1 = answer,
    (SharedMemory.step process operation).2 = next at effect ⊢
  cases effect with
  | nothing report =>
      refine tracked.pass ?_ ?_ (Nat.le_refl _) (fun _ _ => rfl) tracked.unmapped_le
      · rintro _ _ _ _ equal
        cases equal
        cases report
      · rintro _ (equal | equal)
        all_goals
          cases equal
          cases report
  | found _ | created | removed _ | written _ _ _ _ =>
      exact tracked.pass (by simp) (by simp) (Nat.le_refl _) (fun _ _ => rfl) tracked.unmapped_le
  | attached _ => exact tracked.attach rfl rfl rfl
  | undone _ =>
      refine tracked.pass (by simp) (by simp) (Nat.le_succ _) ?_ ?_
      · intro pointer bound
        exact List.count_cons_of_ne (Nat.ne_of_gt (Nat.lt_succ_of_le bound))
      · intro pointer told
        rcases List.mem_cons.mp told with rfl | old
        · exact Nat.le_refl _
        · exact Nat.le_succ_of_le (tracked.unmapped_le pointer old)
  | returned given member _ => exact tracked.giveBack owned.once given member rfl rfl

end Tracked

theorem not_attachedIn_nil {holding : Holding} : ¬ AttachedIn [] holding := by
  rintro ⟨_, _, member⟩
  cases member

theorem tracked_start (refusals : List (Option Errno)) : Tracked [] (.start refusals) where
  attached _ member := nomatch member
  pointer_le _ was := absurd was not_attachedIn_nil
  distinct _ _ was := absurd was not_attachedIn_nil
  balanced _ was := absurd was not_attachedIn_nil
  attachedFirst _ returned := absurd rfl returned
  unmapped _ was := absurd was not_attachedIn_nil
  unmapped_le _ member := nomatch member

end Confinement.SharedMemory
