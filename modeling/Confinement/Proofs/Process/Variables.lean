import Confinement.Process.Environment

/-!
Variables put over an environment, whatever keys it had. A variable is then found with the value it
was given and every other variable as before, also where keys of the environment have equals signs
in them.
-/

namespace Confinement.Environment

/-! The order in which variables are handed over. -/

/-- Keys go up from each variable to the next. -/
def IsOrdered (entries : List (Bytes × Bytes)) : Prop :=
  entries.Pairwise fun earlier later => earlier.1 < later.1

theorem mem_insertVariable {key value : Bytes} {entry : Bytes × Bytes}
    {entries : List (Bytes × Bytes)} (member : entry ∈ insertVariable key value entries) :
    entry = (key, value) ∨ entry ∈ entries := by
  induction entries with
  | nil => exact .inl (by simpa [insertVariable] using member)
  | cons first rest ih =>
      simp only [insertVariable] at member
      split at member
      · rcases List.mem_cons.mp member with same | later
        · exact .inl same
        · exact .inr (List.mem_cons_of_mem _ later)
      · split at member
        · exact List.mem_cons.mp member
        · rcases List.mem_cons.mp member with same | later
          · exact .inr (same ▸ List.mem_cons_self)
          · exact (ih later).imp_right (List.mem_cons_of_mem _)

theorem isOrdered_insertVariable {entries : List (Bytes × Bytes)} (sorted : IsOrdered entries)
    (key value : Bytes) : IsOrdered (insertVariable key value entries) := by
  induction entries with
  | nil => exact List.pairwise_singleton _ _
  | cons first rest ih =>
      obtain ⟨below, sortedRest⟩ := List.pairwise_cons.mp sorted
      simp only [insertVariable]
      split
      · next same => exact List.pairwise_cons.mpr ⟨same ▸ below, sortedRest⟩
      · next different =>
          split
          · next before =>
              refine List.pairwise_cons.mpr ⟨?_, sorted⟩
              intro entry member
              rcases List.mem_cons.mp member with rfl | later
              · exact before
              · exact List.lt_trans before (below entry later)
          · next notBefore =>
              refine List.pairwise_cons.mpr ⟨?_, ih sortedRest⟩
              intro entry member
              rcases mem_insertVariable member with rfl | later
              · exact Std.lt_of_le_of_ne (List.not_lt.mp notBefore) different
              · exact below entry later

theorem isOrdered_ordered (entries : List (Bytes × Bytes)) : IsOrdered (ordered ⟨entries⟩) := by
  induction entries with
  | nil => exact .nil
  | cons first rest ih => exact isOrdered_insertVariable ih first.1 first.2

theorem insertVariable_of_lt {key : Bytes} (value : Bytes) {entries : List (Bytes × Bytes)}
    (above : ∀ entry ∈ entries, key < entry.1) :
    insertVariable key value entries = (key, value) :: entries := by
  cases entries with
  | nil => rfl
  | cons first rest =>
      have before := above first List.mem_cons_self
      simp only [insertVariable]
      have different : first.1 ≠ key := fun same => List.lt_irrefl key (same ▸ before)
      rw [if_neg different, if_pos before]

/-- Leaving out the variables with some keys before or after another one is set is the same. -/
theorem filter_insertVariable (keep : Bytes → Bool) (key value : Bytes)
    {entries : List (Bytes × Bytes)} (sorted : IsOrdered entries) :
    (insertVariable key value entries).filter (fun entry => keep entry.1) =
      if keep key then insertVariable key value (entries.filter fun entry => keep entry.1)
      else entries.filter fun entry => keep entry.1 := by
  induction entries with
  | nil => cases kept : keep key <;> simp [insertVariable, kept]
  | cons first rest ih =>
      obtain ⟨below, sortedRest⟩ := List.pairwise_cons.mp sorted
      simp only [insertVariable]
      split
      · next same =>
          subst same
          cases kept : keep first.1 <;> simp [insertVariable, kept]
      · next different =>
          split
          · next before =>
              cases kept : keep key with
              | false => simp [kept]
              | true =>
                  have above : ∀ entry ∈ (first :: rest).filter (fun entry => keep entry.1),
                      key < entry.1 := by
                    intro entry member
                    rcases List.mem_cons.mp (List.mem_filter.mp member).1 with rfl | later
                    · exact before
                    · exact List.lt_trans before (below entry later)
                  rw [insertVariable_of_lt value above]
                  simp [kept]
          · next notBefore =>
              cases keptFirst : keep first.1 with
              | false => simpa [keptFirst] using ih sortedRest
              | true =>
                  simp only [List.filter_cons, keptFirst, if_true, ih sortedRest]
                  cases kept : keep key <;> simp [insertVariable, different, notBefore]

theorem filter_ordered (keep : Bytes → Bool) (entries : List (Bytes × Bytes)) :
    (ordered ⟨entries⟩).filter (fun entry => keep entry.1) =
      ordered ⟨entries.filter fun entry => keep entry.1⟩ := by
  induction entries with
  | nil => rfl
  | cons first rest ih =>
      have step := filter_insertVariable keep first.1 first.2 (isOrdered_ordered rest)
      refine step.trans ?_
      simp only [ih, List.filter_cons]
      cases keep first.1 <;> rfl

/-! Reading variables back. -/

theorem findSome?_filter {α β : Type} {read : α → Option β} {keep : α → Bool} {entries : List α}
    (missed : ∀ entry ∈ entries, keep entry = false → read entry = none) :
    (entries.filter keep).findSome? read = entries.findSome? read := by
  induction entries with
  | nil => rfl
  | cons first rest ih =>
      have tail := ih fun entry member => missed entry (List.mem_cons_of_mem first member)
      cases kept : keep first with
      | true => rw [List.filter_cons_of_pos kept, List.findSome?_cons, List.findSome?_cons, tail]
      | false =>
          rw [List.filter_cons_of_neg (Bool.eq_false_iff.mp kept), tail, List.findSome?_cons,
            missed first List.mem_cons_self kept]

section Read

variable (environment : Environment) {key : Bytes} (valid : isKey key = true)

include valid

theorem value?_erase_ne {other : Bytes} (plain : (0x3d : UInt8) ∉ other) (different : key ≠ other) :
    Environment.value? (environment.erase other) key = environment.value? key := by
  rw [value?_of_isKey _ valid, value?_of_isKey _ valid]
  have rest := filter_ordered (· != other) environment.entries
  refine (congrArg (List.findSome? _) rest.symm).trans (findSome?_filter ?_)
  intro entry _ dropped
  have same : entry.1 = other := by simpa using dropped
  exact heldFor?_handed_ne entry.2 (by rw [same]; exact Ne.symm different)
    (equals_notMem_of_isKey valid) (same ▸ plain)

theorem value?_put {other : Bytes} (value : Bytes) (plain : (0x3d : UInt8) ∉ other) :
    Environment.value? (environment.put other value) key =
      if key = other then some value else environment.value? key := by
  have inserted := findSome?_insertVariable value (Environment.ordered (environment.erase other))
    (equals_notMem_of_isKey valid) plain
  rw [← value?_of_isKey _ valid] at inserted
  rw [value?_of_isKey _ valid]
  refine inserted.trans ?_
  by_cases same : key = other
  · rw [if_pos same, if_pos same]
  · rw [if_neg same, if_neg same, value?_erase_ne environment valid plain same]

/-- Variables put over an environment in the order of their keys are found there, and all others as
before. -/
theorem value?_putAll {entries : List (Bytes × Bytes)} (sorted : IsOrdered entries)
    (plain : ∀ entry ∈ entries, (0x3d : UInt8) ∉ entry.1) :
    Environment.value? (environment.putAll entries) key =
      (entries.lookup key).or (environment.value? key) := by
  induction entries generalizing environment with
  | nil => rfl
  | cons first rest ih =>
      obtain ⟨other, value⟩ := first
      obtain ⟨below, sortedRest⟩ := List.pairwise_cons.mp sorted
      have tail := ih (environment.put other value) sortedRest
        fun entry member => plain entry (List.mem_cons_of_mem _ member)
      have head := value?_put environment valid value (plain (other, value) List.mem_cons_self)
      refine tail.trans ?_
      rw [head, Table.lookup_cons_eq_ite]
      by_cases same : key = other
      · subst same
        -- Keys only go up, so no later variable has this key again.
        have absent : rest.lookup key = none := by
          rw [List.lookup_eq_none_iff]
          intro entry later
          have above := below entry later
          exact bne_iff_ne.mpr fun equal => List.lt_irrefl key (equal ▸ above)
        simp [absent]
      · simp [same]

end Read

theorem lookup_insertVariable (key value : Bytes) (entries : List (Bytes × Bytes)) (other : Bytes) :
    (insertVariable key value entries).lookup other =
      if other = key then some value else entries.lookup other := by
  induction entries with
  | nil => exact Table.lookup_cons_eq_ite [] key other value
  | cons first rest ih =>
      obtain ⟨firstKey, firstValue⟩ := first
      simp only [insertVariable]
      split
      · next replaced =>
          rw [Table.lookup_cons_eq_ite, Table.lookup_cons_eq_ite, replaced]
          by_cases same : other = key <;> simp [same]
      · next different =>
          split
          · exact Table.lookup_cons_eq_ite _ key other value
          · rw [Table.lookup_cons_eq_ite, Table.lookup_cons_eq_ite, ih]
            by_cases found : other = firstKey
            · simp [found, different]
            · simp [found]

end Confinement.Environment
