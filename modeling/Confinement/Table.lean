/-!
Tables: values by key, with one value at most for each key that counts. Main statement: a table
after a change is read as before, except at the key that was changed.
-/

namespace Confinement

/-- Pairs of a key and a value. The first pair with a key counts. -/
structure Table (κ ν : Type) where
  entries : List (κ × ν) := []
deriving DecidableEq, Repr, Inhabited

namespace Table

variable {κ ν : Type} [BEq κ]

def find? (table : Table κ ν) (key : κ) : Option ν :=
  table.entries.lookup key

def erase (table : Table κ ν) (key : κ) : Table κ ν :=
  ⟨table.entries.filter (·.1 != key)⟩

/-- Gives a key a value, in place of any other it had. -/
def put (table : Table κ ν) (key : κ) (value : ν) : Table κ ν :=
  ⟨(key, value) :: (table.erase key).entries⟩

/-- Replaces the value of a key by what `change` makes of it, possibly nothing. A key without a value
stays without. -/
def alter (table : Table κ ν) (key : κ) (change : ν → Option ν) : Table κ ν :=
  match (table.find? key).map change with
  | none => table
  | some none => table.erase key
  | some (some value) => table.put key value

/-- Puts entries in order, so that of two with one key the later counts. -/
def putAll (table : Table κ ν) (entries : List (κ × ν)) : Table κ ν :=
  entries.foldl (fun table entry => table.put entry.1 entry.2) table

theorem find?_empty (key : κ) : ({} : Table κ ν).find? key = none := rfl

variable [LawfulBEq κ]

theorem lookup_cons_eq_ite (entries : List (κ × ν)) [DecidableEq κ] (key other : κ) (value : ν) :
    ((key, value) :: entries).lookup other =
      if other = key then some value else entries.lookup other := by
  by_cases same : other = key
  · rw [same, List.lookup_cons_self, if_pos rfl]
  · rw [List.lookup_cons, beq_false_of_ne same, if_neg same]

theorem lookup_cons_ne (entries : List (κ × ν)) {key other : κ} (value : ν)
    (different : other ≠ key) :
    ((key, value) :: entries).lookup other = entries.lookup other := by
  rw [List.lookup_cons, beq_false_of_ne different]

theorem find?_erase_self (table : Table κ ν) (key : κ) : (table.erase key).find? key = none := by
  obtain ⟨entries⟩ := table
  simp only [find?, erase]
  induction entries with
  | nil => rfl
  | cons entry entries ih =>
      obtain ⟨first, value⟩ := entry
      by_cases same : first = key
      · simpa [same] using ih
      · rw [List.filter_cons_of_pos (by simp [same]), lookup_cons_ne _ value (Ne.symm same), ih]

theorem find?_erase_ne (table : Table κ ν) {key other : κ} (different : other ≠ key) :
    (table.erase key).find? other = table.find? other := by
  obtain ⟨entries⟩ := table
  simp only [find?, erase]
  induction entries with
  | nil => rfl
  | cons entry entries ih =>
      obtain ⟨first, value⟩ := entry
      by_cases same : first = key
      · subst same
        rw [lookup_cons_ne entries value different, ← ih]
        simp
      · rw [List.filter_cons_of_pos (by simp [same])]
        by_cases found : other = first
        · simp [found]
        · rw [lookup_cons_ne _ value found, lookup_cons_ne _ value found, ih]

theorem find?_put_self (table : Table κ ν) (key : κ) (value : ν) :
    (table.put key value).find? key = some value := by
  simp [find?, put]

theorem find?_put_ne (table : Table κ ν) {key other : κ} (value : ν) (different : other ≠ key) :
    (table.put key value).find? other = table.find? other := by
  rw [← find?_erase_ne table different]
  exact lookup_cons_ne _ value different

theorem find?_alter_self (table : Table κ ν) (key : κ) (change : ν → Option ν) :
    (table.alter key change).find? key = (table.find? key).bind change := by
  unfold alter
  cases found : table.find? key with
  | none => exact found
  | some value =>
      simp only [Option.map_some, Option.bind_some]
      cases changed : change value with
      | none => exact find?_erase_self table key
      | some after => exact find?_put_self table key after

theorem find?_alter_ne (table : Table κ ν) {key other : κ} (change : ν → Option ν)
    (different : other ≠ key) : (table.alter key change).find? other = table.find? other := by
  unfold alter
  split
  · rfl
  · exact find?_erase_ne table different
  · next after _ => exact find?_put_ne table after different

theorem isSome_find?_of_mem {table : Table κ ν} {entry : κ × ν} (member : entry ∈ table.entries) :
    (table.find? entry.1).isSome = true := by
  obtain ⟨entries⟩ := table
  simp only [find?] at member ⊢
  induction entries with
  | nil => cases member
  | cons first entries ih =>
      obtain ⟨key, value⟩ := first
      by_cases same : entry.1 = key
      · rw [same, List.lookup_cons_self]
        rfl
      · rw [lookup_cons_ne entries value same]
        rcases List.mem_cons.mp member with rfl | later
        · exact absurd rfl same
        · exact ih later

end Table

end Confinement
