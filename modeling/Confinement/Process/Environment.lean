import Confinement.Errno
import Confinement.Table
import Confinement.Text.Utf8

/-!
The environment of a process: byte strings by byte strings, at most one value for each key. Callers
assign and remove variables under the rules for keys; a child process gets its parent's environment
with some variables put over those it had.

What a process is handed are strings, and a variable is found by the string that begins with its key
and an equals sign. A key with an equals sign in it may so find what was meant for a shorter one.
Main statement: where no key has one, the value found for a key is the one it was given.
-/

namespace Confinement

abbrev Environment := Table Bytes Bytes

namespace Environment

/-- A key is not empty and has neither `=` nor NUL in it. -/
def isKey (key : Bytes) : Bool :=
  !key.isEmpty && !key.contains 0x3d && !key.contains 0

/-- Sets a variable. An empty value is a value; NUL cannot be part of one. -/
def assign (environment : Environment) (key value : Bytes) : Except Errno Environment :=
  if !isKey key || value.contains 0 then .error .invalid
  else .ok (environment.put key value)

/-- Unsets a variable, which need not be set. -/
def remove (environment : Environment) (key : Bytes) : Except Errno Environment :=
  if isKey key then .ok (environment.erase key) else .error .invalid

/-- Sets a variable among others that are ordered by key. -/
def insertVariable (key value : Bytes) : List (Bytes × Bytes) → List (Bytes × Bytes)
  | [] => [(key, value)]
  | entry :: rest =>
      if entry.1 = key then (key, value) :: rest
      else if key < entry.1 then (key, value) :: entry :: rest
      else entry :: insertVariable key value rest

/-- The variables in the order of their keys, in which a process is handed them. -/
def ordered (environment : Environment) : List (Bytes × Bytes) :=
  environment.entries.foldr (fun entry found => insertVariable entry.1 entry.2 found) []

/-- The string as which a process is handed a variable. -/
def handed (entry : Bytes × Bytes) : Bytes :=
  entry.1 ++ 0x3d :: entry.2

/-- What a string holds behind a key and an equals sign, if it begins with them. -/
def heldFor? : Bytes → Bytes → Option Bytes
  | _, [] => none
  | [], byte :: rest => if byte = 0x3d then some rest else none
  | first :: key, byte :: rest => if first = byte then heldFor? key rest else none

/-- The value of a variable: what the first string for its key holds. No variable has an empty key
or one with NUL in it. -/
def value? (environment : Environment) (key : Bytes) : Option Bytes :=
  if key.isEmpty || key.contains 0 then none
  else environment.ordered.findSome? fun entry => heldFor? key (handed entry)

/-- The value of a variable as text. -/
def text? (environment : Environment) (key : Bytes) : Option String :=
  (environment.value? key).map lossy

theorem heldFor?_handed_self (key value : Bytes) :
    heldFor? key (handed (key, value)) = some value := by
  induction key with
  | nil => rfl
  | cons byte key ih => exact (if_pos rfl).trans ih

theorem heldFor?_handed_ne {key other : Bytes} (value : Bytes) (different : other ≠ key)
    (plain : (0x3d : UInt8) ∉ key) (otherPlain : (0x3d : UInt8) ∉ other) :
    heldFor? key (handed (other, value)) = none := by
  induction key generalizing other with
  | nil =>
      cases other with
      | nil => exact absurd rfl different
      | cons byte other =>
          exact if_neg fun same : byte = 0x3d => otherPlain (same ▸ List.mem_cons_self)
  | cons first key ih =>
      cases other with
      | nil => exact if_neg fun same : first = 0x3d => plain (same ▸ List.mem_cons_self)
      | cons byte other =>
          by_cases same : first = byte
          · subst same
            exact (if_pos rfl).trans (ih (fun equal => different (by rw [equal]))
              (fun member => plain (List.mem_cons_of_mem _ member))
              fun member => otherPlain (List.mem_cons_of_mem _ member))
          · exact if_neg same

theorem heldFor?_eq_none_of_lt {key other : Bytes} (value : Bytes)
    (plain : (0x3d : UInt8) ∉ key) (earlier : other < key) :
    heldFor? key (handed (other, value)) = none := by
  induction key generalizing other with
  | nil => exact absurd earlier (List.not_lt_nil other)
  | cons first key ih =>
      cases other with
      | nil => exact if_neg fun same : first = 0x3d => plain (same ▸ List.mem_cons_self)
      | cons byte other =>
          by_cases same : first = byte
          · subst same
            exact (if_pos rfl).trans (ih (fun member => plain (List.mem_cons_of_mem _ member))
              (List.cons_lt_cons_self.mp earlier))
          · exact if_neg same

/-- A variable set among others is found by its key, and all others as before. -/
theorem findSome?_insertVariable {key other : Bytes} (value : Bytes)
    (entries : List (Bytes × Bytes)) (plain : (0x3d : UInt8) ∉ key)
    (otherPlain : (0x3d : UInt8) ∉ other) :
    (insertVariable other value entries).findSome? (fun entry => heldFor? key (handed entry)) =
      if key = other then some value
      else entries.findSome? fun entry => heldFor? key (handed entry) := by
  have atFront (rest : List (Bytes × Bytes)) :
      ((other, value) :: rest).findSome? (fun entry => heldFor? key (handed entry)) =
        if key = other then some value
        else rest.findSome? fun entry => heldFor? key (handed entry) := by
    by_cases same : key = other
    · subst same
      simp [heldFor?_handed_self]
    · simp [heldFor?_handed_ne value (Ne.symm same) plain otherPlain, same]
  induction entries with
  | nil => exact atFront []
  | cons first rest ih =>
      simp only [insertVariable]
      split
      · next replaced =>
          rw [atFront rest]
          by_cases same : key = other
          · rw [if_pos same, if_pos same]
          · have missed : heldFor? key (handed first) = none :=
              heldFor?_handed_ne first.2 (by rw [replaced]; exact Ne.symm same) plain
                (replaced ▸ otherPlain)
            rw [if_neg same, if_neg same, List.findSome?_cons, missed]
      · next different =>
          split
          · exact atFront (first :: rest)
          · next notBefore =>
              rw [List.findSome?_cons, List.findSome?_cons, ih]
              by_cases same : key = other
              · -- No entry ahead of the variable is found in its place.
                have ahead : first.1 < key :=
                  same ▸ Std.lt_of_le_of_ne (List.not_lt.mp notBefore) different
                rw [heldFor?_eq_none_of_lt first.2 plain ahead, if_pos same]
              · rw [if_neg same, if_neg same]

theorem equals_notMem_of_isKey {key : Bytes} (valid : isKey key = true) :
    (0x3d : UInt8) ∉ key := by
  simp only [isKey, Bool.and_eq_true, Bool.not_eq_true', List.contains_eq_mem,
    decide_eq_false_iff_not] at valid
  exact valid.1.2

theorem nul_notMem_of_isKey {key : Bytes} (valid : isKey key = true) : (0 : UInt8) ∉ key := by
  simp only [isKey, Bool.and_eq_true, Bool.not_eq_true', List.contains_eq_mem,
    decide_eq_false_iff_not] at valid
  exact valid.2

theorem value?_of_isKey (environment : Environment) {key : Bytes} (valid : isKey key = true) :
    environment.value? key =
      environment.ordered.findSome? fun entry => heldFor? key (handed entry) := by
  simp only [isKey, Bool.and_eq_true, Bool.not_eq_true'] at valid
  obtain ⟨⟨nonempty, _⟩, noNul⟩ := valid
  simp only [value?, nonempty, noNul, Bool.or_false, Bool.false_eq_true, if_false]

theorem value?_eq_find? (environment : Environment) {key : Bytes} (valid : isKey key)
    (allPlain : ∀ entry ∈ environment.entries, (0x3d : UInt8) ∉ entry.1) :
    environment.value? key = environment.find? key := by
  have plain := equals_notMem_of_isKey valid
  obtain ⟨entries⟩ := environment
  rw [value?_of_isKey _ valid, Table.find?]
  induction entries with
  | nil => rfl
  | cons first rest ih =>
      have restPlain := fun entry member => allPlain entry (List.mem_cons_of_mem first member)
      have inserted := findSome?_insertVariable first.2 (ordered ⟨rest⟩) plain
        (allPlain first List.mem_cons_self)
      refine inserted.trans ?_
      rw [ih restPlain, List.lookup_cons]
      by_cases same : key = first.1
      · simp [same]
      · simp [same, beq_false_of_ne same]

end Environment

end Confinement
