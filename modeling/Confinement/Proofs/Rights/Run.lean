import Confinement.Proofs.History
import Confinement.Proofs.Rights.Mark

/-!
Runs of operations on one rights set, with arbitrary rights and arbitrary other sets. A refused edit
leaves what it did before the refusal, and a refused narrowing leaves the set as it is.
-/

namespace Confinement.RightsSet

/-- Edits of a set, its replacement by a narrower one, and tests. -/
inductive Operation where
  | insert (rights : List Word)
  | erase (rights : List Word)
  | union (other : RightsSet)
  | difference (other : RightsSet)
  | narrow (requested : RightsSet)
  | holds (rights : List Word)
  | contains (other : RightsSet)
  | equals (other : RightsSet)
  | isEmpty
deriving DecidableEq, Repr

inductive Answer where
  | done
  | truth (value : Bool)
  | refused (reason : RightsError)
deriving DecidableEq, Repr

def Answer.ofEdit : Except RightsError Unit → Answer
  | .ok () => .done
  | .error reason => .refused reason

theorem Answer.ofEdit_eq_refused {result : Except RightsError Unit} {reason : RightsError} :
    ofEdit result = .refused reason ↔ result = .error reason := by
  cases result with
  | error cause => simp [ofEdit]
  | ok _ => simp [ofEdit]

def Answer.ofTest : Except RightsError Bool → Answer
  | .ok value => .truth value
  | .error reason => .refused reason

/-- The answer to an operation and the set after it. -/
def step (set : RightsSet) : Operation → Answer × RightsSet
  | .insert rights => (.ofEdit (set.insertAll rights).2, (set.insertAll rights).1)
  | .erase rights => (.ofEdit (set.eraseAll rights).2, (set.eraseAll rights).1)
  | .union other => (.done, set.union other)
  | .difference other => (.done, set.difference other)
  | .narrow requested =>
      match set.narrow requested with
      | .ok next => (.done, next)
      | .error reason => (.refused reason, set)
  | .holds rights => (.ofTest (set.holdsAll rights), set)
  | .contains other => (.truth (set.contains other), set)
  | .equals other => (.truth (set == other), set)
  | .isEmpty => (.truth set.isEmpty, set)

theorem narrow_eq_ok_iff {set requested granted : RightsSet} :
    set.narrow requested = .ok granted ↔
      requested.isValid = true ∧ set.contains requested = true ∧ granted = requested := by
  unfold narrow
  by_cases valid : requested.isValid = true
  · have version := version_of_isValid valid
    by_cases included : set.contains requested = true
    · simp [version, valid, included, eq_comm]
    · simp [version, valid, included]
  · constructor
    · intro narrowed
      split at narrowed
      · cases narrowed
      · simp [valid] at narrowed
    · intro ⟨wellFormed, _⟩
      exact absurd wellFormed valid

/-- Narrowing by a valid set fails for one reason only. -/
theorem narrow_of_isValid {set requested : RightsSet} (valid : requested.isValid = true) :
    set.narrow requested =
      if set.contains requested then .ok requested else .error .notCapable := by
  cases included : set.contains requested with
  | true =>
      rw [if_pos rfl]
      exact narrow_eq_ok_iff.mpr ⟨valid, included, rfl⟩
  | false => simp [narrow, version_of_isValid valid, valid, included]

theorem isValid_edit {change : Word → Word → Word} (keeps : KeepsMark change) (set : RightsSet)
    (rights : List Word) : (edit change set rights).1.isValid = set.isValid :=
  isValid_congr (marks_edit keeps set rights)

theorem isValid_union (set other : RightsSet) : (set.union other).isValid = set.isValid :=
  isValid_congr (marks_union set other)

theorem isValid_difference (set other : RightsSet) :
    (set.difference other).isValid = set.isValid :=
  isValid_congr (marks_difference set other)

theorem isValid_step {set : RightsSet} (valid : set.isValid = true) (operation : Operation) :
    (set.step operation).2.isValid = true := by
  cases operation with
  | insert rights => exact (isValid_edit keepsMark_added set rights).trans valid
  | erase rights => exact (isValid_edit keepsMark_removed set rights).trans valid
  | union other => exact (isValid_union set other).trans valid
  | difference other => exact (isValid_difference set other).trans valid
  | narrow requested =>
      cases narrowed : set.narrow requested with
      | error reason => simpa only [step, narrowed] using valid
      | ok granted =>
          obtain ⟨wellFormed, _, rfl⟩ := narrow_eq_ok_iff.mp narrowed
          simpa only [step, narrowed] using wellFormed
  | holds _ | contains _ | equals _ | isEmpty => exact valid

theorem isValid_visited {start : RightsSet} (valid : start.isValid = true)
    (operations : List Operation) : ∀ set ∈ visited step start operations, set.isValid = true :=
  visited_invariant (fun set : RightsSet => set.isValid = true) (fun _ => True)
    (fun _ operation held _ => isValid_step held operation) valid (fun _ _ => trivial)

end Confinement.RightsSet
