import Confinement.Proofs.Rights.Containment

/-!
Monotonic narrowing. A run that narrows, erases and takes differences never gains a right, whatever
it is given, whatever is refused and wherever an edit stops. So every set it visits is contained in
all sets visited before, and asks and shows no more than they do.
-/

namespace Confinement.RightsSet

/-- Every operation but the two that add rights. -/
def Operation.shrinks : Operation → Bool
  | .insert _ | .union _ => false
  | _ => true

/-- What a set leaves to the sets that come after it. -/
structure Narrowed (earlier later : RightsSet) : Prop where
  contains : earlier.contains later = true
  mem : ∀ bit : RightBit, bit ∈ later → bit ∈ earlier
  holdsAll : ∀ rights, later.holdsAll rights = .ok true → earlier.holdsAll rights = .ok true
  names : later.names.Sublist earlier.names
  narrow : ∀ requested granted,
    later.narrow requested = .ok granted → earlier.narrow requested = .ok granted

theorem narrowed_of_contains {earlier later : RightsSet} (same : earlier.marks = later.marks)
    (included : earlier.contains later = true) : Narrowed earlier later where
  contains := included
  mem := (contains_iff_mem same).mp included
  holdsAll := fun _ held => holdsAll_mono same included held
  names := names_sublist same included
  narrow := by
    intro requested granted narrowed
    obtain ⟨valid, fits, rfl⟩ := narrow_eq_ok_iff.mp narrowed
    exact narrow_eq_ok_iff.mpr ⟨valid, contains_trans included fits, rfl⟩

theorem covers_removed (right word : Word) : covers word (removed right word) = true := by
  rw [covers_iff_getLsbD]
  intro place present
  rw [Word.getLsbD_removed, Bool.and_eq_true] at present
  exact present.1

theorem contains_modify {set : RightsSet} {index : Fin 2} {change : Word → Word}
    (shrinks : covers (set.word index) (change (set.word index)) = true) :
    set.contains (set.modify index change) = true := by
  rw [contains_iff]
  intro other
  rw [word_modify]
  by_cases same : other = index
  · rw [if_pos same, same]
    exact shrinks
  · rw [if_neg same]
    exact covers_refl _

/-- Erasing leaves a part of the set, also where it stops at a right that is refused. -/
theorem contains_eraseAll (set : RightsSet) (rights : List Word) :
    set.contains (set.eraseAll rights).1 = true := by
  unfold eraseAll edit
  cases set.checkVersion with
  | error reason => exact contains_refl set
  | ok _ =>
      simp only
      induction rights generalizing set with
      | nil => exact contains_refl set
      | cons right rights ih =>
          cases located : set.locate right with
          | error reason =>
              simp only [changeEach, located]
              exact contains_refl set
          | ok index =>
              simp only [changeEach, located]
              exact contains_trans (contains_modify (covers_removed right _)) (ih _)

theorem contains_difference (set other : RightsSet) :
    set.contains (set.difference other) = true := by
  rw [contains_iff]
  intro index
  rw [word_difference]
  exact covers_removed _ _

theorem contains_step (set : RightsSet) {operation : Operation}
    (shrinks : operation.shrinks = true) : set.contains (set.step operation).2 = true := by
  cases operation with
  | insert rights => cases shrinks
  | union other => cases shrinks
  | erase rights => exact contains_eraseAll set rights
  | difference other => exact contains_difference set other
  | narrow requested =>
      cases narrowed : set.narrow requested with
      | error reason =>
          simp only [step, narrowed]
          exact contains_refl set
      | ok granted =>
          obtain ⟨_, included, rfl⟩ := narrow_eq_ok_iff.mp narrowed
          simpa only [step, narrowed] using included
  | holds _ | contains _ | equals _ | isEmpty => exact contains_refl set

/-- Every set of a shrinking run is valid and leaves to all later ones no right but its own. -/
theorem visited_pairwise_narrowed {start : RightsSet} (valid : start.isValid = true)
    {operations : List Operation}
    (shrinking : ∀ operation ∈ operations, operation.shrinks = true) :
    (∀ set ∈ visited step start operations, set.isValid = true) ∧
      (visited step start operations).Pairwise Narrowed := by
  have allValid := isValid_visited valid operations
  have contained : (visited step start operations).Pairwise
      fun earlier later => earlier.contains later = true :=
    visited_pairwise (fun _ => True) (fun operation : Operation => operation.shrinks = true) _
      contains_trans (fun _ _ _ _ => trivial) (fun set _ _ shrinks => contains_step set shrinks)
      trivial shrinking
  refine ⟨allValid, contained.imp_of_mem ?_⟩
  intro earlier later earlierMember laterMember included
  exact narrowed_of_contains
    (marks_eq_of_isValid (allValid earlier earlierMember) (allValid later laterMember)) included

/-- A wider request is refused, a malformed one too, and erasing stops at a right without a marker
after it has taken away reading. What is left can still be narrowed to the right to look up. -/
theorem visited_pairwise_narrowed_refusals :
    let start : RightsSet := ⟨0x0200000000000403, 0x0400000000000020⟩
    let operations : List Operation :=
      [.narrow ⟨0x0200000000000407, 0x0400000000000020⟩, .narrow ⟨0x0200000000000001, 0⟩,
        .erase [Right.read, 0, Right.write], .difference ⟨0, -1⟩,
        .narrow ⟨0x0200000000000400, 0x0400000000000000⟩]
    start.isValid = true ∧ (∀ operation ∈ operations, operation.shrinks = true) ∧
      visited step start operations =
        [start, start, start, ⟨0x0200000000000402, 0x0400000000000020⟩,
          ⟨0x0200000000000402, 0x0400000000000000⟩, ⟨0x0200000000000400, 0x0400000000000000⟩] ∧
      (visited step start operations).Pairwise Narrowed := by
  intro start operations
  have valid : start.isValid = true := by decide
  have shrinking : ∀ operation ∈ operations, operation.shrinks = true := by decide
  exact ⟨valid, shrinking, by decide, (visited_pairwise_narrowed valid shrinking).2⟩

end Confinement.RightsSet
