import Confinement.Proofs.Rights.Members

/-!
Rights sets refine plain sets of bits. As long as rights that a valid set takes and valid other sets
are all that it meets, each of its answers and the bits it is left with are those of a machine that
knows unions, differences and inclusions of bits and neither words nor markers.
-/

namespace Confinement

/-- What can be asked of a plain set of bits. -/
inductive BitOperation where
  | add (bits : Finset RightBit)
  | drop (bits : Finset RightBit)
  | restrict (bits : Finset RightBit)
  | includes (bits : Finset RightBit)
  | equals (bits : Finset RightBit)
  | isEmpty

/-- The answer of a plain set of bits and the set after it. -/
def BitOperation.step (held : Finset RightBit) :
    BitOperation → RightsSet.Answer × Finset RightBit
  | .add bits => (.done, held ∪ bits)
  | .drop bits => (.done, held \ bits)
  | .restrict bits =>
      if bits ⊆ held then (.done, bits) else (.refused .notCapable, held)
  | .includes bits => (.truth (decide (bits ⊆ held)), held)
  | .equals bits => (.truth (decide (held = bits)), held)
  | .isEmpty => (.truth (decide (held = ∅)), held)

namespace RightsSet

/-- An operation on a set as the operation on its bits. Lists of rights and whole sets come to the
same. -/
def Operation.onBits : Operation → BitOperation
  | .insert rights => .add (Right.bitsOf rights)
  | .erase rights => .drop (Right.bitsOf rights)
  | .union other => .add other.bits
  | .difference other => .drop other.bits
  | .narrow requested => .restrict requested.bits
  | .holds rights => .includes (Right.bitsOf rights)
  | .contains other => .includes other.bits
  | .equals other => .equals other.bits
  | .isEmpty => .isEmpty

/-- The set takes all rights of an operation, and any other set in it is valid. -/
def Operation.Proper (set : RightsSet) : Operation → Prop
  | .insert rights | .erase rights | .holds rights => ∀ right ∈ rights, set.Accepts right
  | .union other | .difference other | .narrow other | .contains other | .equals other =>
      other.isValid = true
  | .isEmpty => True

instance (set : RightsSet) (operation : Operation) : Decidable (operation.Proper set) :=
  match operation with
  | .insert rights | .erase rights | .holds rights => List.decidableBAll set.Accepts rights
  | .union other | .difference other | .narrow other | .contains other | .equals other =>
      inferInstanceAs (Decidable (other.isValid = true))
  | .isEmpty => isTrue trivial

theorem Operation.proper_congr {set other : RightsSet} (same : set.marks = other.marks)
    {operation : Operation} (proper : operation.Proper set) : operation.Proper other := by
  cases operation with
  | insert rights | erase rights | holds rights =>
      exact fun right member => (accepts_congr same).mp (proper right member)
  | union _ | difference _ | narrow _ | contains _ | equals _ => exact proper
  | isEmpty => trivial

theorem step_onBits {set : RightsSet} (valid : set.isValid = true) {operation : Operation}
    (proper : operation.Proper set) :
    operation.onBits.step set.bits = Prod.map id bits (set.step operation) := by
  cases operation with
  | insert rights =>
      obtain ⟨accepted, held⟩ := bits_insertAll valid proper
      simp only [step, accepted, Prod.map, held]
      rfl
  | erase rights =>
      obtain ⟨accepted, held⟩ := bits_eraseAll valid proper
      simp only [step, accepted, Prod.map, held]
      rfl
  | union other => exact congrArg (Answer.done, ·) (bits_union set other).symm
  | difference other => exact congrArg (Answer.done, ·) (bits_difference set other).symm
  | narrow requested =>
      have included := contains_iff_bits_subset (marks_eq_of_isValid valid proper)
      by_cases fits : requested.bits ⊆ set.bits
      · simp only [step, narrow_of_isValid proper, included.mpr fits, if_true, Prod.map]
        exact if_pos fits
      · have refused : ¬ set.contains requested = true := fun fit => fits (included.mp fit)
        simp only [step, narrow_of_isValid proper, if_neg refused, Prod.map]
        exact if_neg fits
  | holds rights =>
      simp only [step, holdsAll_eq valid proper, Prod.map]
      rfl
  | contains other =>
      have included := contains_iff_bits_subset (marks_eq_of_isValid valid proper)
      have answer : set.contains other = decide (other.bits ⊆ set.bits) :=
        Bool.eq_iff_iff.mpr (included.trans decide_eq_true_iff.symm)
      simp only [step, answer, Prod.map]
      rfl
  | equals other =>
      have equal := eq_iff_bits_eq (marks_eq_of_isValid valid proper)
      have answer : (set == other) = decide (set.bits = other.bits) :=
        Bool.eq_iff_iff.mpr (beq_iff_eq.trans (equal.trans decide_eq_true_iff.symm))
      simp only [step, answer, Prod.map]
      rfl
  | isEmpty => exact congrArg (fun value => (Answer.truth value, set.bits)) (isEmpty_eq set).symm

/-- Seen through its bits, a run of a valid set is the run of the plain set machine, answer by answer
and set by set, and it never leaves the valid sets. -/
theorem history_onBits {start : RightsSet} (valid : start.isValid = true)
    {operations : List Operation} (proper : ∀ operation ∈ operations, operation.Proper start) :
    history BitOperation.step start.bits (operations.map Operation.onBits) =
        (history step start operations).map (Prod.map id bits) ∧
      ∀ set ∈ visited step start operations, set.isValid = true := by
  have agrees : ∀ (set : RightsSet) (operation : Operation), set.isValid = true →
      operation.Proper start →
        operation.onBits.step set.bits = Prod.map id bits (set.step operation) := by
    intro set operation held allowed
    exact step_onBits held (Operation.proper_congr (marks_eq_of_isValid valid held) allowed)
  refine ⟨?_, isValid_visited valid operations⟩
  exact history_view (fun set : RightsSet => set.isValid = true)
    (fun operation : Operation => operation.Proper start) bits Operation.onBits
    (fun _ operation held _ => isValid_step held operation) agrees valid proper

/-- Reading at positions brings seeking along, in any order and however often it is named, and
taking seeking away leaves plain reading, to which the set can be narrowed but not back. -/
theorem history_onBits_seek :
    let operations : List Operation :=
      [.insert [Right.pread, Right.event, Right.pread], .holds [Right.seek, Right.read],
        .erase [Right.seek], .contains ⟨0x0200000000000001, 0x0400000000000000⟩,
        .narrow ⟨0x0200000000000001, 0x0400000000000000⟩,
        .narrow ⟨0x020000000000000d, 0x0400000000000000⟩]
    empty.isValid = true ∧ (∀ operation ∈ operations, operation.Proper empty) ∧
      (history step empty operations).map (·.1) =
        [.done, .truth true, .done, .truth true, .done, .refused .notCapable] ∧
      history BitOperation.step empty.bits (operations.map Operation.onBits) =
        (history step empty operations).map (Prod.map id bits) := by
  intro operations
  have proper : ∀ operation ∈ operations, operation.Proper empty := by decide
  exact ⟨isValid_empty, proper, by decide, (history_onBits isValid_empty proper).1⟩

end RightsSet

end Confinement
