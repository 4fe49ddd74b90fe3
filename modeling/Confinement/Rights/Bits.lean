import Confinement.Rights.Set

/-!
Rights sets as sets of bits. A bit is a position below the marker in one of the two words. Main
statements: union, difference and emptiness of rights sets are those of their bits, whatever markers
and versions the words carry.
-/

namespace Confinement

/-- A place for a right in a set. -/
structure RightBit where
  index : Fin 2
  position : Fin 57
deriving DecidableEq, Repr

namespace RightsSet

instance : Membership RightBit RightsSet where
  mem set bit := (set.word bit.index).getLsbD bit.position = true

instance (bit : RightBit) (set : RightsSet) : Decidable (bit ∈ set) :=
  inferInstanceAs (Decidable (_ = true))

theorem mem_def {bit : RightBit} {set : RightsSet} :
    bit ∈ set ↔ (set.word bit.index).getLsbD bit.position = true :=
  Iff.rfl

theorem getLsbD_rightBits_position (word : Word) (position : Fin 57) :
    word.rightBits.getLsbD position = word.getLsbD position := by
  rw [Word.getLsbD_rightBits, decide_eq_true position.isLt, Bool.and_true]

theorem word_union (set other : RightsSet) (index : Fin 2) :
    (set.union other).word index = set.word index ||| (other.word index).rightBits := by
  match index with
  | 0 => rfl
  | 1 => rfl

theorem word_difference (set other : RightsSet) (index : Fin 2) :
    (set.difference other).word index = removed (other.word index) (set.word index) := by
  match index with
  | 0 => rfl
  | 1 => rfl

theorem mem_union {bit : RightBit} {set other : RightsSet} :
    bit ∈ set.union other ↔ bit ∈ set ∨ bit ∈ other := by
  simp only [mem_def, word_union, BitVec.getLsbD_or, getLsbD_rightBits_position, Bool.or_eq_true]

theorem mem_difference {bit : RightBit} {set other : RightsSet} :
    bit ∈ set.difference other ↔ bit ∈ set ∧ bit ∉ other := by
  have inside : bit.position.val < 64 := Nat.lt_trans bit.position.isLt (by decide)
  rw [mem_def, word_difference, removed, BitVec.getLsbD_and, BitVec.getLsbD_not,
    getLsbD_rightBits_position, decide_eq_true inside, Bool.true_and, Bool.and_eq_true]
  simp only [mem_def, Bool.not_eq_true', Bool.not_eq_true]

theorem rightBits_eq_zero_iff {word : Word} :
    word.rightBits = 0 ↔ ∀ position : Fin 57, word.getLsbD position = false := by
  constructor
  · intro empty position
    rw [← getLsbD_rightBits_position, empty]
    exact BitVec.getLsbD_zero
  · intro absent
    apply BitVec.eq_of_getLsbD_eq
    intro place _
    rw [Word.getLsbD_rightBits]
    by_cases low : place < 57
    · simp [absent ⟨place, low⟩]
    · simp [low]

theorem isEmpty_iff {set : RightsSet} : set.isEmpty = true ↔ ∀ bit : RightBit, bit ∉ set := by
  simp only [isEmpty, Bool.and_eq_true, beq_iff_eq, rightBits_eq_zero_iff]
  constructor
  · intro absent bit present
    obtain ⟨index, position⟩ := bit
    match index with
    | 0 => exact Bool.false_ne_true ((absent.1 position).symm.trans present)
    | 1 => exact Bool.false_ne_true ((absent.2 position).symm.trans present)
  · intro absent
    exact ⟨fun position => Bool.eq_false_iff.mpr (absent ⟨0, position⟩),
      fun position => Bool.eq_false_iff.mpr (absent ⟨1, position⟩)⟩

end RightsSet

end Confinement
