import Mathlib.Data.List.Basic
import Confinement.Proofs.Rights.Validity
import Confinement.Rights.Listing

/-!
Containment of words and of sets. It is an order on words, and on words with the same mark it is
inclusion of their right bits. A set that contains another passes every test that the other passes.
-/

namespace Confinement.RightsSet

theorem covers_iff_getLsbD {word other : Word} :
    covers word other = true ↔
      ∀ place, other.getLsbD place = true → word.getLsbD place = true := by
  rw [covers, beq_iff_eq]
  constructor
  · intro same place present
    rw [← same, BitVec.getLsbD_and] at present
    exact (Bool.and_eq_true_iff.mp present).1
  · intro included
    apply BitVec.eq_of_getLsbD_eq
    intro place _
    rw [BitVec.getLsbD_and]
    cases present : other.getLsbD place with
    | false => exact Bool.and_false _
    | true => rw [included place present]; rfl

theorem covers_refl (word : Word) : covers word word = true :=
  covers_iff_getLsbD.mpr fun _ present => present

theorem covers_trans {first second third : Word} (upper : covers first second = true)
    (lower : covers second third = true) : covers first third = true :=
  covers_iff_getLsbD.mpr fun place present =>
    covers_iff_getLsbD.mp upper place (covers_iff_getLsbD.mp lower place present)

/-- Only right bits are left to compare where the other word brings no mark of its own. -/
theorem covers_iff {word other : Word} (marked : (word ||| other).mark = word.mark) :
    covers word other = true ↔
      ∀ position : Fin 57, other.getLsbD position = true → word.getLsbD position = true := by
  rw [covers_iff_getLsbD]
  constructor
  · intro included position present
    exact included position present
  · intro included place present
    by_cases low : place < 57
    · exact included ⟨place, low⟩ present
    · have high := Nat.le_of_not_lt low
      have inside : place < 64 := BitVec.lt_of_getLsbD present
      rw [Word.getLsbD_eq_mark word high inside, ← marked, ← Word.getLsbD_eq_mark _ high inside,
        BitVec.getLsbD_or, present, Bool.or_true]

theorem contains_iff {set other : RightsSet} :
    set.contains other = true ↔
      ∀ index, covers (set.word index) (other.word index) = true := by
  rw [contains, Bool.and_eq_true]
  constructor
  · rintro ⟨first, second⟩ index
    match index with
    | 0 => exact first
    | 1 => exact second
  · intro included
    exact ⟨included 0, included 1⟩

theorem contains_refl (set : RightsSet) : set.contains set = true :=
  contains_iff.mpr fun _ => covers_refl _

theorem contains_trans {first second third : RightsSet} (upper : first.contains second = true)
    (lower : second.contains third = true) : first.contains third = true :=
  contains_iff.mpr fun index =>
    covers_trans (contains_iff.mp upper index) (contains_iff.mp lower index)

theorem contains_iff_mem {set other : RightsSet} (same : set.marks = other.marks) :
    set.contains other = true ↔ ∀ bit : RightBit, bit ∈ other → bit ∈ set := by
  have marked : ∀ index, (set.word index ||| other.word index).mark = (set.word index).mark := by
    intro index
    rw [Word.mark_or, mark_word_congr same, BitVec.or_self]
  rw [contains_iff]
  constructor
  · intro included bit present
    exact (covers_iff (marked bit.index)).mp (included bit.index) bit.position present
  · intro included index
    exact (covers_iff (marked index)).mpr fun position present =>
      included ⟨index, position⟩ present

/-! Tests and listings of a larger set. -/

theorem holdsEach_mono {set other : RightsSet} (same : set.marks = other.marks)
    (included : set.contains other = true) {rights : List Word}
    (held : other.holdsEach rights = .ok true) : set.holdsEach rights = .ok true := by
  induction rights with
  | nil => rfl
  | cons right rights ih =>
      cases located : other.locate right with
      | error reason => simp [holdsEach, located] at held
      | ok index =>
          simp only [holdsEach, located] at held
          split at held
          · rename_i covered
            have wider := covers_trans (contains_iff.mp included index) covered
            simp only [holdsEach, locate_congr same, located, wider, if_true]
            exact ih held
          · cases held

theorem holdsAll_mono {set other : RightsSet} (same : set.marks = other.marks)
    (included : set.contains other = true) {rights : List Word}
    (held : other.holdsAll rights = .ok true) : set.holdsAll rights = .ok true := by
  have version := version_congr same
  by_cases zero : other.version = 0
  · simp only [holdsAll, checkVersion_eq, version, zero, if_true] at held ⊢
    exact holdsEach_mono same included held
  · simp [holdsAll, checkVersion_eq, zero] at held

theorem holds_iff {set : RightsSet} {right : Word} :
    set.holds right = true ↔ set.holdsAll [right] = .ok true := by
  unfold holds
  cases set.holdsAll [right] with
  | error reason => simp
  | ok answer => simp

theorem names_sublist {set other : RightsSet} (same : set.marks = other.marks)
    (included : set.contains other = true) : other.names.Sublist set.names := by
  apply List.Sublist.map
  apply List.monotone_filter_right Right.primitives
  intro entry held
  exact holds_iff.mpr (holdsAll_mono same included (holds_iff.mp held))

end Confinement.RightsSet
