import Confinement.Rights.Bits

/-!
The mark of a word: its seven top bits, the version above the marker. Whether a set is valid and
which rights it takes hangs on the marks of its two words alone, and no edit of a set changes them.
Main statements: `isValid_iff_marks`, `locate_eq_ok_iff`, `marks_changeEach`.
-/

namespace Confinement

namespace Word

/-- The seven bits above the right bits. -/
def mark (word : Word) : BitVec 7 :=
  word.extractLsb' markerShift 7

theorem getLsbD_mark (word : Word) (place : Nat) :
    word.mark.getLsbD place = (decide (place < 7) && word.getLsbD (57 + place)) :=
  BitVec.getLsbD_extractLsb' markerShift 7 word place

theorem getLsbD_eq_mark (word : Word) {place : Nat} (high : 57 ≤ place) (inside : place < 64) :
    word.getLsbD place = word.mark.getLsbD (place - 57) := by
  have seven : place - 57 < 7 := by omega
  rw [getLsbD_mark, decide_eq_true seven, Bool.true_and, Nat.add_sub_cancel' high]

theorem toNat_mark (word : Word) : word.mark.toNat = word.toNat / 0x200000000000000 := by
  have bound : word.toNat < 0x10000000000000000 := word.isLt
  rw [mark, BitVec.extractLsb'_toNat, Nat.shiftRight_eq_div_pow]
  simp only [markerShift, Nat.reducePow]
  omega

theorem version_eq_mark (word : Word) : word.version = word.mark.toNat / 32 := by
  rw [toNat_mark, version, BitVec.toNat_ushiftRight, Nat.shiftRight_eq_div_pow]
  simp only [versionShift, Nat.reducePow]
  omega

theorem marker_eq_mark (word : Word) : word.marker = word.mark.toNat % 32 := by
  have masked : (word >>> markerShift &&& 0x1f).toNat = (word >>> markerShift).toNat % 32 :=
    Nat.and_two_pow_sub_one_eq_mod (word >>> markerShift).toNat 5
  rw [toNat_mark, marker, masked, BitVec.toNat_ushiftRight, Nat.shiftRight_eq_div_pow]
  simp only [markerShift, Nat.reducePow]

theorem mark_eq_iff {word : Word} {value : BitVec 7} :
    word.mark = value ↔ word.version = value.toNat / 32 ∧ word.marker = value.toNat % 32 := by
  rw [version_eq_mark, marker_eq_mark, ← BitVec.toNat_inj]
  omega

/-- A word is known by its mark and its right bits. -/
theorem eq_of_mark_eq {word other : Word} (mark : word.mark = other.mark)
    (bits : ∀ position : Fin 57, word.getLsbD position = other.getLsbD position) :
    word = other := by
  apply BitVec.eq_of_getLsbD_eq
  intro place inside
  by_cases low : place < 57
  · exact bits ⟨place, low⟩
  · have high := Nat.le_of_not_lt low
    rw [getLsbD_eq_mark word high inside, getLsbD_eq_mark other high inside, mark]

theorem mark_or (word other : Word) : (word ||| other).mark = word.mark ||| other.mark :=
  BitVec.extractLsb'_or

theorem mark_rightBits (word : Word) : word.rightBits.mark = 0 := by
  apply BitVec.eq_of_getLsbD_eq
  intro place _
  simp [getLsbD_mark, getLsbD_rightBits]

theorem mark_or_rightBits (word other : Word) : (word ||| other.rightBits).mark = word.mark := by
  rw [mark_or, mark_rightBits]
  exact BitVec.or_zero

theorem getLsbD_removed (right word : Word) (place : Nat) :
    (RightsSet.removed right word).getLsbD place =
      (word.getLsbD place && !(right.getLsbD place && decide (place < 57))) := by
  rw [RightsSet.removed, BitVec.getLsbD_and, BitVec.getLsbD_not, getLsbD_rightBits]
  -- Past the end of a word its complement has no bit either.
  by_cases inside : place < 64
  · simp [inside]
  · simp [BitVec.getLsbD_of_ge word place (Nat.le_of_not_lt inside)]

theorem mark_removed (right word : Word) : (RightsSet.removed right word).mark = word.mark := by
  apply BitVec.eq_of_getLsbD_eq
  intro place _
  have high : ¬ 57 + place < 57 := by omega
  simp [getLsbD_mark, getLsbD_removed, high]

/-- A right of version zero adds nothing to a word that carries its marker, because the marker is
all the mark that it has. -/
theorem mark_added {right word : Word} (version : right.version = 0)
    (marker : word.marker = right.marker) : (RightsSet.added right word).mark = word.mark := by
  have small : right.mark.toNat < 32 := by
    rw [version_eq_mark] at version
    omega
  have same : word.mark.toNat % 32 = right.mark.toNat := by
    rw [← marker_eq_mark, marker, marker_eq_mark, Nat.mod_eq_of_lt small]
  -- So the mark of the right is the five low bits of the mark of the word.
  rw [RightsSet.added, mark_or]
  apply BitVec.eq_of_getLsbD_eq
  intro place _
  have within : right.mark.getLsbD place = (decide (place < 5) && word.mark.getLsbD place) := by
    simp only [BitVec.getLsbD, ← same]
    exact Nat.testBit_mod_two_pow word.mark.toNat 5 place
  rw [BitVec.getLsbD_or, within]
  cases word.mark.getLsbD place <;> simp

end Word

namespace RightsSet

/-- The marks of the two words. -/
def marks (set : RightsSet) : BitVec 7 × BitVec 7 :=
  (set.word0.mark, set.word1.mark)

theorem mark_word_congr {set other : RightsSet} (same : set.marks = other.marks) (index : Fin 2) :
    (set.word index).mark = (other.word index).mark := by
  match index with
  | 0 => exact congrArg Prod.fst same
  | 1 => exact congrArg Prod.snd same

theorem version_congr {set other : RightsSet} (same : set.marks = other.marks) :
    set.version = other.version := by
  have first : set.word0.mark = other.word0.mark := congrArg Prod.fst same
  rw [version, version, Word.version_eq_mark, Word.version_eq_mark, first]

theorem isValid_iff_marks {set : RightsSet} : set.isValid = true ↔ set.marks = (1, 2) := by
  have first : set.word0.mark = 1 ↔ set.word0.version = 0 ∧ set.word0.marker = 1 :=
    Word.mark_eq_iff
  have second : set.word1.mark = 2 ↔ set.word1.version = 0 ∧ set.word1.marker = 2 :=
    Word.mark_eq_iff
  rw [marks, Prod.mk.injEq, first, second]
  simp only [isValid, arraySize, wordCount, version, Bool.and_eq_true, beq_iff_eq]
  constructor
  · rintro ⟨⟨⟨⟨version0, _⟩, version1⟩, marker0⟩, marker1⟩
    exact ⟨⟨version0, marker0⟩, version1, marker1⟩
  · rintro ⟨⟨version0, marker0⟩, version1, marker1⟩
    exact ⟨⟨⟨⟨version0, by rw [version0]⟩, version1⟩, marker0⟩, marker1⟩

theorem isValid_congr {set other : RightsSet} (same : set.marks = other.marks) :
    set.isValid = other.isValid := by
  rw [Bool.eq_iff_iff, isValid_iff_marks, isValid_iff_marks, same]

theorem marks_eq_of_isValid {set other : RightsSet} (valid : set.isValid = true)
    (otherValid : other.isValid = true) : set.marks = other.marks :=
  (isValid_iff_marks.mp valid).trans (isValid_iff_marks.mp otherValid).symm

theorem version_of_isValid {set : RightsSet} (valid : set.isValid = true) : set.version = 0 := by
  rw [version_congr (marks_eq_of_isValid valid isValid_empty)]
  decide

/-! Finding the word of a right. -/

theorem locate_eq_ok_iff {set : RightsSet} {right : Word} {index : Fin 2} :
    set.locate right = .ok index ↔
      right.version = 0 ∧ Word.namedIndex right.marker = some index.val ∧
        (set.word index).marker = right.marker := by
  constructor
  · intro found
    simp only [locate] at found
    split at found
    · cases found
    · rename_i version
      cases named : Word.namedIndex right.marker with
      | none => simp [named] at found
      | some place =>
          simp only [named] at found
          split at found
          · split at found
            · cases found
            · rename_i marker
              cases found
              exact ⟨Decidable.not_not.mp version, rfl, Decidable.not_not.mp marker⟩
          · cases found
  · rintro ⟨version, named, marker⟩
    have inside : index.val < wordCount := index.isLt
    simp [locate, version, named, marker, inside]

theorem locate_congr {set other : RightsSet} (same : set.marks = other.marks) (right : Word) :
    set.locate right = other.locate right := by
  have marker : ∀ index, (set.word index).marker = (other.word index).marker := by
    intro index
    rw [Word.marker_eq_mark, Word.marker_eq_mark, mark_word_congr same]
  simp only [locate, marker]

/-! Edits. -/

/-- A change of words that leaves the mark of each word that carries the marker of the right. -/
def KeepsMark (change : Word → Word → Word) : Prop :=
  ∀ {right word : Word}, right.version = 0 → word.marker = right.marker →
    (change right word).mark = word.mark

theorem keepsMark_added : KeepsMark added :=
  Word.mark_added

theorem keepsMark_removed : KeepsMark removed := by
  intro right word _ _
  exact Word.mark_removed right word

theorem marks_modify {set : RightsSet} {index : Fin 2} {change : Word → Word}
    (same : (change (set.word index)).mark = (set.word index).mark) :
    (set.modify index change).marks = set.marks := by
  match index with
  | 0 => exact Prod.ext same rfl
  | 1 => exact Prod.ext rfl same

theorem marks_modify_located {change : Word → Word → Word} (keeps : KeepsMark change)
    {set : RightsSet} {right : Word} {index : Fin 2} (located : set.locate right = .ok index) :
    (set.modify index (change right)).marks = set.marks := by
  obtain ⟨version, _, marker⟩ := locate_eq_ok_iff.mp located
  exact marks_modify (keeps version marker)

theorem marks_changeEach {change : Word → Word → Word} (keeps : KeepsMark change)
    (set : RightsSet) (rights : List Word) :
    (changeEach change set rights).1.marks = set.marks := by
  induction rights generalizing set with
  | nil => rfl
  | cons right rights ih =>
      cases located : set.locate right with
      | error reason => simp only [changeEach, located]
      | ok index =>
          simp only [changeEach, located]
          rw [ih, marks_modify_located keeps located]

theorem marks_edit {change : Word → Word → Word} (keeps : KeepsMark change) (set : RightsSet)
    (rights : List Word) : (edit change set rights).1.marks = set.marks := by
  cases checked : set.checkVersion with
  | error reason => simp only [edit, checked]
  | ok _ =>
      simp only [edit, checked]
      exact marks_changeEach keeps set rights

theorem marks_union (set other : RightsSet) : (set.union other).marks = set.marks :=
  Prod.ext (Word.mark_or_rightBits ..) (Word.mark_or_rightBits ..)

theorem marks_difference (set other : RightsSet) : (set.difference other).marks = set.marks :=
  Prod.ext (Word.mark_removed ..) (Word.mark_removed ..)

end RightsSet

end Confinement
