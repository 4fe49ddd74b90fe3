import Mathlib.Data.Fintype.Prod
import Mathlib.Data.Finset.Union
import Confinement.Proofs.Rights.Containment

/-!
Rights sets and lists of rights as finite sets of bits. Each operation is described by the bits it
adds, removes or compares. Main statements: `bits_insertAll`, `bits_eraseAll`, `holdsAll_eq`,
`contains_iff_bits_subset`, `eq_iff_bits_eq`.
-/

namespace Confinement

instance : Fintype RightBit :=
  Fintype.ofEquiv (Fin 2 × Fin 57)
    { toFun := fun place => ⟨place.1, place.2⟩
      invFun := fun bit => (bit.index, bit.position)
      left_inv := fun _ => rfl
      right_inv := fun _ => rfl }

namespace Right

/-- The right bits of a right, in the word that its marker names. -/
def bits (right : Word) : Finset RightBit :=
  Finset.univ.filter fun bit =>
    Word.namedIndex right.marker = some bit.index.val ∧ right.getLsbD bit.position = true

/-- The bits of all rights in a list, in which neither order nor repetition counts. -/
def bitsOf (rights : List Word) : Finset RightBit :=
  rights.toFinset.biUnion bits

theorem mem_bits {bit : RightBit} {right : Word} :
    bit ∈ bits right ↔
      Word.namedIndex right.marker = some bit.index.val ∧
        right.getLsbD bit.position = true := by
  simp [bits]

theorem bitsOf_nil : bitsOf [] = ∅ := rfl

theorem bitsOf_cons (right : Word) (rights : List Word) :
    bitsOf (right :: rights) = bits right ∪ bitsOf rights := by
  rw [bitsOf, List.toFinset_cons, Finset.biUnion_insert]
  rfl

theorem mem_bitsOf {bit : RightBit} {rights : List Word} :
    bit ∈ bitsOf rights ↔ ∃ right ∈ rights, bit ∈ bits right := by
  simp [bitsOf]

end Right

namespace RightsSet

/-- The right bits of both words. -/
def bits (set : RightsSet) : Finset RightBit :=
  Finset.univ.filter (· ∈ set)

theorem mem_bits {bit : RightBit} {set : RightsSet} : bit ∈ set.bits ↔ bit ∈ set := by
  simp [bits]

theorem eq_iff_bits_eq {set other : RightsSet} (same : set.marks = other.marks) :
    set = other ↔ set.bits = other.bits := by
  constructor
  · intro equal
    rw [equal]
  · intro equal
    have words : ∀ index, set.word index = other.word index := by
      intro index
      apply Word.eq_of_mark_eq (mark_word_congr same index)
      intro position
      have shared := Finset.ext_iff.mp equal ⟨index, position⟩
      rw [mem_bits, mem_bits] at shared
      exact Bool.eq_iff_iff.mpr shared
    cases set
    cases other
    exact congrArg₂ RightsSet.mk (words 0) (words 1)

theorem contains_iff_bits_subset {set other : RightsSet} (same : set.marks = other.marks) :
    set.contains other = true ↔ other.bits ⊆ set.bits := by
  rw [contains_iff_mem same]
  simp only [Finset.subset_iff, mem_bits]

theorem bits_union (set other : RightsSet) : (set.union other).bits = set.bits ∪ other.bits := by
  ext bit
  rw [Finset.mem_union, mem_bits, mem_bits, mem_bits, mem_union]

theorem bits_difference (set other : RightsSet) :
    (set.difference other).bits = set.bits \ other.bits := by
  ext bit
  rw [Finset.mem_sdiff, mem_bits, mem_bits, mem_bits, mem_difference]

theorem isEmpty_eq (set : RightsSet) : set.isEmpty = decide (set.bits = ∅) := by
  rw [Bool.eq_iff_iff, isEmpty_iff, decide_eq_true_iff, Finset.eq_empty_iff_forall_notMem]
  simp only [mem_bits]

/-! Rights that a set takes. -/

/-- The set has a word for the right. -/
def Accepts (set : RightsSet) (right : Word) : Prop :=
  ∃ index, set.locate right = .ok index

theorem accepts_iff_isOk {set : RightsSet} {right : Word} :
    (set.locate right).isOk = true ↔ set.Accepts right := by
  unfold Accepts
  cases set.locate right with
  | error reason => simp [Except.isOk, Except.toBool]
  | ok index => simp [Except.isOk, Except.toBool]

instance (set : RightsSet) (right : Word) : Decidable (set.Accepts right) :=
  decidable_of_iff _ accepts_iff_isOk

theorem accepts_congr {set other : RightsSet} (same : set.marks = other.marks) {right : Word} :
    set.Accepts right ↔ other.Accepts right := by
  rw [Accepts, Accepts, locate_congr same]

section Located

variable {set : RightsSet} {right : Word} {index : Fin 2}

theorem mem_bits_of_located (located : set.locate right = .ok index) {bit : RightBit} :
    bit ∈ Right.bits right ↔ bit.index = index ∧ right.getLsbD bit.position = true := by
  obtain ⟨_, named, _⟩ := locate_eq_ok_iff.mp located
  rw [Right.mem_bits, named, Option.some.injEq, Fin.val_inj, eq_comm]

theorem bits_modify_added (located : set.locate right = .ok index) :
    (set.modify index (added right)).bits = set.bits ∪ Right.bits right := by
  ext bit
  rw [Finset.mem_union, mem_bits_of_located located, mem_bits, mem_bits, mem_def, mem_def,
    word_modify]
  by_cases here : bit.index = index
  · simp [here, added]
  · simp [here]

theorem bits_modify_removed (located : set.locate right = .ok index) :
    (set.modify index (removed right)).bits = set.bits \ Right.bits right := by
  ext bit
  rw [Finset.mem_sdiff, mem_bits_of_located located, mem_bits, mem_bits, mem_def, mem_def,
    word_modify]
  by_cases here : bit.index = index
  · simp [here, Word.getLsbD_removed]
  · simp [here]

theorem covers_iff_bits_subset (located : set.locate right = .ok index) :
    covers (set.word index) right = true ↔ Right.bits right ⊆ set.bits := by
  obtain ⟨version, _, marker⟩ := locate_eq_ok_iff.mp located
  rw [covers_iff (Word.mark_added version marker)]
  simp only [Finset.subset_iff, mem_bits_of_located located, mem_bits]
  constructor
  · rintro included bit ⟨rfl, present⟩
    exact included bit.position present
  · intro included position present
    exact @included ⟨index, position⟩ ⟨rfl, present⟩

end Located

/-- Changing the words of rights that the set takes succeeds and acts on the bits right by right. -/
theorem bits_changeEach {change : Word → Word → Word} (keeps : KeepsMark change)
    {act : Finset RightBit → Finset RightBit → Finset RightBit}
    (acts : ∀ {set : RightsSet} {right : Word} {index : Fin 2}, set.locate right = .ok index →
      (set.modify index (change right)).bits = act set.bits (Right.bits right))
    (set : RightsSet) {rights : List Word} (accepted : ∀ right ∈ rights, set.Accepts right) :
    (changeEach change set rights).2 = .ok () ∧
      (changeEach change set rights).1.bits =
        rights.foldl (fun held right => act held (Right.bits right)) set.bits := by
  induction rights generalizing set with
  | nil => exact ⟨rfl, rfl⟩
  | cons right rights ih =>
      obtain ⟨index, located⟩ := accepted right List.mem_cons_self
      have same := marks_modify_located keeps located
      have rest : ∀ other ∈ rights, (set.modify index (change right)).Accepts other :=
        fun other member =>
          (accepts_congr same).mpr (accepted other (List.mem_cons_of_mem right member))
      simp only [changeEach, located, List.foldl_cons, ← acts located]
      exact ih _ rest

theorem foldl_union_bits (held : Finset RightBit) (rights : List Word) :
    rights.foldl (fun held right => held ∪ Right.bits right) held = held ∪ Right.bitsOf rights := by
  induction rights generalizing held with
  | nil => exact (Finset.union_empty held).symm
  | cons right rights ih => rw [List.foldl_cons, ih, Right.bitsOf_cons, Finset.union_assoc]

theorem foldl_sdiff_bits (held : Finset RightBit) (rights : List Word) :
    rights.foldl (fun held right => held \ Right.bits right) held = held \ Right.bitsOf rights := by
  induction rights generalizing held with
  | nil => exact Finset.sdiff_empty.symm
  | cons right rights ih => rw [List.foldl_cons, ih, Right.bitsOf_cons, sdiff_sdiff_left]; rfl

theorem holdsEach_eq {set : RightsSet} {rights : List Word}
    (accepted : ∀ right ∈ rights, set.Accepts right) :
    set.holdsEach rights = .ok (decide (Right.bitsOf rights ⊆ set.bits)) := by
  induction rights with
  | nil => rfl
  | cons right rights ih =>
      obtain ⟨index, located⟩ := accepted right List.mem_cons_self
      have rest := ih fun other member => accepted other (List.mem_cons_of_mem right member)
      have first := covers_iff_bits_subset located
      simp only [holdsEach, located, rest, Right.bitsOf_cons, Finset.union_subset_iff, ← first]
      cases covers (set.word index) right <;> simp

section Valid

variable {set other : RightsSet} (valid : set.isValid = true) {rights : List Word}
  (accepted : ∀ right ∈ rights, set.Accepts right)

include valid accepted

theorem bits_insertAll :
    (set.insertAll rights).2 = .ok () ∧
      (set.insertAll rights).1.bits = set.bits ∪ Right.bitsOf rights := by
  rw [insertAll, edit, checkVersion_of_isValid valid, ← foldl_union_bits]
  exact bits_changeEach keepsMark_added bits_modify_added set accepted

theorem bits_eraseAll :
    (set.eraseAll rights).2 = .ok () ∧
      (set.eraseAll rights).1.bits = set.bits \ Right.bitsOf rights := by
  rw [eraseAll, edit, checkVersion_of_isValid valid, ← foldl_sdiff_bits]
  exact bits_changeEach keepsMark_removed bits_modify_removed set accepted

/-- A test of rights that the set takes is never refused. -/
theorem holdsAll_eq : set.holdsAll rights = .ok (decide (Right.bitsOf rights ⊆ set.bits)) := by
  rw [holdsAll, checkVersion_of_isValid valid]
  exact holdsEach_eq accepted

end Valid

end RightsSet

end Confinement
