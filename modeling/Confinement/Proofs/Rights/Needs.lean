import Confinement.Proofs.Rights.Batch
import Confinement.Proofs.Rights.Naming

/-!
What each bit of a named right needs. A primitive right is one bit of its own and the bits that its
own bit needs, and every right with a name has with each of its bits all that the bit needs.
-/

namespace Confinement

namespace RightBit

/-- The bits that names stand for, in the order of the primitive rights that own them. -/
def named : List RightBit :=
  ((List.finRange 57).take 43).map (RightBit.mk 0) ++
    ((List.finRange 57).take 21).map (RightBit.mk 1)

/-- The bits that stand beside an own bit in its primitive right. Seeking comes with telling the
position, mapping for execution with mapping and seeking, and what acts on the entries of a
directory with looking up. -/
def needs (bit : RightBit) : List RightBit :=
  if bit.index ≠ 0 then []
  else if bit.position = 3 then [⟨0, 2⟩]
  else if bit.position = 5 then [⟨0, 2⟩, ⟨0, 3⟩, ⟨0, 4⟩]
  else if (22 ≤ bit.position ∧ bit.position ≤ 28) ∨ (39 ≤ bit.position ∧ bit.position ≤ 42) then
    [⟨0, 10⟩]
  else []

section Needs

variable {bit other third : RightBit} (needed : other ∈ bit.needs)

include needed

theorem index_of_mem_needs : other.index = bit.index := by
  have table : ∀ bit : RightBit, bit.needs.all (fun other => other.index == bit.index) = true := by
    decide +kernel
  exact eq_of_beq (List.all_eq_true.mp (table bit) other needed)

theorem needs_trans (further : third ∈ other.needs) : third ∈ bit.needs := by
  have table : ∀ bit : RightBit,
      bit.needs.all (fun other => other.needs.all (bit.needs.contains ·)) = true := by
    decide +kernel
  have closed := List.all_eq_true.mp (table bit) other needed
  exact List.contains_iff_mem.mp (List.all_eq_true.mp closed third further)

theorem named_of_mem_needs (member : bit ∈ named) : other ∈ named := by
  have table : named.all (fun bit => bit.needs.all (named.contains ·)) = true := by
    decide +kernel
  have closed := List.all_eq_true.mp table bit member
  exact List.contains_iff_mem.mp (List.all_eq_true.mp closed other needed)

end Needs

/-! The primitive right of a bit. -/

/-- The positions of bits as a word. -/
def wordOf (bits : List RightBit) : Word :=
  bits.foldr (fun bit word => BitVec.twoPow 64 bit.position ||| word) 0

/-- The right with the bit of its own. -/
def right (bit : RightBit) : Word :=
  Word.marked bit.index (wordOf (bit :: bit.needs))

theorem map_primitives : Right.primitives.map (·.2) = named.map right := by
  decide +kernel

theorem exists_primitive {bit : RightBit} (member : bit ∈ named) :
    ∃ entry ∈ Right.primitives, entry.2 = bit.right := by
  have image : bit.right ∈ Right.primitives.map (·.2) := by
    rw [map_primitives]
    exact List.mem_map_of_mem member
  exact List.mem_map.mp image

theorem exists_bit {entry : String × Word} (member : entry ∈ Right.primitives) :
    ∃ bit ∈ named, bit.right = entry.2 := by
  have image : entry.2 ∈ named.map right := by
    rw [← map_primitives]
    exact List.mem_map_of_mem member
  exact List.mem_map.mp image

theorem getLsbD_wordOf {bits : List RightBit} {place : Nat} :
    (wordOf bits).getLsbD place = true ↔ ∃ bit ∈ bits, bit.position.val = place := by
  induction bits with
  | nil => simp [wordOf]
  | cons bit bits ih =>
      have inside : bit.position.val < 64 := Nat.lt_trans bit.position.isLt (by decide)
      have first : (BitVec.twoPow 64 bit.position).getLsbD place = true ↔
          bit.position.val = place := by
        rw [BitVec.getLsbD_twoPow, Bool.and_eq_true, decide_eq_true_iff, decide_eq_true_iff]
        exact and_iff_right inside
      rw [wordOf, List.foldr_cons, BitVec.getLsbD_or, Bool.or_eq_true, first]
      simp only [List.mem_cons, exists_eq_or_imp]
      exact or_congr_right ih

theorem mark_wordOf (bits : List RightBit) : (wordOf bits).mark = 0 := by
  apply BitVec.eq_of_getLsbD_eq
  intro place _
  have absent : (wordOf bits).getLsbD (57 + place) = false := by
    rw [Bool.eq_false_iff]
    intro present
    obtain ⟨bit, _, same⟩ := getLsbD_wordOf.mp present
    have low := bit.position.isLt
    omega
  rw [Word.getLsbD_mark, absent, Bool.and_false]
  exact BitVec.getLsbD_zero.symm

theorem marker_marked : ∀ index : Fin 2,
    Word.namedIndex (Word.marked index 0).marker = some index.val := by
  decide

theorem getLsbD_marked_zero : ∀ (index : Fin 2) (position : Fin 57),
    (Word.marked index 0).getLsbD position = false := by
  decide

theorem marked_eq_or (index : Fin 2) (bits : Word) :
    Word.marked index bits = Word.marked index 0 ||| bits := by
  rw [Word.marked, Word.marked]
  exact congrArg (· ||| bits) BitVec.or_zero.symm

theorem namedIndex_right (bit : RightBit) :
    Word.namedIndex bit.right.marker = some bit.index.val := by
  have mark : bit.right.mark = (Word.marked bit.index 0).mark := by
    rw [right, marked_eq_or, Word.mark_or, mark_wordOf]
    exact BitVec.or_zero
  rw [Word.marker_eq_mark, mark, ← Word.marker_eq_mark, marker_marked]

theorem mem_bits_right {bit other : RightBit} :
    other ∈ Right.bits bit.right ↔ other = bit ∨ other ∈ bit.needs := by
  have low : bit.right.getLsbD other.position = true ↔
      ∃ own ∈ bit :: bit.needs, own.position.val = other.position := by
    rw [right, marked_eq_or, BitVec.getLsbD_or, getLsbD_marked_zero, Bool.false_or,
      getLsbD_wordOf]
  rw [Right.mem_bits, namedIndex_right, Option.some.injEq, low, ← List.mem_cons]
  constructor
  · rintro ⟨word, own, member, place⟩
    have home : own.index = bit.index := by
      rcases List.mem_cons.mp member with rfl | needed
      · rfl
      · exact index_of_mem_needs needed
    have same : other = own := by
      cases other
      cases own
      simp only [RightBit.mk.injEq]
      exact ⟨(Fin.ext word).symm.trans home.symm, (Fin.ext place).symm⟩
    rwa [same]
  · intro member
    refine ⟨?_, other, member, rfl⟩
    rcases List.mem_cons.mp member with rfl | needed
    · rfl
    · rw [index_of_mem_needs needed]

end RightBit

namespace Right

variable {entry : String × Word} (member : entry ∈ named) {bit : RightBit}
  (present : bit ∈ bits entry.2)

include member present

theorem exists_own_bit :
    ∃ own ∈ RightBit.named, (∀ other ∈ bits own.right, other ∈ bits entry.2) ∧
      (bit = own ∨ bit ∈ own.needs) := by
  rw [bits_eq_bitsOf_parts member] at present ⊢
  obtain ⟨part, inside, inPart⟩ := mem_bitsOf.mp present
  obtain ⟨primitive, listed, _, rfl⟩ := mem_parts.mp inside
  obtain ⟨own, ownNamed, same⟩ := RightBit.exists_bit listed
  rw [← same] at inPart inside
  exact ⟨own, ownNamed, fun other among => mem_bitsOf.mpr ⟨_, inside, among⟩,
    RightBit.mem_bits_right.mp inPart⟩

theorem named_of_mem_bits : bit ∈ RightBit.named := by
  obtain ⟨own, ownNamed, _, rfl | needed⟩ := exists_own_bit member present
  · exact ownNamed
  · exact RightBit.named_of_mem_needs needed ownNamed

/-- A named right has all that its bits need. -/
theorem needs_of_mem_bits : ∀ other ∈ bit.needs, other ∈ bits entry.2 := by
  obtain ⟨own, _, whole, place⟩ := exists_own_bit member present
  intro other needed
  apply whole
  rw [RightBit.mem_bits_right]
  right
  rcases place with rfl | beside
  · exact needed
  · exact RightBit.needs_trans beside needed

end Right

end Confinement
