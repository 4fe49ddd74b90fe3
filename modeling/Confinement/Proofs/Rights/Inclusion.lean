import Confinement.Proofs.Rights.Presence
import Confinement.Proofs.Rights.Naming

/-!
Narrowing decides inclusion. A request is refused for its version first, for its marks next and for
its bits last, and what is granted is the request itself. On valid sets narrowing, the test of a
list of rights, the union and containment all answer the one question whether bits are included.
-/

namespace Confinement.RightsSet

/-- Some bit of the request, be it a right or in a mark, is not in the set. -/
def Lacks (set requested : RightsSet) : Prop :=
  ∃ (index : Fin 2) (place : Fin 64),
    (requested.word index).getLsbD place = true ∧ (set.word index).getLsbD place = false

theorem version_eq_div (set : RightsSet) :
    set.version = set.word0.toNat / 0x4000000000000000 := by
  rw [version, Word.version_eq_mark, Word.toNat_mark, Nat.div_div_eq_div_mul]

theorem contains_iff_not_lacks {set requested : RightsSet} :
    set.contains requested = true ↔ ¬ set.Lacks requested := by
  rw [contains_iff]
  simp only [covers_iff_getLsbD]
  constructor
  · rintro included ⟨index, place, wanted, absent⟩
    exact Bool.false_ne_true (absent.symm.trans (included index place wanted))
  · intro complete index place wanted
    by_contra absent
    exact complete ⟨index, ⟨place, BitVec.lt_of_getLsbD wanted⟩, wanted,
      Bool.not_eq_true _ ▸ absent⟩

/-! The answers to a request. -/

section Narrow

variable {set requested : RightsSet}

/-- The four ways in which a request can end. -/
theorem narrow_cases (set requested : RightsSet) :
    (requested.version ≠ 0 ∧ set.narrow requested = .error (.badVersion requested.version)) ∨
      (requested.version = 0 ∧ requested.isValid = false ∧
        set.narrow requested = .error (.malformed requested.word0 requested.word1)) ∨
      (requested.isValid = true ∧ set.Lacks requested ∧
        set.narrow requested = .error .notCapable) ∨
      (requested.isValid = true ∧ ¬ set.Lacks requested ∧
        set.narrow requested = .ok requested) := by
  by_cases version : requested.version = 0
  · cases valid : requested.isValid with
    | false =>
        refine .inr (.inl ⟨version, rfl, ?_⟩)
        simp only [narrow, version, valid, ne_eq, not_true_eq_false, if_false, Bool.not_false,
          if_true]
    | true =>
        by_cases lacks : set.Lacks requested
        · have refused : ¬ set.contains requested = true :=
            fun included => contains_iff_not_lacks.mp included lacks
          exact .inr (.inr (.inl ⟨rfl, lacks, by rw [narrow_of_isValid valid, if_neg refused]⟩))
        · have included := contains_iff_not_lacks.mpr lacks
          exact .inr (.inr (.inr ⟨rfl, lacks, by rw [narrow_of_isValid valid, if_pos included]⟩))
  · exact .inl ⟨version, if_pos version⟩

theorem narrow_eq_badVersion_iff {version : Nat} :
    set.narrow requested = .error (.badVersion version) ↔
      version ≠ 0 ∧ version = requested.version := by
  rcases narrow_cases set requested with
    ⟨newer, answer⟩ | ⟨zero, _, answer⟩ | ⟨valid, _, answer⟩ | ⟨valid, _, answer⟩
  · rw [answer]
    constructor
    · intro same
      cases same
      exact ⟨newer, rfl⟩
    · rintro ⟨_, rfl⟩
      rfl
  · simp [answer, zero]
  · simp [answer, version_of_isValid valid]
  · simp [answer, version_of_isValid valid]

theorem narrow_eq_malformed_iff {word0 word1 : Word} :
    set.narrow requested = .error (.malformed word0 word1) ↔
      requested.version = 0 ∧ requested.isValid = false ∧ requested = ⟨word0, word1⟩ := by
  rcases narrow_cases set requested with
    ⟨newer, answer⟩ | ⟨zero, invalid, answer⟩ | ⟨valid, _, answer⟩ | ⟨valid, _, answer⟩
  · simp [answer, newer]
  · cases requested
    simp [answer, zero, invalid]
  · simp [answer, valid]
  · simp [answer, valid]

theorem narrow_eq_notCapable_iff :
    set.narrow requested = .error .notCapable ↔
      requested.isValid = true ∧ set.Lacks requested := by
  rcases narrow_cases set requested with
    ⟨newer, answer⟩ | ⟨_, invalid, answer⟩ | ⟨valid, lacks, answer⟩ | ⟨_, complete, answer⟩
  · have invalid : ¬ requested.isValid = true := fun valid => newer (version_of_isValid valid)
    simp [answer, invalid]
  · simp [answer, invalid]
  · simp [answer, valid, lacks]
  · simp [answer, complete]

end Narrow

/-! Sets that are built from rights. -/

theorem rights_of_ofRights {rights : List Word} {set : RightsSet}
    (built : ofRights rights = .ok set) :
    (∀ right ∈ rights, empty.Accepts right) ∧ set.bits = Right.bitsOf rights := by
  have done : (edit added empty rights).2 = .ok () :=
    congrArg Prod.snd (ofRights_eq_ok_iff.mp built)
  have accepted : ∀ right ∈ rights, empty.Accepts right :=
    fun right member => accepts_iff_sound.mpr ((sound_of_edit keepsMark_added done).2 right member)
  obtain ⟨again, same, _, bits⟩ := ofRights_of_accepts accepted
  cases built.symm.trans same
  exact ⟨accepted, bits⟩

section Agreement

variable {set requested : RightsSet} (valid : set.isValid = true)

include valid

theorem holdsAll_iff_contains {rights : List Word} (built : ofRights rights = .ok requested) :
    set.holdsAll rights = .ok true ↔ set.contains requested = true := by
  obtain ⟨accepted, bits⟩ := rights_of_ofRights built
  have taken : ∀ right ∈ rights, set.Accepts right := fun right member =>
    (accepts_congr (marks_eq_of_isValid isValid_empty valid)).mp (accepted right member)
  rw [holdsAll_eq valid taken, Except.ok.injEq, decide_eq_true_iff, ← bits,
    contains_iff_bits_subset (marks_eq_of_isValid valid (isValid_of_ofRights built))]

theorem union_eq_self_iff_contains (requestedValid : requested.isValid = true) :
    set.union requested = set ↔ set.contains requested = true := by
  rw [eq_iff_bits_eq (marks_union set requested), bits_union, Finset.union_eq_left,
    contains_iff_bits_subset (marks_eq_of_isValid valid requestedValid)]

end Agreement

/-- What a request is refused or granted for, for sets and requests of any words. For a valid set
and a request that rights build, being granted, holding all the rights, gaining nothing from the
union and containing the request are the same. -/
theorem narrow_decides (set requested : RightsSet) :
    (∀ version, set.narrow requested = .error (.badVersion version) ↔
      version ≠ 0 ∧ version = requested.word0.toNat / 0x4000000000000000) ∧
    (∀ word0 word1, set.narrow requested = .error (.malformed word0 word1) ↔
      requested.version = 0 ∧ requested.isValid = false ∧ requested = ⟨word0, word1⟩) ∧
    (set.narrow requested = .error .notCapable ↔
      requested.isValid = true ∧ set.Lacks requested) ∧
    (∀ granted, set.narrow requested = .ok granted ↔
      requested.isValid = true ∧ ¬ set.Lacks requested ∧ granted = requested) ∧
    (set.isValid = true → ∀ rights, ofRights rights = .ok requested →
      ((∃ granted, set.narrow requested = .ok granted) ↔ set.contains requested = true) ∧
      (set.holdsAll rights = .ok true ↔ set.contains requested = true) ∧
      (set.union requested = set ↔ set.contains requested = true)) := by
  refine ⟨?_, fun _ _ => narrow_eq_malformed_iff, narrow_eq_notCapable_iff, ?_, ?_⟩
  · intro version
    rw [narrow_eq_badVersion_iff, version_eq_div]
  · intro granted
    rw [narrow_eq_ok_iff, contains_iff_not_lacks]
  · intro valid rights built
    have requestedValid := isValid_of_ofRights built
    refine ⟨?_, holdsAll_iff_contains valid built, union_eq_self_iff_contains valid requestedValid⟩
    constructor
    · rintro ⟨granted, narrowed⟩
      exact (narrow_eq_ok_iff.mp narrowed).2.1
    · intro included
      exact ⟨requested, narrow_eq_ok_iff.mpr ⟨requestedValid, included, rfl⟩⟩

/-- A set of reading, looking up and events. A newer version is named before any other fault, the
version of the second word is a fault of its marks, writing is not in the set, and the request made
of reading and events is. -/
theorem narrow_decides_faults :
    let set : RightsSet := ⟨0x0200000000000401, 0x0400000000000020⟩
    let part : RightsSet := ⟨Right.read, Right.event⟩
    set.isValid = true ∧
      set.narrow ⟨0x8000000000000002, 0⟩ = .error (.badVersion 2) ∧
      set.narrow ⟨0x0200000000000001, 0x4400000000000000⟩ =
        .error (.malformed 0x0200000000000001 0x4400000000000000) ∧
      set.narrow ⟨Right.write, 0x0400000000000000⟩ = .error .notCapable ∧
      ofRights [Right.read, Right.event] = .ok part ∧
      (∃ granted, set.narrow part = .ok granted) ∧
      set.holdsAll [Right.read, Right.event] = .ok true ∧ set.union part = set := by
  intro set part
  have valid : set.isValid = true := by decide
  have partValid : part.isValid = true := by decide
  have built : ofRights [Right.read, Right.event] = .ok part := ofRights_words partValid
  have included : set.contains part = true := by decide
  have newer := (narrow_decides set ⟨0x8000000000000002, 0⟩).1
  have marked := (narrow_decides set ⟨0x0200000000000001, 0x4400000000000000⟩).2.1
  have wider := (narrow_decides set ⟨Right.write, 0x0400000000000000⟩).2.2.1
  obtain ⟨_, _, _, _, agree⟩ := narrow_decides set part
  obtain ⟨granted, held, unchanged⟩ := agree valid _ built
  exact ⟨valid, (newer 2).mpr (by decide), (marked _ _).mpr (by decide),
    wider.mpr ⟨by decide, 0, 1, by decide, by decide⟩, built, granted.mpr included,
    held.mpr included, unchanged.mpr included⟩

end Confinement.RightsSet
