import Confinement.Proofs.Rights.Batch
import Confinement.Proofs.Rights.Members

/-!
Tests of lists of rights. A test reads its list from the left, up to the first right that the set
refuses or that is not wholly in its word, and its answer is about that right alone. So a test never
refuses what an edit would take, what was added tests present, and what was removed takes every
right along that shares a bit with it.
-/

namespace Confinement.RightsSet

/-- Every bit of a right, its marker among them, is set in the word that the right names. -/
def Present (set : RightsSet) (right : Word) : Prop :=
  ∀ index : Fin 2, right.Names (index.castAdd 3) →
    ∀ place : Fin 64, right.getLsbD place = true → (set.word index).getLsbD place = true

instance (set : RightsSet) (right : Word) : Decidable (set.Present right) :=
  inferInstanceAs (Decidable (∀ _ : Fin 2, _))

/-- A test goes on after the right. -/
def Passes (set : RightsSet) (right : Word) : Prop :=
  set.fault? right = none ∧ set.Present right

instance (set : RightsSet) (right : Word) : Decidable (set.Passes right) :=
  inferInstanceAs (Decidable (_ ∧ _))

theorem accepts_iff_sound {set : RightsSet} {right : Word} :
    set.Accepts right ↔ set.fault? right = none := by
  rw [fault?_eq, Accepts]
  cases set.locate right with
  | error reason => simp
  | ok index => simp

theorem present_iff_covers {set : RightsSet} {right : Word} {index : Fin 2}
    (located : set.locate right = .ok index) :
    set.Present right ↔ covers (set.word index) right = true := by
  have named := (locate_eq_ok_iff.mp located).2.1
  have names : ∀ other : Fin 2, right.Names (other.castAdd 3) ↔ other = index := by
    intro other
    rw [Word.names_iff, named, Option.some.injEq, eq_comm, Fin.ext_iff]
    rfl
  rw [covers_iff_getLsbD]
  constructor
  · intro present place bit
    exact present index ((names index).mpr rfl) ⟨place, BitVec.lt_of_getLsbD bit⟩ bit
  · intro covered other named place bit
    rw [(names other).mp named]
    exact covered place bit

/-! Where a test stops. -/

section Stops

variable {set : RightsSet} {right : Word} {before rights : List Word} (after : List Word)

theorem holdsEach_append (passed : ∀ earlier ∈ before, set.Passes earlier) :
    set.holdsEach (before ++ after) = set.holdsEach after := by
  induction before with
  | nil => rfl
  | cons right before ih =>
      obtain ⟨sound, present⟩ := passed right List.mem_cons_self
      obtain ⟨index, located⟩ := locate_of_sound sound
      have rest := ih fun earlier member => passed earlier (List.mem_cons_of_mem right member)
      simp only [List.cons_append, holdsEach, located, (present_iff_covers located).mp present,
        if_true, rest]

theorem holdsEach_of_fault {reason : RightsError}
    (passed : ∀ earlier ∈ before, set.Passes earlier) (fault : set.fault? right = some reason) :
    set.holdsEach (before ++ right :: after) = .error reason := by
  rw [holdsEach_append _ passed, holdsEach, locate_of_fault fault]

theorem holdsEach_of_absent (passed : ∀ earlier ∈ before, set.Passes earlier)
    (sound : set.fault? right = none) (absent : ¬ set.Present right) :
    set.holdsEach (before ++ right :: after) = .ok false := by
  obtain ⟨index, located⟩ := locate_of_sound sound
  have uncovered : ¬ covers (set.word index) right = true :=
    mt (present_iff_covers located).mpr absent
  simp only [holdsEach_append _ passed, holdsEach, located, if_neg uncovered]

theorem holdsEach_of_passes (passed : ∀ right ∈ rights, set.Passes right) :
    set.holdsEach rights = .ok true := by
  rw [← List.append_nil rights, holdsEach_append [] passed]
  rfl

/-- All rights of a list pass, or a first one does not. -/
theorem passes_or_first_stop (set : RightsSet) (rights : List Word) :
    (∀ right ∈ rights, set.Passes right) ∨
      ∃ before right after, rights = before ++ right :: after ∧
        (∀ earlier ∈ before, set.Passes earlier) ∧ ¬ set.Passes right := by
  cases found : rights.find? (fun right => ¬ set.Passes right) with
  | none =>
      left
      intro right member
      simpa using List.find?_eq_none.mp found right member
  | some right =>
      obtain ⟨stops, before, after, split, passed⟩ := List.find?_eq_some_iff_append.mp found
      exact .inr ⟨before, right, after, split, by simpa using passed, by simpa using stops⟩

/-- A test goes through, or it stops at a first right, for a fault or because it is absent. -/
theorem holdsEach_cases (set : RightsSet) (rights : List Word) :
    ((∀ right ∈ rights, set.Passes right) ∧ set.holdsEach rights = .ok true) ∨
      ∃ before right after, rights = before ++ right :: after ∧
        (∀ earlier ∈ before, set.Passes earlier) ∧
          ((∃ reason, set.fault? right = some reason ∧ set.holdsEach rights = .error reason) ∨
            (set.fault? right = none ∧ ¬ set.Present right ∧
              set.holdsEach rights = .ok false)) := by
  rcases passes_or_first_stop set rights with passed | ⟨before, right, after, rfl, passed, stops⟩
  · exact .inl ⟨passed, holdsEach_of_passes passed⟩
  · refine .inr ⟨before, right, after, rfl, passed, ?_⟩
    cases fault : set.fault? right with
    | some reason => exact .inl ⟨reason, rfl, holdsEach_of_fault after passed fault⟩
    | none =>
        have absent : ¬ set.Present right := fun present => stops ⟨fault, present⟩
        exact .inr ⟨rfl, absent, holdsEach_of_absent after passed fault absent⟩

theorem holdsEach_eq_error_iff {reason : RightsError} :
    set.holdsEach rights = .error reason ↔
      ∃ before right after, rights = before ++ right :: after ∧
        (∀ earlier ∈ before, set.Passes earlier) ∧ set.fault? right = some reason := by
  constructor
  · intro refused
    rcases holdsEach_cases set rights with
      ⟨_, through⟩ |
        ⟨before, right, after, split, passed, ⟨cause, fault, stopped⟩ | ⟨_, _, stopped⟩⟩
    · cases through.symm.trans refused
    · cases stopped.symm.trans refused
      exact ⟨before, right, after, split, passed, fault⟩
    · cases stopped.symm.trans refused
  · rintro ⟨before, right, after, rfl, passed, fault⟩
    exact holdsEach_of_fault after passed fault

theorem holdsEach_eq_false_iff :
    set.holdsEach rights = .ok false ↔
      ∃ before right after, rights = before ++ right :: after ∧
        (∀ earlier ∈ before, set.Passes earlier) ∧ set.fault? right = none ∧
          ¬ set.Present right := by
  constructor
  · intro answer
    rcases holdsEach_cases set rights with
      ⟨_, through⟩ |
        ⟨before, right, after, split, passed, ⟨cause, _, stopped⟩ | ⟨sound, absent, _⟩⟩
    · cases through.symm.trans answer
    · cases stopped.symm.trans answer
    · exact ⟨before, right, after, split, passed, sound, absent⟩
  · rintro ⟨before, right, after, rfl, passed, sound, absent⟩
    exact holdsEach_of_absent after passed sound absent

theorem holdsEach_eq_true_iff :
    set.holdsEach rights = .ok true ↔ ∀ right ∈ rights, set.Passes right := by
  constructor
  · intro answer
    rcases holdsEach_cases set rights with
      ⟨passed, _⟩ | ⟨_, _, _, _, _, ⟨_, _, stopped⟩ | ⟨_, _, stopped⟩⟩
    · exact passed
    · cases stopped.symm.trans answer
    · cases stopped.symm.trans answer
  · exact holdsEach_of_passes

end Stops

/-! Tests beside edits. -/

section Edits

variable {change : Word → Word → Word} {set : RightsSet} {rights : List Word}

theorem holdsAll_eq_holdsEach (version : set.version = 0) :
    set.holdsAll rights = set.holdsEach rights := by
  simp only [holdsAll, checkVersion_eq, if_pos version]

theorem edit_eq_changeEach (version : set.version = 0) :
    edit change set rights = changeEach change set rights := by
  simp only [edit, checkVersion_eq, if_pos version]

/-- What a test refuses, an edit refuses for the same reason. -/
theorem edit_of_refused_test (keeps : KeepsMark change) {reason : RightsError}
    (refused : set.holdsAll rights = .error reason) :
    (edit change set rights).2 = .error reason := by
  by_cases version : set.version = 0
  · rw [holdsAll_eq_holdsEach version] at refused
    obtain ⟨before, right, after, rfl, passed, fault⟩ := holdsEach_eq_error_iff.mp refused
    have sound : ∀ earlier ∈ before, set.fault? earlier = none :=
      fun earlier member => (passed earlier member).1
    rw [edit_eq_changeEach version, changeEach_of_fault keeps after sound fault]
  · simp only [holdsAll, checkVersion_eq, if_neg version, Except.error.injEq] at refused
    simp only [edit, checkVersion_eq, if_neg version, refused]

/-- An edit that succeeds has found no fault. -/
theorem sound_of_edit (keeps : KeepsMark change) (done : (edit change set rights).2 = .ok ()) :
    set.version = 0 ∧ ∀ right ∈ rights, set.fault? right = none := by
  by_cases version : set.version = 0
  · refine ⟨version, ?_⟩
    rw [edit_eq_changeEach version] at done
    rcases sound_or_first_fault set rights with
      sound | ⟨before, right, after, reason, rfl, sound, fault⟩
    · exact sound
    · rw [changeEach_of_fault keeps after sound fault] at done
      cases done
  · simp [edit, checkVersion_eq, version] at done

/-- A test after an edit that succeeded answers by the bits that the edit left. -/
theorem holdsAll_edit (keeps : KeepsMark change)
    {act : Finset RightBit → Finset RightBit → Finset RightBit}
    (acts : ∀ {set : RightsSet} {right : Word} {index : Fin 2}, set.locate right = .ok index →
      (set.modify index (change right)).bits = act set.bits (Right.bits right))
    (done : (edit change set rights).2 = .ok ()) {others : List Word}
    (sound : ∀ other ∈ others, set.fault? other = none) :
    (edit change set rights).1.holdsAll others =
      .ok (decide (Right.bitsOf others ⊆
        rights.foldl (fun held right => act held (Right.bits right)) set.bits)) := by
  obtain ⟨version, accepted⟩ := sound_of_edit keeps done
  have marks := marks_edit keeps set rights
  have bits := (bits_changeEach keeps acts set
    fun right member => accepts_iff_sound.mpr (accepted right member)).2
  rw [← edit_eq_changeEach version] at bits
  rw [holdsAll_eq_holdsEach ((version_congr marks).trans version), holdsEach_eq, bits]
  intro other member
  exact (accepts_congr marks).mpr (accepts_iff_sound.mpr (sound other member))

theorem holdsAll_insertAll (done : (set.insertAll rights).2 = .ok ()) :
    (set.insertAll rights).1.holdsAll rights = .ok true := by
  rw [insertAll, holdsAll_edit keepsMark_added bits_modify_added done
    (sound_of_edit keepsMark_added done).2, foldl_union_bits,
    decide_eq_true Finset.subset_union_right]

theorem holdsAll_eraseAll (done : (set.eraseAll rights).2 = .ok ()) {other right : Word}
    (sound : set.fault? other = none) (member : right ∈ rights) {bit : RightBit}
    (inRight : bit ∈ Right.bits right) (inOther : bit ∈ Right.bits other) :
    (set.eraseAll rights).1.holdsAll [other] = .ok false := by
  have gone : ¬ Right.bitsOf [other] ⊆ set.bits \ Right.bitsOf rights := by
    intro included
    have left := included (Right.mem_bitsOf.mpr ⟨other, List.mem_singleton_self _, inOther⟩)
    exact (Finset.mem_sdiff.mp left).2 (Right.mem_bitsOf.mpr ⟨right, member, inRight⟩)
  rw [eraseAll, holdsAll_edit keepsMark_removed bits_modify_removed done
    (List.forall_mem_singleton.mpr sound), foldl_sdiff_bits, decide_eq_false gone]

end Edits

/-- A test of a set of version zero answers for the first right that is refused or absent and is
true if there is none. For every set, what a test refuses an edit refuses for the same reason, an
edit that adds leaves its rights present, and one that removes leaves absent whatever shares a bit
with its rights. -/
theorem test_stops_at_first (set : RightsSet) (rights : List Word) :
    (set.version = 0 →
      (∀ reason, set.holdsAll rights = .error reason ↔
        ∃ before right after, rights = before ++ right :: after ∧
          (∀ earlier ∈ before, set.Passes earlier) ∧ set.fault? right = some reason) ∧
      (set.holdsAll rights = .ok false ↔
        ∃ before right after, rights = before ++ right :: after ∧
          (∀ earlier ∈ before, set.Passes earlier) ∧ set.fault? right = none ∧
            ¬ set.Present right) ∧
      (set.holdsAll rights = .ok true ↔ ∀ right ∈ rights, set.Passes right)) ∧
    (∀ reason, set.holdsAll rights = .error reason →
      (set.insertAll rights).2 = .error reason ∧ (set.eraseAll rights).2 = .error reason) ∧
    ((set.insertAll rights).2 = .ok () → (set.insertAll rights).1.holdsAll rights = .ok true) ∧
    ((set.eraseAll rights).2 = .ok () → ∀ other, set.fault? other = none →
      (∃ right ∈ rights, ∃ bit, bit ∈ Right.bits right ∧ bit ∈ Right.bits other) →
        (set.eraseAll rights).1.holdsAll [other] = .ok false) := by
  refine ⟨?_, ?_, holdsAll_insertAll, ?_⟩
  · intro version
    rw [holdsAll_eq_holdsEach version]
    exact ⟨fun _ => holdsEach_eq_error_iff, holdsEach_eq_false_iff, holdsEach_eq_true_iff⟩
  · intro reason refused
    exact ⟨edit_of_refused_test keepsMark_added refused,
      edit_of_refused_test keepsMark_removed refused⟩
  · rintro done other sound ⟨right, member, bit, inRight, inOther⟩
    exact holdsAll_eraseAll done sound member inRight inOther

/-- A set of reading and seeking. Writing is absent, so what comes after it in a list is not looked
at, while a word without a marker before it is refused. Taking seeking away leaves reading at
positions, which needs it, absent. -/
theorem test_stops_at_first_mixed :
    let set : RightsSet := ⟨0x020000000000000d, 0x0400000000000000⟩
    set.version = 0 ∧
      (∀ earlier ∈ [Right.read], set.Passes earlier) ∧
      (set.fault? Right.write = none ∧ ¬ set.Present Right.write) ∧
      set.holdsAll [Right.read, Right.write, 0] = .ok false ∧
      set.fault? 0 = some (.indexOutOfRange 0) ∧
      set.holdsAll [Right.read, 0, Right.write] = .error (.indexOutOfRange 0) ∧
      (set.insertAll [Right.read, 0, Right.write]).2 = .error (.indexOutOfRange 0) ∧
      (set.insertAll [Right.mmapR]).1.holdsAll [Right.mmapR] = .ok true ∧
      (set.eraseAll [Right.seek]).1.holdsAll [Right.pread] = .ok false := by
  intro set
  have version : set.version = 0 := by decide
  have passed : ∀ earlier ∈ [Right.read], set.Passes earlier :=
    List.forall_mem_singleton.mpr (by decide)
  have absent : set.fault? Right.write = none ∧ ¬ set.Present Right.write := by decide
  have fault : set.fault? 0 = some (.indexOutOfRange 0) := by decide
  obtain ⟨stops, _⟩ := test_stops_at_first set [Right.read, Right.write, 0]
  obtain ⟨refuses, same, _⟩ := test_stops_at_first set [Right.read, 0, Right.write]
  obtain ⟨_, _, present, _⟩ := test_stops_at_first set [Right.mmapR]
  obtain ⟨_, _, _, gone⟩ := test_stops_at_first set [Right.seek]
  have refused := ((refuses version).1 _).mpr ⟨[Right.read], 0, [Right.write], rfl, passed, fault⟩
  have shared : ∃ right ∈ [Right.seek], ∃ bit, bit ∈ Right.bits right ∧
      bit ∈ Right.bits Right.pread :=
    ⟨Right.seek, List.mem_singleton_self _, ⟨0, 3⟩, Right.mem_bits.mpr (by decide),
      Right.mem_bits.mpr (by decide)⟩
  have added : (set.insertAll [Right.mmapR]).2 = .ok () := by
    rw [insertAll, edit_eq_changeEach version, changeEach_of_sound keepsMark_added
      (List.forall_mem_singleton.mpr (by decide))]
  have removed : (set.eraseAll [Right.seek]).2 = .ok () := by
    rw [eraseAll, edit_eq_changeEach version, changeEach_of_sound keepsMark_removed
      (List.forall_mem_singleton.mpr (by decide))]
  exact ⟨version, passed, absent,
    (stops version).2.1.mpr ⟨[Right.read], Right.write, [0], rfl, passed, absent⟩, fault, refused,
    (same _ refused).1, present added, gone removed Right.pread (by decide) shared⟩

end Confinement.RightsSet
