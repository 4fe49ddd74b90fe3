import Confinement.Proofs.Rights.Run

/-!
Marks are never lost. Edits leave the marks of all sets as they are, valid or not, and whatever they
are given and wherever they stop. So sets that start valid stay valid, nothing is refused for a
fault of theirs, and the valid sets are those that can be built from the empty one.
-/

namespace Confinement

/-- Refusals for a fault of the set rather than of the right that was passed. -/
def RightsError.blamesSet : RightsError → Bool
  | .badVersion _ | .badSize _ | .indexMismatch _ => true
  | _ => false

namespace RightsSet

/-- `changeEach` with an assertion after each change: the word that was changed carries the marker
of the right. There is no result where the assertion fails. -/
def changeEachAsserting (change : Word → Word → Word) (set : RightsSet) :
    List Word → Option (RightsSet × Except RightsError Unit)
  | [] => some (set, .ok ())
  | right :: rights =>
      match set.locate right with
      | .error reason => some (set, .error reason)
      | .ok index =>
          let next := set.modify index (change right)
          if (next.word index).marker = right.marker then changeEachAsserting change next rights
          else none

def editAsserting (change : Word → Word → Word) (set : RightsSet) (rights : List Word) :
    Option (RightsSet × Except RightsError Unit) :=
  match set.checkVersion with
  | .error reason => some (set, .error reason)
  | .ok () => changeEachAsserting change set rights

theorem changeEachAsserting_eq {change : Word → Word → Word} (keeps : KeepsMark change)
    (set : RightsSet) (rights : List Word) :
    changeEachAsserting change set rights = some (changeEach change set rights) := by
  induction rights generalizing set with
  | nil => rfl
  | cons right rights ih =>
      cases located : set.locate right with
      | error reason => simp only [changeEachAsserting, changeEach, located]
      | ok index =>
          have same := marks_modify_located keeps located
          have marker : ((set.modify index (change right)).word index).marker = right.marker := by
            rw [Word.marker_eq_mark, mark_word_congr same, ← Word.marker_eq_mark]
            exact (locate_eq_ok_iff.mp located).2.2
          simp only [changeEachAsserting, changeEach, located, if_pos marker, ih]

theorem editAsserting_eq {change : Word → Word → Word} (keeps : KeepsMark change)
    (set : RightsSet) (rights : List Word) :
    editAsserting change set rights = some (edit change set rights) := by
  cases checked : set.checkVersion with
  | error reason => simp only [editAsserting, edit, checked]
  | ok _ => simp only [editAsserting, edit, checked, changeEachAsserting_eq keeps]

/-! Refusals. -/

theorem marker_word_empty : ∀ marker < 32, ∀ index : Fin 2,
    Word.namedIndex marker = some index.val → (empty.word index).marker = marker := by
  decide

/-- A valid set takes a right into the word that its marker names, if it takes it at all. -/
theorem locate_eq_ok_iff_of_isValid {set : RightsSet} (valid : set.isValid = true) {right : Word}
    {index : Fin 2} :
    set.locate right = .ok index ↔
      right.version = 0 ∧ Word.namedIndex right.marker = some index.val := by
  rw [locate_congr (marks_eq_of_isValid valid isValid_empty), locate_eq_ok_iff]
  constructor
  · intro ⟨version, named, _⟩
    exact ⟨version, named⟩
  · intro ⟨version, named⟩
    exact ⟨version, named, marker_word_empty _ right.marker_lt index named⟩

theorem blamesSet_of_locate {set : RightsSet} (valid : set.isValid = true) {right : Word}
    {reason : RightsError} (refused : set.locate right = .error reason) :
    reason.blamesSet = false := by
  by_cases version : right.version = 0
  · cases named : Word.namedIndex right.marker with
    | none =>
        simp [locate, version, named] at refused
        subst reason
        rfl
    | some place =>
        by_cases inside : place < wordCount
        · have located : set.locate right = .ok ⟨place, inside⟩ :=
            (locate_eq_ok_iff_of_isValid valid).mpr ⟨version, named⟩
          rw [located] at refused
          cases refused
        · simp [locate, version, named, inside] at refused
          subst reason
          rfl
  · simp [locate, version] at refused
    subst reason
    rfl

theorem checkVersion_of_isValid {set : RightsSet} (valid : set.isValid = true) :
    set.checkVersion = .ok () := by
  rw [checkVersion_eq, if_pos (version_of_isValid valid)]

theorem blamesSet_of_edit {change : Word → Word → Word} (keeps : KeepsMark change)
    {set : RightsSet} (valid : set.isValid = true) {rights : List Word} {reason : RightsError}
    (refused : (edit change set rights).2 = .error reason) : reason.blamesSet = false := by
  simp only [edit, checkVersion_of_isValid valid] at refused
  induction rights generalizing set with
  | nil => cases refused
  | cons right rights ih =>
      cases located : set.locate right with
      | error cause =>
          simp only [changeEach, located, Except.error.injEq] at refused
          subst reason
          exact blamesSet_of_locate valid located
      | ok index =>
          -- The set that the rest meets has the same marks, so it is valid too.
          simp only [changeEach, located] at refused
          exact ih ((isValid_congr (marks_modify_located keeps located)).trans valid) refused

theorem blamesSet_of_holdsAll {set : RightsSet} (valid : set.isValid = true) {rights : List Word}
    {reason : RightsError} (refused : set.holdsAll rights = .error reason) :
    reason.blamesSet = false := by
  simp only [holdsAll, checkVersion_of_isValid valid] at refused
  induction rights with
  | nil => cases refused
  | cons right rights ih =>
      cases located : set.locate right with
      | error cause =>
          simp only [holdsEach, located, Except.error.injEq] at refused
          subst reason
          exact blamesSet_of_locate valid located
      | ok index =>
          simp only [holdsEach, located] at refused
          split at refused
          · exact ih refused
          · cases refused

/-! The sets that can be built. -/

theorem ofRights_eq_ok_iff {rights : List Word} {set : RightsSet} :
    ofRights rights = .ok set ↔ empty.insertAll rights = (set, .ok ()) := by
  unfold ofRights
  split <;> simp_all

theorem isValid_of_ofRights {rights : List Word} {set : RightsSet}
    (built : ofRights rights = .ok set) : set.isValid = true := by
  have kept := isValid_edit keepsMark_added empty rights
  rw [← insertAll, ofRights_eq_ok_iff.mp built] at kept
  exact kept.trans isValid_empty

theorem added_word_empty {index : Fin 2} {word : Word}
    (same : word.mark = (empty.word index).mark) : added word (empty.word index) = word := by
  apply Word.eq_of_mark_eq
  · rw [added, Word.mark_or, same, BitVec.or_self]
  · intro position
    have absent : (empty.word index).getLsbD position = false :=
      Bool.eq_false_iff.mpr (isEmpty_iff.mp isEmpty_empty ⟨index, position⟩)
    rw [added, BitVec.getLsbD_or, absent, Bool.false_or]

/-- The words of a valid set are rights that the empty set takes, and they build the set again. -/
theorem ofRights_words {set : RightsSet} (valid : set.isValid = true) :
    ofRights [set.word0, set.word1] = .ok set := by
  have same := marks_eq_of_isValid valid isValid_empty
  have mark0 : set.word0.mark = (empty.word 0).mark := mark_word_congr same 0
  have mark1 : set.word1.mark = (empty.word 1).mark := mark_word_congr same 1
  have first : empty.locate set.word0 = .ok 0 := by
    rw [locate_eq_ok_iff, Word.version_eq_mark, Word.marker_eq_mark, mark0]
    decide
  have second : (empty.modify 0 (added set.word0)).locate set.word1 = .ok 1 := by
    rw [locate_congr (marks_modify_located keepsMark_added first), locate_eq_ok_iff,
      Word.version_eq_mark, Word.marker_eq_mark, mark1]
    decide
  rw [ofRights_eq_ok_iff, insertAll, edit, checkVersion_of_isValid isValid_empty]
  have built0 : added set.word0 empty.word0 = set.word0 := added_word_empty mark0
  have built1 : added set.word1 empty.word1 = set.word1 := added_word_empty mark1
  simp only [changeEach, first, second]
  simp only [modify, built0, built1]

/-- The seven top bits of both words, and with them validity, survive every edit of every set, and
no assertion of an edit fails. What starts empty or newly built stays valid in every run and is
never to blame for a refusal. A set is valid exactly if its own two words build it. -/
theorem marks_survive_edits :
    (∀ (set other : RightsSet) (rights : List Word),
      ∀ edited ∈ [(set.insertAll rights).1, (set.eraseAll rights).1, set.union other,
        set.difference other], edited.marks = set.marks ∧ edited.isValid = set.isValid) ∧
    (∀ (set : RightsSet) (rights : List Word),
      editAsserting added set rights = some (set.insertAll rights) ∧
        editAsserting removed set rights = some (set.eraseAll rights)) ∧
    (∀ (start : RightsSet), start = empty ∨ (∃ rights, ofRights rights = .ok start) →
      ∀ (operations : List Operation), ∀ set ∈ visited step start operations,
        set.isValid = true ∧
        ∀ (rights : List Word) (reason : RightsError),
          (set.insertAll rights).2 = .error reason ∨ (set.eraseAll rights).2 = .error reason ∨
            set.holdsAll rights = .error reason → reason.blamesSet = false) ∧
    (∀ word0 word1 : Word,
      (RightsSet.mk word0 word1).isValid = true ↔
        ofRights [word0, word1] = .ok ⟨word0, word1⟩) := by
  refine ⟨?_, ?_, ?_, ?_⟩
  · intro set other rights edited member
    have kept : edited.marks = set.marks := by
      simp only [List.mem_cons, List.not_mem_nil, or_false] at member
      rcases member with rfl | rfl | rfl | rfl
      · exact marks_edit keepsMark_added set rights
      · exact marks_edit keepsMark_removed set rights
      · exact marks_union set other
      · exact marks_difference set other
    exact ⟨kept, isValid_congr kept⟩
  · intro set rights
    exact ⟨editAsserting_eq keepsMark_added set rights,
      editAsserting_eq keepsMark_removed set rights⟩
  · intro start built operations set member
    have startValid : start.isValid = true := by
      rcases built with rfl | ⟨rights, built⟩
      · exact isValid_empty
      · exact isValid_of_ofRights built
    have valid := isValid_visited startValid operations set member
    refine ⟨valid, ?_⟩
    intro rights reason refused
    rcases refused with refused | refused | refused
    · exact blamesSet_of_edit keepsMark_added valid refused
    · exact blamesSet_of_edit keepsMark_removed valid refused
    · exact blamesSet_of_holdsAll valid refused
  · intro word0 word1
    exact ⟨ofRights_words, isValid_of_ofRights⟩

/-- The set of reading and of events: malformed sets are merged in and taken out, a right without a
marker stops an edit midway, and the same right is what the set then refuses. -/
theorem marks_survive_edits_midway :
    let start : RightsSet := ⟨0x0200000000000001, 0x0400000000000020⟩
    let operations : List Operation :=
      [.union ⟨-1, 0⟩, .insert [0x0200000000000002, 0], .difference ⟨0, -1⟩]
    (start.union ⟨-1, 0⟩).marks = start.marks ∧
      ofRights [0x0200000000000001, 0x0400000000000020] = .ok start ∧
      (∀ set ∈ visited step start operations, set.isValid = true) ∧
      (start.insertAll [0x0200000000000002, 0]).2 = .error (.indexOutOfRange 0) ∧
      (RightsError.indexOutOfRange 0).blamesSet = false := by
  intro start operations
  obtain ⟨kept, _, runs, built⟩ := marks_survive_edits
  have whole := (built 0x0200000000000001 0x0400000000000020).mp (by decide)
  have run := runs start (.inr ⟨_, whole⟩) operations
  have refused : (start.insertAll [0x0200000000000002, 0]).2 = .error (.indexOutOfRange 0) :=
    Answer.ofEdit_eq_refused.mp (by decide)
  exact ⟨(kept start ⟨-1, 0⟩ [] _ (by simp)).1, whole, fun set member => (run set member).1,
    refused, (run start List.mem_cons_self).2 _ _ (.inl refused)⟩

end RightsSet

end Confinement
