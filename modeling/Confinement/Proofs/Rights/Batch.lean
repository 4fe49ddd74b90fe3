import Confinement.Proofs.Rights.Mark

/-!
Batches of rights. Whether a set takes a right hangs on the marks of its words, which no edit
changes, so it is settled for a whole batch before its first right is looked at. A batch stops at
the first right that the set it began with refuses, and has done all that stands before it. Main
statement: `batch_stops_at_first_fault`.
-/

namespace Confinement

namespace Word

/-- Of the five marker bits of a word one alone is set, the one for word `index` of a set. -/
def Names (right : Word) (index : Fin 5) : Prop :=
  ∀ place : Fin 5, right.getLsbD (57 + place) = decide (place = index)

instance (right : Word) (index : Fin 5) : Decidable (right.Names index) :=
  inferInstanceAs (Decidable (∀ _ : Fin 5, _))

theorem getLsbD_eq_testBit_marker (right : Word) (place : Fin 5) :
    right.getLsbD (57 + place) = right.marker.testBit place := by
  have inside : place.val < 7 := Nat.lt_trans place.isLt (by decide)
  have fromMark : right.getLsbD (57 + place) = right.mark.getLsbD place := by
    rw [getLsbD_mark, decide_eq_true inside, Bool.true_and]
  have cut : (right.mark.toNat % 32).testBit place = right.mark.toNat.testBit place := by
    rw [show (32 : Nat) = 2 ^ 5 from rfl, Nat.testBit_mod_two_pow, decide_eq_true place.isLt,
      Bool.true_and]
  rw [fromMark, marker_eq_mark, cut]
  rfl

theorem namedIndex_eq_some_iff_testBit : ∀ marker < 32, ∀ index : Fin 5,
    (∀ place : Fin 5, marker.testBit place = decide (place = index)) ↔
      namedIndex marker = some index.val := by
  decide

theorem names_iff {right : Word} {index : Fin 5} :
    right.Names index ↔ namedIndex right.marker = some index.val := by
  rw [← namedIndex_eq_some_iff_testBit right.marker right.marker_lt index]
  exact forall_congr' fun place => by rw [getLsbD_eq_testBit_marker]

theorem namedIndex_lt : ∀ marker < 32, ∀ index ∈ namedIndex marker, index < 5 := by
  decide

/-- A marker has one bit exactly if it names a word at all, be it one that no set has. -/
theorem exists_names_iff {right : Word} :
    (∃ index, right.Names index) ↔ namedIndex right.marker ≠ none := by
  constructor
  · rintro ⟨index, names⟩
    rw [names_iff.mp names]
    exact Option.some_ne_none _
  · intro named
    obtain ⟨place, found⟩ := Option.ne_none_iff_exists'.mp named
    exact ⟨⟨place, namedIndex_lt _ right.marker_lt place found⟩, names_iff.mpr found⟩

end Word

namespace RightsSet

/-! What a set finds wrong with a right. -/

/-- Why a set refuses a right, if it does. Of several reasons the first one counts. -/
def fault? (set : RightsSet) (right : Word) : Option RightsError :=
  if right.version ≠ 0 then some (.badRightVersion right)
  else if ¬ ∃ index, right.Names index then some (.indexOutOfRange right)
  else if ∃ index : Fin 5, 2 ≤ index.val ∧ right.Names index then some (.indexOverflow right 2)
  else if ∃ index : Fin 2, right.Names (index.castLE (by decide)) ∧
      (set.word index).marker ≠ right.marker then
    some (.indexMismatch right)
  else none

theorem fault?_eq (set : RightsSet) (right : Word) :
    set.fault? right =
      match set.locate right with
      | .error reason => some reason
      | .ok _ => none := by
  by_cases version : right.version = 0
  · rw [fault?, if_neg (not_not_intro version)]
    cases named : Word.namedIndex right.marker with
    | none =>
        have unnamed : ¬ ∃ index, right.Names index :=
          mt Word.exists_names_iff.mp (not_not_intro named)
        rw [if_pos unnamed]
        simp [locate, version, named]
    | some place =>
        have bound := Word.namedIndex_lt _ right.marker_lt place named
        have names (index : Fin 5) : right.Names index ↔ place = index.val := by
          rw [Word.names_iff, named, Option.some.injEq]
        rw [if_neg (not_not_intro ⟨⟨place, bound⟩, (names _).mpr rfl⟩)]
        by_cases inside : place < wordCount
        · have low : ¬ ∃ index : Fin 5, 2 ≤ index.val ∧ right.Names index := by
            rintro ⟨index, high, named⟩
            exact Nat.not_lt.mpr high ((names index).mp named ▸ inside)
          have only : (∃ index : Fin 2, right.Names (index.castLE (by decide)) ∧
              (set.word index).marker ≠ right.marker) ↔
              (set.word ⟨place, inside⟩).marker ≠ right.marker := by
            constructor
            · rintro ⟨index, named, different⟩
              rwa [show (⟨place, inside⟩ : Fin 2) = index from Fin.ext ((names _).mp named)]
            · intro different
              exact ⟨⟨place, inside⟩, (names _).mpr rfl, different⟩
          rw [if_neg low]
          by_cases marker : (set.word ⟨place, inside⟩).marker = right.marker
          · rw [if_neg (mt only.mp (not_not_intro marker))]
            simp [locate, version, named, inside, marker]
          · rw [if_pos (only.mpr marker)]
            simp [locate, version, named, inside, marker]
        · have beyond : ¬ place < 2 := inside
          rw [if_pos ⟨⟨place, bound⟩, Nat.le_of_not_lt beyond, (names _).mpr rfl⟩]
          simp [locate, version, named, beyond, wordCount]
  · rw [fault?, if_pos version]
    simp [locate, version]

theorem fault?_congr {set other : RightsSet} (same : set.marks = other.marks) (right : Word) :
    set.fault? right = other.fault? right := by
  rw [fault?_eq, fault?_eq, locate_congr same]

theorem locate_of_fault {set : RightsSet} {right : Word} {reason : RightsError}
    (fault : set.fault? right = some reason) : set.locate right = .error reason := by
  rw [fault?_eq] at fault
  cases located : set.locate right with
  | error cause =>
      rw [located] at fault
      cases fault
      rfl
  | ok index =>
      rw [located] at fault
      cases fault

theorem locate_of_sound {set : RightsSet} {right : Word} (sound : set.fault? right = none) :
    ∃ index, set.locate right = .ok index := by
  rw [fault?_eq] at sound
  cases located : set.locate right with
  | error cause =>
      rw [located] at sound
      cases sound
  | ok index => exact ⟨index, rfl⟩

theorem fault?_ne_badSize (set : RightsSet) (right : Word) (size : Nat) :
    set.fault? right ≠ some (.badSize size) := by
  unfold fault?
  split
  · simp
  · split
    · simp
    · split
      · simp
      · split <;> simp

/-! What a batch does. -/

/-- The set after one right: changed is the word that the right names and no other. -/
def applied (change : Word → Word → Word) (set : RightsSet) (right : Word) : RightsSet where
  word0 := if right.Names 0 then change right set.word0 else set.word0
  word1 := if right.Names 1 then change right set.word1 else set.word1

def appliedAll (change : Word → Word → Word) (set : RightsSet) (rights : List Word) : RightsSet :=
  rights.foldl (applied change) set

theorem modify_eq_applied (change : Word → Word → Word) {set : RightsSet} {right : Word}
    {index : Fin 2} (located : set.locate right = .ok index) :
    set.modify index (change right) = applied change set right := by
  have named := (locate_eq_ok_iff.mp located).2.1
  have zero : right.Names 0 ↔ index = 0 := by
    rw [Word.names_iff, named, Option.some.injEq, Fin.ext_iff]
    rfl
  have one : right.Names 1 ↔ index = 1 := by
    rw [Word.names_iff, named, Option.some.injEq, Fin.ext_iff]
    rfl
  match index with
  | 0 => rw [applied, if_pos (zero.mpr rfl), if_neg (mt one.mp (by decide))]; rfl
  | 1 => rw [applied, if_neg (mt zero.mp (by decide)), if_pos (one.mpr rfl)]; rfl

section Batch

variable {change : Word → Word → Word} (keeps : KeepsMark change) {set : RightsSet}

include keeps

/-- Rights that the set takes are applied one after another, and the rest of the batch finds a set
that refuses what the first one does. -/
theorem changeEach_append {before : List Word} (after : List Word)
    (sound : ∀ right ∈ before, set.fault? right = none) :
    changeEach change set (before ++ after) =
        changeEach change (appliedAll change set before) after ∧
      (appliedAll change set before).marks = set.marks := by
  induction before generalizing set with
  | nil => exact ⟨rfl, rfl⟩
  | cons right before ih =>
      obtain ⟨index, located⟩ := locate_of_sound (sound right List.mem_cons_self)
      have same : (applied change set right).marks = set.marks := by
        rw [← modify_eq_applied change located]
        exact marks_modify_located keeps located
      have rest : ∀ later ∈ before, (applied change set right).fault? later = none :=
        fun later member =>
          (fault?_congr same later).trans (sound later (List.mem_cons_of_mem right member))
      have tail := ih rest
      rw [List.cons_append, changeEach, located]
      simp only [modify_eq_applied change located]
      exact ⟨tail.1, tail.2.trans same⟩

theorem changeEach_of_sound {rights : List Word}
    (sound : ∀ right ∈ rights, set.fault? right = none) :
    changeEach change set rights = (appliedAll change set rights, .ok ()) := by
  have whole := (changeEach_append keeps [] sound).1
  rwa [List.append_nil] at whole

theorem changeEach_of_fault {before : List Word} {right : Word} (after : List Word)
    {reason : RightsError} (sound : ∀ earlier ∈ before, set.fault? earlier = none)
    (fault : set.fault? right = some reason) :
    changeEach change set (before ++ right :: after) =
      (appliedAll change set before, .error reason) := by
  obtain ⟨reached, same⟩ := changeEach_append keeps (right :: after) sound
  have refused := locate_of_fault ((fault?_congr same right).trans fault)
  rw [reached, changeEach, refused]

end Batch

/-- A list of rights has no fault, or it has a first one. -/
theorem sound_or_first_fault (set : RightsSet) (rights : List Word) :
    (∀ right ∈ rights, set.fault? right = none) ∨
      ∃ before right after reason, rights = before ++ right :: after ∧
        (∀ earlier ∈ before, set.fault? earlier = none) ∧ set.fault? right = some reason := by
  induction rights with
  | nil => exact .inl (List.forall_mem_nil _)
  | cons first rights ih =>
      cases fault : set.fault? first with
      | some reason =>
          exact .inr ⟨[], first, rights, reason, rfl, List.forall_mem_nil _, fault⟩
      | none =>
          rcases ih with sound | ⟨before, right, after, reason, rfl, sound, fails⟩
          · exact .inl (List.forall_mem_cons.mpr ⟨fault, sound⟩)
          · exact .inr ⟨first :: before, right, after, reason, rfl,
              List.forall_mem_cons.mpr ⟨fault, sound⟩, fails⟩

/-! Tables and arrays. -/

/-- The word that each marker names, with minus one for a marker that names none. -/
def indexTable : List Int :=
  [-1, 0, 1, -1, 2, -1, -1, -1, 3, -1, -1, -1, -1, -1, -1, -1,
    4, -1, -1, -1, -1, -1, -1, -1, -1, -1, -1, -1, -1, -1, -1, -1]

/-- `locate` by way of the table and with words counted from zero. There is no result where an
access is out of bounds. -/
def locateIndexing (set : RightsSet) (size : Nat) (right : Word) :
    Option (Except RightsError Nat) :=
  if right.version ≠ 0 then some (.error (.badRightVersion right))
  else
    match indexTable[right.marker]? with
    | none => none
    | some entry =>
        if entry < 0 then some (.error (.indexOutOfRange right))
        else if size ≤ entry.toNat then some (.error (.indexOverflow right size))
        else
          match [set.word0, set.word1][entry.toNat]? with
          | none => none
          | some word =>
              if word.marker ≠ right.marker then some (.error (.indexMismatch right))
              else some (.ok entry.toNat)

def changeEachIndexing (change : Word → Word → Word) (size : Nat) (set : RightsSet) :
    List Word → Option (RightsSet × Except RightsError Unit)
  | [] => some (set, .ok ())
  | right :: rights =>
      match locateIndexing set size right with
      | none => none
      | some (.error reason) => some (set, .error reason)
      | some (.ok index) =>
          if inside : index < 2 then
            changeEachIndexing change size (set.modify ⟨index, inside⟩ (change right)) rights
          else none

def editIndexing (change : Word → Word → Word) (set : RightsSet) (rights : List Word) :
    Option (RightsSet × Except RightsError Unit) :=
  match set.checkVersion with
  | .error reason => some (set, .error reason)
  | .ok () => changeEachIndexing change set.arraySize set rights

theorem indexTable_getElem? : ∀ marker < 32,
    indexTable[marker]? = some ((Word.namedIndex marker).elim (-1) Int.ofNat) := by
  decide

theorem locateIndexing_eq (set : RightsSet) (right : Word) :
    locateIndexing set wordCount right = some ((set.locate right).map (·.val)) := by
  unfold locateIndexing locate
  rw [indexTable_getElem? right.marker right.marker_lt]
  by_cases version : right.version = 0
  · cases named : Word.namedIndex right.marker with
    | none => simp [version, Except.map]
    | some place =>
        have natural : ¬ Int.ofNat place < 0 := Int.not_lt.mpr (Int.natCast_nonneg place)
        by_cases inside : place < wordCount
        · have found : [set.word0, set.word1][place]? = some (set.word ⟨place, inside⟩) := by
            match place, inside with
            | 0, _ => rfl
            | 1, _ => rfl
          by_cases marker : (set.word ⟨place, inside⟩).marker = right.marker <;>
            simp [version, inside, Nat.not_le.mpr inside, found, marker, Except.map]
        · simp [version, inside, Nat.le_of_not_lt inside, Except.map]
  · simp [version, Except.map]

theorem changeEachIndexing_eq (change : Word → Word → Word) (set : RightsSet)
    (rights : List Word) :
    changeEachIndexing change wordCount set rights = some (changeEach change set rights) := by
  induction rights generalizing set with
  | nil => rfl
  | cons right rights ih =>
      rw [changeEachIndexing, changeEach, locateIndexing_eq]
      cases located : set.locate right with
      | error reason => rfl
      | ok index => exact (dif_pos index.isLt).trans (ih _)

theorem editIndexing_eq (change : Word → Word → Word) (set : RightsSet) (rights : List Word) :
    editIndexing change set rights = some (edit change set rights) := by
  by_cases version : set.version = 0
  · have size : set.arraySize = wordCount := by rw [arraySize, version]; rfl
    simp only [editIndexing, edit, checkVersion_eq, if_pos version, size, changeEachIndexing_eq]
  · simp only [editIndexing, edit, checkVersion_eq, if_neg version]

/-- A set of another version takes no batch. Any other applies all rights of a batch in which it
finds no fault, and else those before the first with a fault, which it gives as its reason. Adding
and removing are refused at the same right for the same reason. The size of a set is never the
reason, and no access to a table or a word is out of bounds. -/
theorem batch_stops_at_first_fault (set : RightsSet) (rights : List Word) :
    (set.version ≠ 0 →
      set.insertAll rights = (set, .error (.badVersion set.version)) ∧
        set.eraseAll rights = (set, .error (.badVersion set.version))) ∧
    (set.version = 0 → (∀ right ∈ rights, set.fault? right = none) →
      set.insertAll rights = (appliedAll added set rights, .ok ()) ∧
        set.eraseAll rights = (appliedAll removed set rights, .ok ())) ∧
    (set.version = 0 → ∀ before right after reason, rights = before ++ right :: after →
      (∀ earlier ∈ before, set.fault? earlier = none) → set.fault? right = some reason →
      set.insertAll rights = (appliedAll added set before, .error reason) ∧
        set.eraseAll rights = (appliedAll removed set before, .error reason)) ∧
    (set.insertAll rights).2 = (set.eraseAll rights).2 ∧
    (∀ size, (set.insertAll rights).2 ≠ .error (.badSize size)) ∧
    editIndexing added set rights = some (set.insertAll rights) ∧
    editIndexing removed set rights = some (set.eraseAll rights) := by
  have other (version : set.version ≠ 0) (change : Word → Word → Word) :
      edit change set rights = (set, .error (.badVersion set.version)) := by
    simp only [edit, checkVersion_eq, if_neg version]
  have whole (version : set.version = 0) (change : Word → Word → Word) :
      edit change set rights = changeEach change set rights := by
    simp only [edit, checkVersion_eq, if_pos version]
  have sameReason : (set.insertAll rights).2 = (set.eraseAll rights).2 ∧
      ∀ size, (set.insertAll rights).2 ≠ .error (.badSize size) := by
    by_cases version : set.version = 0
    · rw [insertAll, eraseAll, whole version, whole version]
      rcases sound_or_first_fault set rights with
        sound | ⟨before, right, after, reason, rfl, sound, fault⟩
      · rw [changeEach_of_sound keepsMark_added sound, changeEach_of_sound keepsMark_removed sound]
        refine ⟨rfl, ?_⟩
        intro size failed
        cases failed
      · rw [changeEach_of_fault keepsMark_added after sound fault,
          changeEach_of_fault keepsMark_removed after sound fault]
        refine ⟨rfl, ?_⟩
        intro size failed
        cases failed
        exact fault?_ne_badSize set right size fault
    · rw [insertAll, eraseAll, other version, other version]
      refine ⟨rfl, ?_⟩
      intro size failed
      cases failed
  refine ⟨fun version => ⟨other version added, other version removed⟩, ?_, ?_, sameReason.1,
    sameReason.2, editIndexing_eq added set rights, editIndexing_eq removed set rights⟩
  · intro version sound
    rw [insertAll, eraseAll, whole version, whole version]
    exact ⟨changeEach_of_sound keepsMark_added sound, changeEach_of_sound keepsMark_removed sound⟩
  · rintro version before right after reason rfl sound fault
    rw [insertAll, eraseAll, whole version, whole version]
    exact ⟨changeEach_of_fault keepsMark_added after sound fault,
      changeEach_of_fault keepsMark_removed after sound fault⟩

/-- Words that carry the markers of one another, so that the first right stops the batch; a sound
set, which takes it and stops at a right for a third word; that set with the sound right alone; and
a set of another version with no right at all. -/
theorem batch_stops_at_first_fault_swapped :
    let swapped : RightsSet := ⟨0x0400000000000000, 0x0200000000000000⟩
    let seek : Word := 0x020000000000000c
    let third : Word := 0x0800000000000001
    swapped.fault? seek = some (.indexMismatch seek) ∧
      swapped.insertAll [seek, third] = (swapped, .error (.indexMismatch seek)) ∧
      empty.fault? seek = none ∧ empty.fault? third = some (.indexOverflow third 2) ∧
      empty.insertAll [seek, third, 0] =
        (⟨seek, empty.word1⟩, .error (.indexOverflow third 2)) ∧
      empty.insertAll [seek] = (⟨seek, empty.word1⟩, .ok ()) ∧
      (⟨-1, 0⟩ : RightsSet).eraseAll [] = (⟨-1, 0⟩, .error (.badVersion 3)) := by
  intro swapped seek third
  have mismatch : swapped.fault? seek = some (.indexMismatch seek) := by decide
  have sound : empty.fault? seek = none := by decide
  have alone : ∀ right ∈ [seek], empty.fault? right = none := List.forall_mem_singleton.mpr sound
  have overflow : empty.fault? third = some (.indexOverflow third 2) := by decide
  have built : appliedAll added empty [seek] = ⟨seek, empty.word1⟩ := by decide
  obtain ⟨_, _, stopped, _⟩ := batch_stops_at_first_fault swapped [seek, third]
  obtain ⟨_, _, midway, _⟩ := batch_stops_at_first_fault empty [seek, third, 0]
  obtain ⟨_, completed, _⟩ := batch_stops_at_first_fault empty [seek]
  obtain ⟨newer, _⟩ := batch_stops_at_first_fault ⟨-1, 0⟩ []
  exact ⟨mismatch,
    (stopped (by decide) [] seek [third] _ rfl (List.forall_mem_nil _) mismatch).1, sound, overflow,
    built ▸ (midway (by decide) [seek] third [0] _ rfl alone overflow).1,
    built ▸ (completed (by decide) alone).1, (newer (by decide)).2⟩

end RightsSet

end Confinement
