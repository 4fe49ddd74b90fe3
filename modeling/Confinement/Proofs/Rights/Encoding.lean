import Confinement.Proofs.Rights.Inclusion
import Confinement.Proofs.Rights.Interior
import Confinement.Proofs.Rights.Spelling

/-!
What a list of names encodes. Known names always make a set, and it depends on nothing but the
rights they stand for: each word gathers those of its own, in whatever order and spelling they come.
The leftmost unknown name decides everything else. Main statement: `encode_gathers_rights`.
-/

namespace Confinement

/-- Readings that all succeed, or the first that does not. -/
theorem isSome_or_first_none {α β : Type} (read : α → Option β) (texts : List α) :
    (∀ text ∈ texts, (read text).isSome = true) ∨
      ∃ before text after, texts = before ++ text :: after ∧
        (∀ other ∈ before, (read other).isSome = true) ∧ read text = none := by
  cases found : texts.find? fun text => (read text).isNone with
  | none =>
      left
      intro text member
      have readable := List.find?_eq_none.mp found text member
      simpa [Option.isSome_iff_ne_none] using readable
  | some text =>
      right
      obtain ⟨refused, before, after, split, readable⟩ := List.find?_eq_some_iff_append.mp found
      refine ⟨before, text, after, split, ?_, by simpa using refused⟩
      intro other member
      simpa [Option.isSome_iff_ne_none] using readable other member

namespace Right

/-- The same text, or the same name in two spellings. -/
def SameName (text other : String) : Prop :=
  text = other ∨ ∃ entry ∈ named, SpelledAs text entry.1 ∧ SpelledAs other entry.1

theorem parse?_congr {text other : String} (same : SameName text other) :
    parse? text = parse? other := by
  rcases same with rfl | ⟨entry, member, first, second⟩
  · rfl
  · have read := parse?_eq_some_iff.mpr ⟨entry.1, member, first⟩
    exact read.trans (parse?_eq_some_iff.mpr ⟨entry.1, member, second⟩).symm

theorem sameName_of_bare {entry : String × Word} (member : entry ∈ named) {text other : String}
    (first : bare text.toList = entry.1.toList) (second : bare other.toList = entry.1.toList) :
    SameName text other :=
  .inr ⟨entry, member, spelledAs_of_bare member first, spelledAs_of_bare member second⟩

/-- The rights that belong to one word of a set. -/
def ofWord (index : Fin 2) (rights : List Word) : List Word :=
  rights.filter fun right => Word.namedIndex right.marker = some index.val

end Right

namespace RightsSet

/-! The words of a set that is built. -/

theorem word_changeEach_added {set : RightsSet} {rights : List Word}
    (accepted : ∀ right ∈ rights, set.Accepts right) (index : Fin 2) :
    (changeEach added set rights).1.word index =
      (Right.ofWord index rights).foldl (· ||| ·) (set.word index) := by
  induction rights generalizing set with
  | nil => rfl
  | cons right rights ih =>
      obtain ⟨place, located⟩ := accepted right List.mem_cons_self
      obtain ⟨_, named, _⟩ := locate_eq_ok_iff.mp located
      -- Adding a right leaves the markers alone, so the others are accepted as before.
      have rest : ∀ other ∈ rights, (set.modify place (added right)).Accepts other :=
        fun other member => (accepts_congr (marks_modify_located keepsMark_added located)).mpr
          (accepted other (List.mem_cons_of_mem right member))
      simp only [changeEach, located, ih rest, word_modify, Right.ofWord]
      by_cases here : index = place
      · rw [List.filter_cons_of_pos (by simp [named, here]), if_pos here]
        rfl
      · have elsewhere : ¬ place.val = index.val := fun same => here (Fin.ext same.symm)
        rw [List.filter_cons_of_neg (by simp [named, elsewhere]), if_neg here]

theorem word_ofRights {rights : List Word} {set : RightsSet} (built : ofRights rights = .ok set)
    (index : Fin 2) :
    set.word index = (Right.ofWord index rights).foldl (· ||| ·) (empty.word index) := by
  rw [← word_changeEach_added (rights_of_ofRights built).1]
  have inserted := ofRights_eq_ok_iff.mp built
  rw [insertAll, edit, checkVersion_of_isValid isValid_empty] at inserted
  exact congrArg (fun result => result.1.word index) inserted.symm

/-- All rights there are names for. -/
def whole : RightsSet :=
  ⟨Right.all0, Right.all1⟩

theorem isValid_whole : whole.isValid = true := by decide

theorem holds_whole : ∀ entry ∈ Right.named, whole.holds entry.2 = true := by
  decide +kernel

theorem position_lt_of_mem_whole : ∀ bit ∈ whole.bits,
    bit.position.val < if bit.index = 0 then 43 else 21 := by
  decide +kernel

/-! Names that are known, and the first that is not. -/

section Encode

variable {names : List String}

theorem encode_of_known (known : ∀ name ∈ names, (Right.parse? name).isSome = true) :
    ∃ rights set, names.map Right.parse? = rights.map some ∧ ofRights rights = .ok set ∧
      encode names = .ok set := by
  obtain ⟨rights, parsed⟩ := exists_map_parse? known
  have accepted : ∀ right ∈ rights, empty.Accepts right := by
    intro right member
    obtain ⟨entry, table, rfl⟩ := named_of_map parsed right member
    exact Right.accepts_named entry table
  obtain ⟨set, built, _⟩ := ofRights_of_accepts accepted
  exact ⟨rights, set, parsed, built, by simp only [encode, parseNames_of_map parsed, built]⟩

theorem encode_of_unknown {before after : List String} {name : String}
    (known : ∀ other ∈ before, (Right.parse? other).isSome = true)
    (unknown : Right.parse? name = none) :
    encode (before ++ name :: after) = .error (.unknownRight name) := by
  have stopped : parseNames (before ++ name :: after) = .error (.unknownRight name) := by
    induction before with
    | nil => simp [parseNames, unknown]
    | cons first before ih =>
        obtain ⟨right, read⟩ := Option.isSome_iff_exists.mp (known first List.mem_cons_self)
        have rest := ih fun other member => known other (List.mem_cons_of_mem first member)
        simp [parseNames, read, rest]
  simp only [encode, stopped]

theorem encode_eq_ok_iff {set : RightsSet} :
    encode names = .ok set ↔
      ∃ rights, names.map Right.parse? = rights.map some ∧ ofRights rights = .ok set := by
  constructor
  · intro encoded
    rcases isSome_or_first_none Right.parse? names with
      known | ⟨before, name, after, rfl, known, unknown⟩
    · obtain ⟨rights, made, parsed, built, again⟩ := encode_of_known known
      cases encoded.symm.trans again
      exact ⟨rights, parsed, built⟩
    · cases encoded.symm.trans (encode_of_unknown known unknown)
  · rintro ⟨rights, parsed, built⟩
    simp only [encode, parseNames_of_map parsed, built]

theorem encode_eq_error_iff {reason : CodingError} :
    encode names = .error reason ↔
      ∃ before name after, names = before ++ name :: after ∧
        (∀ other ∈ before, (Right.parse? other).isSome = true) ∧ Right.parse? name = none ∧
        reason = .unknownRight name := by
  constructor
  · intro refused
    rcases isSome_or_first_none Right.parse? names with
      known | ⟨before, name, after, rfl, known, unknown⟩
    · obtain ⟨_, _, _, _, encoded⟩ := encode_of_known known
      cases refused.symm.trans encoded
    · cases refused.symm.trans (encode_of_unknown known unknown)
      exact ⟨before, name, after, rfl, known, unknown, rfl⟩
  · rintro ⟨before, name, after, rfl, known, unknown, rfl⟩
    exact encode_of_unknown known unknown

/-! What the set of known names is made of. -/

variable {rights : List Word} (parsed : names.map Right.parse? = rights.map some)

include parsed

theorem mem_rights_iff {right : Word} :
    right ∈ rights ↔ ∃ name ∈ names, Right.parse? name = some right := by
  rw [← List.mem_map, parsed, List.mem_map_of_injective (Option.some_injective _)]

theorem known_of_map : ∀ name ∈ names, (Right.parse? name).isSome = true := by
  intro name member
  have read : Right.parse? name ∈ rights.map some := parsed ▸ List.mem_map_of_mem member
  obtain ⟨right, _, found⟩ := List.mem_map.mp read
  rw [← found]
  rfl

theorem whole_contains {set : RightsSet} (built : ofRights rights = .ok set) :
    whole.contains set = true := by
  have same := marks_eq_of_isValid isValid_whole (isValid_of_ofRights built)
  rw [contains_iff_bits_subset same, (rights_of_ofRights built).2]
  intro bit present
  obtain ⟨right, member, inRight⟩ := Right.mem_bitsOf.mp present
  obtain ⟨entry, table, rfl⟩ := named_of_map parsed right member
  exact (holds_eq isValid_whole (Right.accepts_named entry table)).mp (holds_whole entry table)
    inRight

/-- Names that stand for the same rights encode the same set. -/
theorem encode_congr {others : List String} {set : RightsSet} (built : ofRights rights = .ok set)
    (forth : ∀ name ∈ names, ∃ other ∈ others, Right.SameName name other)
    (back : ∀ other ∈ others, ∃ name ∈ names, Right.SameName name other) :
    encode others = .ok set := by
  have known : ∀ other ∈ others, (Right.parse? other).isSome = true := by
    intro other member
    obtain ⟨name, among, same⟩ := back other member
    rw [← Right.parse?_congr same]
    exact known_of_map parsed name among
  obtain ⟨otherRights, otherSet, otherParsed, otherBuilt, encoded⟩ := encode_of_known known
  have rightsSame : rights.toFinset = otherRights.toFinset := by
    ext right
    rw [List.mem_toFinset, List.mem_toFinset, mem_rights_iff parsed, mem_rights_iff otherParsed]
    constructor
    · rintro ⟨name, among, read⟩
      obtain ⟨other, member, same⟩ := forth name among
      exact ⟨other, member, (Right.parse?_congr same).symm.trans read⟩
    · rintro ⟨other, member, read⟩
      obtain ⟨name, among, same⟩ := back other member
      exact ⟨name, among, (Right.parse?_congr same).trans read⟩
  -- Valid sets differ in nothing but bits, and these do not depend on order or number.
  have marks := marks_eq_of_isValid (isValid_of_ofRights otherBuilt) (isValid_of_ofRights built)
  have setsSame : otherSet = set := by
    rw [eq_iff_bits_eq marks, (rights_of_ofRights otherBuilt).2, (rights_of_ofRights built).2,
      Right.bitsOf, Right.bitsOf, rightsSame]
  rw [encoded, setsSame]

end Encode

/-- Encoding succeeds exactly if every name is known. Each word of the set is then the word of the
empty set with the rights for it in; the set is valid, has only bits that names stand for, and is
that of every list with the same names in any spelling, order and number. A failure names the
leftmost unknown name as it was given, whatever stands behind it, and no right is ever refused. -/
theorem encode_gathers_rights :
    (∀ names reason, encode names ≠ .error (.refused reason)) ∧
    (∀ names, (∃ set, encode names = .ok set) ↔
      ∀ name ∈ names, (Right.parse? name).isSome = true) ∧
    (∀ names set, encode names = .ok set →
      set.isValid = true ∧
      ofRights [Right.all0, Right.all1] = .ok whole ∧ whole.contains set = true ∧
      (∀ bit ∈ set.bits, bit.position.val < if bit.index = 0 then 43 else 21) ∧
      (∃ rights, names.map Right.parse? = rights.map some ∧
        ∀ index, set.word index =
          (Right.ofWord index rights).foldl (· ||| ·) (empty.word index)) ∧
      ∀ others, (∀ name ∈ names, ∃ other ∈ others, Right.SameName name other) →
        (∀ other ∈ others, ∃ name ∈ names, Right.SameName name other) →
        encode others = .ok set) ∧
    (∀ names reason, encode names = .error reason ↔
      ∃ before name after, names = before ++ name :: after ∧
        (∀ other ∈ before, (Right.parse? other).isSome = true) ∧ Right.parse? name = none ∧
        reason = .unknownRight name) ∧
    (∀ name, (CodingError.unknownRight name).message = "unknown right " ++ Text.quote name) := by
  refine ⟨?_, ?_, ?_, fun _ _ => encode_eq_error_iff, fun _ => rfl⟩
  · intro names reason refused
    obtain ⟨_, _, _, _, _, _, other⟩ := encode_eq_error_iff.mp refused
    cases other
  · intro names
    constructor
    · rintro ⟨set, encoded⟩
      obtain ⟨rights, parsed, _⟩ := encode_eq_ok_iff.mp encoded
      exact known_of_map parsed
    · intro known
      obtain ⟨_, set, _, _, encoded⟩ := encode_of_known known
      exact ⟨set, encoded⟩
  · intro names set encoded
    obtain ⟨rights, parsed, built⟩ := encode_eq_ok_iff.mp encoded
    have inside := whole_contains parsed built
    refine ⟨isValid_of_ofRights built, ofRights_words isValid_whole, inside, ?_,
      ⟨rights, parsed, word_ofRights built⟩, fun others => encode_congr parsed built⟩
    intro bit present
    rw [contains_iff_bits_subset
      (marks_eq_of_isValid isValid_whole (isValid_of_ofRights built))] at inside
    exact position_lt_of_mem_whole bit (inside present)

/-- Names in mixed spellings, one of them twice, and the same two once each in the other order. A
name that is no right is quoted with its blanks, though a worse one follows. -/
theorem encode_gathers_rights_respelled :
    encode [" CAP_seek\t", "Event", "seek"] = .ok ⟨0x020000000000000c, 0x0400000000000020⟩ ∧
      encode ["cap_EVENT", "SEEK"] = .ok ⟨0x020000000000000c, 0x0400000000000020⟩ ∧
      encode ["read", "\tfly ", "cap_cap_read"] = .error (.unknownRight "\tfly ") ∧
      (CodingError.unknownRight "\tfly ").message = "unknown right \"\\tfly \"" := by
  obtain ⟨_, total, made, fails, message⟩ := encode_gathers_rights
  have seek : ("seek", Right.seek) ∈ Right.named := by decide +kernel
  have event : ("event", Right.event) ∈ Right.named := by decide +kernel
  have words : (encode [" CAP_seek\t", "Event", "seek"]).toOption =
      some ⟨0x020000000000000c, 0x0400000000000020⟩ := by
    decide +kernel
  obtain ⟨set, encoded⟩ : ∃ set, encode [" CAP_seek\t", "Event", "seek"] = .ok set :=
    (total _).mpr (by decide +kernel)
  rw [encoded] at words
  cases words
  refine ⟨encoded, (made _ _ encoded).2.2.2.2.2 _ ?_ ?_, ?_, ?_⟩
  · simp only [List.forall_mem_cons]
    refine ⟨⟨"SEEK", by simp, Right.sameName_of_bare seek (by decide) (by decide)⟩,
      ⟨"cap_EVENT", by simp, Right.sameName_of_bare event (by decide) (by decide)⟩,
      ⟨"SEEK", by simp, Right.sameName_of_bare seek (by decide) (by decide)⟩,
      List.forall_mem_nil _⟩
  · simp only [List.forall_mem_cons]
    refine ⟨⟨"Event", by simp, Right.sameName_of_bare event (by decide) (by decide)⟩,
      ⟨"seek", by simp, Right.sameName_of_bare seek (by decide) (by decide)⟩,
      List.forall_mem_nil _⟩
  · exact (fails _ _).mpr ⟨["read"], "\tfly ", ["cap_cap_read"], rfl, by decide +kernel,
      by decide +kernel, rfl⟩
  · rw [message]
    decide +kernel

end RightsSet

end Confinement
