import Confinement.Proofs.Text.Decimal
import Confinement.Proofs.Text.Folding

/-!
How a word may be written: hexadecimal digits in either case, behind `0x` or alone, perhaps with a
plus sign, with underscores among them and blanks around it all. A text is read exactly if it is
such a numeral and its value fits a word. Main statement: `parseHex?_reads_numerals`.
-/

namespace Confinement

namespace Text

/-! Digits. -/

def IsDigit (c : Char) (value : Nat) : Prop :=
  "0123456789abcdef".toList[value]? = some c ∨ "0123456789ABCDEF".toList[value]? = some c

variable {c d : Char} {value : Nat}

theorem IsDigit.lt (digit : IsDigit c value) : value < 16 := by
  rcases digit with found | found <;> exact (List.getElem?_eq_some_iff.mp found).1

theorem digitValue?_table : ∀ value < 16,
    "0123456789abcdef".toList[value]?.bind digitValue? = some value ∧
      "0123456789ABCDEF".toList[value]?.bind digitValue? = some value := by
  decide

theorem table_digitValue? : ∀ code < 103, ∀ value ∈ digitValue? (Char.ofNat code),
    "0123456789abcdef".toList[value]? = some (Char.ofNat code) ∨
      "0123456789ABCDEF".toList[value]? = some (Char.ofNat code) := by
  decide

theorem toNat_lt_of_digitValue? (read : digitValue? c = some value) : c.toNat < 103 := by
  have high : c ≤ 'f' := by
    unfold digitValue? at read
    split at read
    · next decimal => exact Char.le_trans decimal.2 (by decide)
    · split at read
      · next lower => exact lower.2
      · split at read
        · next upper => exact Char.le_trans upper.2 (by decide)
        · contradiction
  exact Nat.lt_succ_of_le high

theorem digitValue?_eq_some_iff : digitValue? c = some value ↔ IsDigit c value := by
  constructor
  · intro read
    have found := table_digitValue? c.toNat (toNat_lt_of_digitValue? read) value
    rw [Char.ofNat_toNat] at found
    exact found read
  · intro digit
    obtain ⟨lower, upper⟩ := digitValue?_table value digit.lt
    rcases digit with found | found
    · rwa [found] at lower
    · rwa [found] at upper

theorem digitValue?_letter : ∀ letter ∈ letters,
    digitValue? letter.1 = digitValue? letter.2 := by
  decide

theorem digitValue?_congr (same : SameLetter c d) : digitValue? c = digitValue? d := by
  rcases same with rfl | member | member
  · rfl
  · exact digitValue?_letter _ member
  · exact (digitValue?_letter _ member).symm

theorem IsDigit.congr (same : SameLetter c d) (digit : IsDigit d value) : IsDigit c value := by
  rw [← digitValue?_eq_some_iff, digitValue?_congr same]
  exact digitValue?_eq_some_iff.mpr digit

theorem plain_digits : ("0123456789abcdef".toList ++ "0123456789ABCDEF".toList).all
    fun c => !isBlank c && c != '_' && c != '+' && c != 'x' && c != 'X' := by
  decide

/-- No digit is a blank or one of the other characters of a numeral. -/
theorem IsDigit.plain (digit : IsDigit c value) :
    isBlank c = false ∧ c ≠ '_' ∧ c ≠ '+' ∧ c ≠ 'x' ∧ c ≠ 'X' := by
  have member : c ∈ "0123456789abcdef".toList ++ "0123456789ABCDEF".toList :=
    List.mem_append.mpr (digit.imp List.mem_of_getElem? List.mem_of_getElem?)
  simpa [and_assoc] using List.all_eq_true.mp plain_digits c member

variable {text : List Char} {values : List Nat}

theorem mapM_digitValue?_eq_some_iff :
    text.mapM digitValue? = some values ↔ List.Forall₂ IsDigit text values := by
  induction text generalizing values with
  | nil => cases values <;> simp
  | cons c text ih =>
      simp only [List.mapM_cons, Option.bind_eq_bind, Option.bind_eq_some_iff, Option.pure_def,
        Option.some.injEq, digitValue?_eq_some_iff, ih, List.forall₂_cons_left_iff]
      constructor
      · rintro ⟨value, digit, others, rest, rfl⟩
        exact ⟨value, others, digit, rest, rfl⟩
      · rintro ⟨value, others, digit, rest, rfl⟩
        exact ⟨value, digit, others, rest, rfl⟩

theorem exists_isDigit (read : List.Forall₂ IsDigit text values) (member : c ∈ text) :
    ∃ value, IsDigit c value := by
  induction read with
  | nil => cases member
  | cons digit _ ih =>
      rcases List.mem_cons.mp member with rfl | later
      · exact ⟨_, digit⟩
      · exact ih later

theorem forall₂_isDigit_congr {other : List Char} (same : SameText other text)
    (read : List.Forall₂ IsDigit text values) : List.Forall₂ IsDigit other values := by
  induction same generalizing values with
  | nil => exact read
  | cons first _ ih =>
      cases read with
      | cons digit rest => exact .cons (digit.congr first) (ih rest)

theorem trim_of_allBlank {text : List Char} (blank : AllBlank text) : trim text = [] := by
  rw [trim, trimLeft, List.dropWhile_eq_nil_iff.mpr blank]
  rfl

theorem trim_of_solid {before solid after : List Char} (blankBefore : AllBlank before)
    (unblank : Solid solid) (blankAfter : AllBlank after) :
    trim (before ++ solid ++ after) = solid := by
  by_cases empty : solid = []
  · rw [empty, List.append_nil]
    exact trim_of_allBlank (List.forall_mem_append.mpr ⟨blankBefore, blankAfter⟩)
  · exact trim_append blankBefore unblank empty blankAfter

theorem mem_trimRight {c : Char} {text : List Char} (unblank : isBlank c = false)
    (member : c ∈ text) : c ∈ trimRight text := by
  obtain ⟨after, whole, blank⟩ := exists_blanks_after text
  rw [whole] at member
  rcases List.mem_append.mp member with kept | gone
  · exact kept
  · rw [blank c gone] at unblank
    contradiction

end Text

namespace Word

open Text

/-! Numerals. -/

def IsMark (head : List Char) : Prop :=
  head = ['0', 'x'] ∨ head = ['0', 'X']

/-- Between blanks a text holds a mark, or none, and a body. -/
def Holds (text : String) (head body : List Char) : Prop :=
  ∃ before after,
    text.toList = before ++ (head ++ body) ++ after ∧ AllBlank before ∧ AllBlank after ∧
      (head = [] ∨ IsMark head)

def IsNumeral (text : String) (values : List Nat) : Prop :=
  ∃ head body sign digits,
    Holds text head body ∧ body.filter (· ≠ '_') = sign ++ digits ∧
      (sign = [] ∨ sign = ['+']) ∧ values ≠ [] ∧ List.Forall₂ IsDigit digits values

/-! What is read of a text. -/

def unmarked (text : List Char) : List Char :=
  match text with
  | '0' :: 'x' :: rest | '0' :: 'X' :: rest => rest
  | _ => text

def unsigned (text : List Char) : List Char :=
  match text with
  | '+' :: rest => rest
  | _ => text

/-- The digits of a text as they are left by what goes before them. -/
def digitsOf (text : String) : List Char :=
  unsigned ((unmarked (trim text.toList)).filter (· ≠ '_'))

/-- The word that the values of digits make, if all could be read and there are any. -/
def ofReading? : Option (List Nat) → Option Word
  | none | some [] => none
  | some values =>
      let number := ofDigits 16 values
      if number < 0x10000000000000000 then some (BitVec.ofNat 64 number) else none

theorem parseHex?_eq (text : String) :
    parseHex? text = ofReading? ((digitsOf text).mapM digitValue?) := rfl

theorem ofReading?_some {values : List Nat} (nonempty : values ≠ []) :
    ofReading? (some values) =
      if Nat.ofDigits 16 values.reverse < 0x10000000000000000 then
        some (BitVec.ofNat 64 (Nat.ofDigits 16 values.reverse))
      else none := by
  cases values with
  | nil => contradiction
  | cons value values =>
      rw [← ofDigits_eq]
      rfl

theorem exists_unmarked (text : List Char) :
    ∃ head, (head = [] ∨ IsMark head) ∧ text = head ++ unmarked text := by
  unfold unmarked
  split
  · exact ⟨['0', 'x'], .inr (.inl rfl), rfl⟩
  · exact ⟨['0', 'X'], .inr (.inr rfl), rfl⟩
  · exact ⟨[], .inl rfl, rfl⟩

theorem unmarked_of_isMark {head : List Char} (mark : IsMark head) (rest : List Char) :
    unmarked (head ++ rest) = rest := by
  rcases mark with rfl | rfl <;> rfl

theorem unmarked_of_free {text : List Char} (free : 'x' ∉ text ∧ 'X' ∉ text) :
    unmarked text = text := by
  unfold unmarked
  split
  · simp at free
  · simp at free
  · rfl

theorem exists_unsigned (text : List Char) :
    ∃ sign, (sign = [] ∨ sign = ['+']) ∧ text = sign ++ unsigned text := by
  unfold unsigned
  split
  · exact ⟨['+'], .inr rfl, rfl⟩
  · exact ⟨[], .inl rfl, rfl⟩

theorem unsigned_of_free {text : List Char} (free : '+' ∉ text) : unsigned text = text := by
  unfold unsigned
  split
  · simp at free
  · rfl

theorem unsigned_append {sign digits : List Char} (signed : sign = [] ∨ sign = ['+'])
    (free : '+' ∉ digits) : unsigned (sign ++ digits) = digits := by
  rcases signed with rfl | rfl
  · exact unsigned_of_free free
  · rfl

theorem IsMark.solid {head : List Char} (mark : IsMark head) : Solid head := by
  rcases mark with rfl | rfl <;> decide

section Holds

variable {text : String} {head body : List Char} (holds : Holds text head body)

include holds

/-- A body that is free of blanks, and without a mark free of its letters, is what is left. -/
theorem unmarked_of_holds (solid : Solid body) (free : 'x' ∉ body ∧ 'X' ∉ body) :
    unmarked (trim text.toList) = body := by
  obtain ⟨before, after, whole, blankBefore, blankAfter, marked⟩ := holds
  rcases marked with rfl | mark
  · rw [whole, List.nil_append, trim_of_solid blankBefore solid blankAfter]
    exact unmarked_of_free free
  · rw [whole, trim_of_solid blankBefore (mark.solid.append solid) blankAfter]
    exact unmarked_of_isMark mark body

/-- Behind a mark all of the body counts that is no blank. -/
theorem mem_unmarked_of_isMark (mark : IsMark head) {c : Char} (member : c ∈ body)
    (unblank : isBlank c = false) : c ∈ unmarked (trim text.toList) := by
  obtain ⟨before, after, whole, blankBefore, _, _⟩ := holds
  have nonempty : head ≠ [] := by
    rcases mark with rfl | rfl <;> simp
  rw [whole, ← List.append_assoc, List.append_assoc (before ++ head),
    trim_solid_append blankBefore mark.solid nonempty, unmarked_of_isMark mark]
  exact mem_trimRight unblank (List.mem_append_left after member)

end Holds

theorem holds_unmarked (text : String) :
    ∃ head, Holds text head (unmarked (trim text.toList)) := by
  obtain ⟨before, after, whole, blankBefore, blankAfter⟩ := exists_blanks_around text.toList
  obtain ⟨head, marked, split⟩ := exists_unmarked (trim text.toList)
  rw [split] at whole
  exact ⟨head, before, after, whole, blankBefore, blankAfter, marked⟩

/-- No character of a numeral is a blank or could be taken for one of a mark. -/
theorem plain_of_spelled {body sign digits : List Char} {values : List Nat}
    (spelled : body.filter (· ≠ '_') = sign ++ digits) (signed : sign = [] ∨ sign = ['+'])
    (read : List.Forall₂ IsDigit digits values) :
    ∀ c ∈ body, isBlank c = false ∧ c ≠ 'x' ∧ c ≠ 'X' := by
  intro c member
  by_cases underscore : c = '_'
  · subst underscore
    decide
  · have kept : c ∈ sign ++ digits := by
      rw [← spelled]
      simpa [underscore] using member
    rcases List.mem_append.mp kept with inSign | inDigits
    · rcases signed with rfl | rfl
      · cases inSign
      · rw [List.mem_singleton.mp inSign]
        decide
    · obtain ⟨value, digit⟩ := exists_isDigit read inDigits
      obtain ⟨unblank, _, _, letters⟩ := digit.plain
      exact ⟨unblank, letters⟩

theorem unmarked_of_spelled {text : String} {head body sign digits : List Char}
    {values : List Nat} (holds : Holds text head body)
    (spelled : body.filter (· ≠ '_') = sign ++ digits) (signed : sign = [] ∨ sign = ['+'])
    (read : List.Forall₂ IsDigit digits values) : unmarked (trim text.toList) = body := by
  -- No letter of a mark is in the body, so that what is cut off is the head and no more.
  have plain := plain_of_spelled spelled signed read
  exact unmarked_of_holds holds (fun c member => (plain c member).1)
    ⟨fun member => (plain _ member).2.1 rfl, fun member => (plain _ member).2.2 rfl⟩

theorem isNumeral_iff {text : String} {values : List Nat} :
    IsNumeral text values ↔
      values ≠ [] ∧ (digitsOf text).mapM digitValue? = some values := by
  rw [mapM_digitValue?_eq_some_iff]
  constructor
  · rintro ⟨head, body, sign, digits, holds, spelled, signed, nonempty, read⟩
    have free : '+' ∉ digits := by
      intro member
      obtain ⟨value, digit⟩ := exists_isDigit read member
      exact digit.plain.2.2.1 rfl
    rw [digitsOf, unmarked_of_spelled holds spelled signed read, spelled,
      unsigned_append signed free]
    exact ⟨nonempty, read⟩
  · rintro ⟨nonempty, read⟩
    obtain ⟨head, holds⟩ := holds_unmarked text
    obtain ⟨sign, signed, split⟩ :=
      exists_unsigned ((unmarked (trim text.toList)).filter (· ≠ '_'))
    exact ⟨head, _, sign, _, holds, split, signed, nonempty, read⟩

/-! What a numeral is read as. -/

section Read

variable {text : String} {values : List Nat}

theorem parseHex?_of_isNumeral (numeral : IsNumeral text values) :
    parseHex? text = ofReading? (some values) := by
  rw [parseHex?_eq, (isNumeral_iff.mp numeral).2]

theorem isNumeral_of_parseHex? {word : Word} (read : parseHex? text = some word) :
    ∃ values, IsNumeral text values := by
  rw [parseHex?_eq] at read
  cases digits : (digitsOf text).mapM digitValue? with
  | none =>
      rw [digits] at read
      cases read
  | some values =>
      refine ⟨values, isNumeral_iff.mpr ⟨?_, digits⟩⟩
      rintro rfl
      rw [digits] at read
      cases read

theorem ofReading?_eq_some_iff (nonempty : values ≠ []) {word : Word} :
    ofReading? (some values) = some word ↔ Nat.ofDigits 16 values.reverse = word.toNat := by
  rw [ofReading?_some nonempty]
  split
  · next fits =>
      rw [Option.some.injEq, ← BitVec.toNat_inj, BitVec.toNat_ofNat, Nat.mod_eq_of_lt fits]
  · next large =>
      constructor
      · intro made
        cases made
      · intro same
        exact absurd (same ▸ word.isLt) large

theorem ofReading?_eq_none_iff (nonempty : values ≠ []) :
    ofReading? (some values) = none ↔ 0x10000000000000000 ≤ Nat.ofDigits 16 values.reverse := by
  simp [ofReading?_some nonempty]

theorem parseHex?_eq_some_iff {word : Word} :
    parseHex? text = some word ↔
      ∃ values, IsNumeral text values ∧ Nat.ofDigits 16 values.reverse = word.toNat := by
  constructor
  · intro read
    obtain ⟨values, numeral⟩ := isNumeral_of_parseHex? read
    rw [parseHex?_of_isNumeral numeral] at read
    exact ⟨values, numeral, (ofReading?_eq_some_iff (isNumeral_iff.mp numeral).1).mp read⟩
  · rintro ⟨values, numeral, value⟩
    rw [parseHex?_of_isNumeral numeral]
    exact (ofReading?_eq_some_iff (isNumeral_iff.mp numeral).1).mpr value

theorem parseHex?_eq_none_iff :
    parseHex? text = none ↔
      ∀ values, IsNumeral text values →
        0x10000000000000000 ≤ Nat.ofDigits 16 values.reverse := by
  constructor
  · intro refused values numeral
    rw [parseHex?_of_isNumeral numeral] at refused
    exact (ofReading?_eq_none_iff (isNumeral_iff.mp numeral).1).mp refused
  · intro large
    rw [Option.eq_none_iff_forall_ne_some]
    intro word read
    obtain ⟨values, numeral, value⟩ := parseHex?_eq_some_iff.mp read
    have fits := word.isLt
    rw [← value] at fits
    exact absurd fits (Nat.not_lt.mpr (large values numeral))

theorem parseHex?_leading_zeros {other : String} {count : Nat} (numeral : IsNumeral text values)
    (longer : IsNumeral other (List.replicate count 0 ++ values)) :
    parseHex? other = parseHex? text := by
  rw [parseHex?_of_isNumeral numeral, parseHex?_of_isNumeral longer,
    ofReading?_some (isNumeral_iff.mp numeral).1, ofReading?_some (isNumeral_iff.mp longer).1,
    List.reverse_append, List.reverse_replicate, Nat.ofDigits_append_replicate_zero]

/-! Texts that are refused. -/

theorem parseHex?_of_foreign {c : Char} (left : c ∈ digitsOf text)
    (foreign : ∀ value, ¬ IsDigit c value) : parseHex? text = none := by
  rw [parseHex?_eq_none_iff]
  intro values numeral
  have read := mapM_digitValue?_eq_some_iff.mp (isNumeral_iff.mp numeral).2
  obtain ⟨value, digit⟩ := exists_isDigit read left
  exact absurd digit (foreign value)

theorem mem_digitsOf {c : Char} (member : c ∈ unmarked (trim text.toList))
    (letter : c ≠ '_' ∧ c ≠ '+') : c ∈ digitsOf text := by
  obtain ⟨sign, signed, split⟩ :=
    exists_unsigned ((unmarked (trim text.toList)).filter (· ≠ '_'))
  have kept : c ∈ (unmarked (trim text.toList)).filter (· ≠ '_') := by
    simpa [letter.1] using member
  rw [split] at kept
  rcases List.mem_append.mp kept with inSign | inDigits
  · rcases signed with rfl | rfl
    · cases inSign
    · exact absurd (List.mem_singleton.mp inSign) letter.2
  · exact inDigits

theorem parseHex?_of_bare {head body : List Char} (holds : Holds text head body)
    (bare : body.filter (· ≠ '_') = [] ∨ body.filter (· ≠ '_') = ['+']) :
    parseHex? text = none := by
  obtain ⟨sign, signed, spelled⟩ :
      ∃ sign, (sign = [] ∨ sign = ['+']) ∧ body.filter (· ≠ '_') = sign ++ [] :=
    ⟨body.filter (· ≠ '_'), bare, (List.append_nil _).symm⟩
  rw [parseHex?_eq, digitsOf, unmarked_of_spelled holds spelled signed .nil, spelled,
    unsigned_append signed List.not_mem_nil]
  rfl

theorem parseHex?_of_doubled {head body : List Char} (holds : Holds text head body)
    (mark : IsMark head) {c : Char} (member : c ∈ body) (letter : c = 'x' ∨ c = 'X') :
    parseHex? text = none := by
  have unblank : isBlank c = false := by
    rcases letter with rfl | rfl <;> decide
  have other : c ≠ '_' ∧ c ≠ '+' := by
    rcases letter with rfl | rfl <;> decide
  have left := mem_digitsOf (mem_unmarked_of_isMark holds mark member unblank) other
  apply parseHex?_of_foreign left
  intro value digit
  obtain ⟨_, _, _, notLower, notUpper⟩ := digit.plain
  rcases letter with rfl | rfl
  · exact notLower rfl
  · exact notUpper rfl

theorem parseHex?_of_other {c : Char} (member : c ∈ trim text.toList)
    (other : c ∉ "_+xX".toList) (foreign : ∀ value, ¬ IsDigit c value) :
    parseHex? text = none := by
  obtain ⟨notUnderscore, notPlus, notLower, notUpper⟩ :
      c ≠ '_' ∧ c ≠ '+' ∧ c ≠ 'x' ∧ c ≠ 'X' := by
    simpa using other
  have nonzero : c ≠ '0' := by
    rintro rfl
    exact foreign 0 (.inl rfl)
  obtain ⟨head, marked, split⟩ := exists_unmarked (trim text.toList)
  have notInHead : c ∉ head := by
    rcases marked with rfl | rfl | rfl <;> simp [nonzero, notLower, notUpper]
  rw [split] at member
  have left := (List.mem_append.mp member).resolve_left notInHead
  exact parseHex?_of_foreign (mem_digitsOf left ⟨notUnderscore, notPlus⟩) foreign

end Read

/-! Words as they are shown. -/

/-- The digits that a word is shown with, as few as it takes or sixteen. -/
def Shows (word : Word) (digits : List Char) : Prop :=
  digits = hexadecimal word.toNat ∨ word.hex.toList = '0' :: 'x' :: digits

theorem exists_values_of_shows {word : Word} {digits : List Char} (shown : word.Shows digits) :
    ∃ values, values ≠ [] ∧ List.Forall₂ IsDigit digits values ∧
      Nat.ofDigits 16 values.reverse = word.toNat := by
  rcases shown with rfl | shown
  · refine ⟨Text.digits 16 word.toNat, digits_ne_nil 16 _, ?_, ?_⟩
    · exact mapM_digitValue?_eq_some_iff.mp
        (mapM_digitValue? (digits_lt (by decide) word.toNat))
    · rw [← ofDigits_eq, ofDigits_digits]
  · rw [toList_hex] at shown
    have sixteen : digits = (fixedDigits 16 16 word.toNat).map digitChar := by
      simpa using shown.symm
    rw [sixteen]
    refine ⟨fixedDigits 16 16 word.toNat, ?_, ?_, ?_⟩
    · exact List.ne_nil_of_length_pos (by simp [length_fixedDigits])
    · exact mapM_digitValue?_eq_some_iff.mp
        (mapM_digitValue? (fixedDigits_lt (by decide) 16 word.toNat))
    · rw [← ofDigits_eq, ofDigits_hex]

theorem parseHex?_of_shows {word : Word} {digits : List Char} (shown : word.Shows digits)
    {text : String} {head body : List Char} (holds : Holds text head body)
    (same : SameText (body.filter (· ≠ '_')) digits) : parseHex? text = some word := by
  obtain ⟨values, nonempty, read, value⟩ := exists_values_of_shows shown
  exact parseHex?_eq_some_iff.mpr ⟨values, ⟨head, body, [], _, holds, rfl, .inl rfl, nonempty,
    forall₂_isDigit_congr same read⟩, value⟩

/-- A word as it is shown behind `0x`. -/
def IsTextOf (text : String) (word : Word) : Prop :=
  ∃ digits, word.Shows digits ∧ text.toList = '0' :: 'x' :: digits

theorem parseHex?_of_isTextOf {text : String} {word : Word} (shown : IsTextOf text word) :
    parseHex? text = some word := by
  obtain ⟨digits, shown, spelled⟩ := shown
  obtain ⟨values, _, read, _⟩ := exists_values_of_shows shown
  have holds : Holds text ['0', 'x'] digits :=
    ⟨[], [], by simp [spelled], List.forall_mem_nil _, List.forall_mem_nil _, .inr (.inl rfl)⟩
  have plain : digits.filter (· ≠ '_') = digits := by
    rw [List.filter_eq_self]
    intro c member
    obtain ⟨value, digit⟩ := exists_isDigit read member
    exact decide_eq_true digit.plain.2.1
  exact parseHex?_of_shows shown holds (sameText_iff.mpr (by rw [plain]))

theorem isTextOf_hex (word : Word) : IsTextOf word.hex word :=
  ⟨_, .inr (toList_hex word), toList_hex word⟩

/-- A text is read as a word exactly if it is a numeral of that value, and a numeral is refused just
where its value takes more than 64 bits; leading zeros make no difference. Blanks and marks alone,
a sign alone, a second mark and any other character are refused. The digits a word is shown with,
few or sixteen, in either case, are read back with underscores among them and blanks around. -/
theorem parseHex?_reads_numerals :
    (∀ (text : String) (word : Word), parseHex? text = some word ↔
      ∃ values, IsNumeral text values ∧ Nat.ofDigits 16 values.reverse = word.toNat) ∧
    (∀ (text : String) (values : List Nat), IsNumeral text values →
      (parseHex? text = none ↔ 0x10000000000000000 ≤ Nat.ofDigits 16 values.reverse) ∧
      ∀ (other : String) (count : Nat), IsNumeral other (List.replicate count 0 ++ values) →
        parseHex? other = parseHex? text) ∧
    (∀ (text : String) (head body : List Char), Holds text head body →
      (body.filter (· ≠ '_') = [] ∨ body.filter (· ≠ '_') = ['+'] → parseHex? text = none) ∧
      (IsMark head → ∀ c ∈ body, c = 'x' ∨ c = 'X' → parseHex? text = none)) ∧
    (∀ (text : String), ∀ c ∈ trim text.toList, c ∉ "_+xX".toList →
      (∀ value, ¬ IsDigit c value) → parseHex? text = none) ∧
    (∀ (word : Word) (digits : List Char), word.Shows digits →
      ∀ (text : String) (head body : List Char), Holds text head body →
        SameText (body.filter (· ≠ '_')) digits → parseHex? text = some word) := by
  refine ⟨fun _ _ => parseHex?_eq_some_iff, ?_, ?_, ?_, ?_⟩
  · intro text values numeral
    refine ⟨?_, fun other count longer => parseHex?_leading_zeros numeral longer⟩
    rw [parseHex?_of_isNumeral numeral]
    exact ofReading?_eq_none_iff (isNumeral_iff.mp numeral).1
  · intro text head body holds
    exact ⟨parseHex?_of_bare holds,
      fun mark c member letter => parseHex?_of_doubled holds mark member letter⟩
  · intro text c member other foreign
    exact parseHex?_of_other member other foreign
  · intro word digits shown text head body holds same
    exact parseHex?_of_shows shown holds same

/-- A numeral with all there may be in one, the same without its leading zeros, and one of sixteen
zeros behind a one, which is too large. A sign alone, a second mark, a minus sign and a blank inside
are refused. A word in mixed case with underscores is read. -/
theorem parseHex?_reads_numerals_edges :
    IsNumeral "\u2003 0X_+00_fF\n" [0, 0, 15, 15] ∧
      parseHex? "\u2003 0X_+00_fF\n" = some 0xff ∧
      parseHex? "\u2003 0X_+00_fF\n" = parseHex? "fF" ∧
      parseHex? "0x1_0000000000000000" = none ∧ parseHex? "" = none ∧ parseHex? " 0x_+" = none ∧
      parseHex? "0x0X1" = none ∧ parseHex? "-1" = none ∧ parseHex? "1 2" = none ∧
      (0xbeef : Word).Shows "beef".toList ∧ parseHex? "\t0x_Be__eF " = some 0xbeef := by
  obtain ⟨reads, sized, refused, foreign, shown⟩ := parseHex?_reads_numerals
  have full : IsNumeral "\u2003 0X_+00_fF\n" (List.replicate 2 0 ++ [15, 15]) :=
    isNumeral_iff.mpr ⟨by decide, by decide⟩
  have short : IsNumeral "fF" [15, 15] := isNumeral_iff.mpr ⟨by decide, by decide⟩
  have large : IsNumeral "0x1_0000000000000000" (1 :: List.replicate 16 0) :=
    isNumeral_iff.mpr ⟨by decide, by decide⟩
  have empty : Holds "" [] [] := ⟨[], [], by decide, by decide, by decide, .inl rfl⟩
  have signed : Holds " 0x_+" ['0', 'x'] ['_', '+'] :=
    ⟨[' '], [], by decide, by decide, by decide, .inr (.inl rfl)⟩
  have doubled : Holds "0x0X1" ['0', 'x'] "0X1".toList :=
    ⟨[], [], by decide, by decide, by decide, .inr (.inl rfl)⟩
  have loud : Holds "\t0x_Be__eF " ['0', 'x'] "_Be__eF".toList :=
    ⟨['\t'], [' '], by decide, by decide, by decide, .inr (.inl rfl)⟩
  have beef : (0xbeef : Word).Shows "beef".toList := by
    have digits : Text.digits 16 (0xbeef : Word).toNat = [11, 14, 14, 15] := by
      simp [Text.digits]
    exact .inl (by rw [hexadecimal, digits]; decide)
  have strange {c : Char} (unread : digitValue? c = none) (value : Nat) : ¬ IsDigit c value := by
    simp [← digitValue?_eq_some_iff, unread]
  exact ⟨full, (reads _ _).mpr ⟨_, full, by decide⟩, (sized _ _ short).2 _ 2 full,
    (sized _ _ large).1.mpr (by decide), (refused _ _ _ empty).1 (.inl rfl),
    (refused _ _ _ signed).1 (.inr (by decide)),
    (refused _ _ _ doubled).2 (.inl rfl) 'X' (by decide) (.inr rfl),
    foreign "-1" '-' (by decide) (by decide) (strange (by decide)),
    foreign "1 2" ' ' (by decide) (by decide) (strange (by decide)),
    beef, shown _ _ beef _ _ _ loud (sameText_iff.mpr (by decide))⟩

end Word

end Confinement
