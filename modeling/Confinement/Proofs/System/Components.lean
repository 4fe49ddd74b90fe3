import Mathlib.Data.List.TakeWhile
import Confinement.Proofs.Text.Decimal
import Confinement.System.Release

/-!
What is read of a release text. A part between dots counts with all of the digits it begins with, at
their exact value, and counts for nothing where that is too large. Major and minor must be there, a
patch need not. So a release is read back from its text with any suffix. Main statement:
`parse_reads_components`.
-/

namespace Confinement.Release

open Text

/-! Leading numbers. -/

def OpensWithoutDigit (text : List Char) : Prop :=
  ∀ c ∈ text.head?, ∀ value, ¬ IsDecimal c value

/-- The digits that a text begins with, all of them, have this value, and 32 bits hold it. -/
def Leads (text : List Char) (number : Nat) : Prop :=
  ∃ digits values rest,
    text = digits ++ rest ∧ List.Forall₂ IsDecimal digits values ∧ values ≠ [] ∧
      OpensWithoutDigit rest ∧ Nat.ofDigits 10 values.reverse = number ∧ number < 0x100000000

section Lead

variable {text digits rest : List Char} {number : Nat}

theorem opensWithoutDigit_nil : OpensWithoutDigit [] := by
  intro c first
  cases first

theorem opensWithoutDigit_cons_iff {c : Char} :
    OpensWithoutDigit (c :: rest) ↔ c.isDigit = false := by
  rw [isDigit_eq_false_iff]
  constructor
  · intro opens
    exact opens c rfl
  · intro other first same
    cases same
    exact other

theorem takeWhile_isDigit_of_opensWithoutDigit (opens : OpensWithoutDigit rest) :
    rest.takeWhile Char.isDigit = [] := by
  cases rest with
  | nil => rfl
  | cons c rest =>
      have other := opensWithoutDigit_cons_iff.mp opens
      rw [List.takeWhile_cons_of_neg (by simp [other])]

theorem opensWithoutDigit_dropWhile (text : List Char) :
    OpensWithoutDigit (text.dropWhile Char.isDigit) := by
  induction text with
  | nil => exact opensWithoutDigit_nil
  | cons c text ih =>
      by_cases digit : c.isDigit = true
      · rwa [List.dropWhile_cons_of_pos digit]
      · rw [List.dropWhile_cons_of_neg digit]
        exact opensWithoutDigit_cons_iff.mpr (Bool.eq_false_iff.mpr digit)

theorem leadingNumber_of_digits (taken : text.takeWhile Char.isDigit = digits)
    (nonempty : digits ≠ []) :
    leadingNumber text =
      if ofDigits 10 (digits.map fun c => c.toNat - '0'.toNat) < 0x100000000 then
        some (ofDigits 10 (digits.map fun c => c.toNat - '0'.toNat))
      else none := by
  rw [leadingNumber, taken]
  cases digits with
  | nil => contradiction
  | cons c digits => rfl

theorem leadingNumber_of_leads (leads : Leads text number) : leadingNumber text = some number := by
  obtain ⟨digits, values, rest, rfl, read, nonempty, opens, value, fits⟩ := leads
  obtain ⟨all, same⟩ := forall₂_isDecimal_iff.mp read
  have taken : (digits ++ rest).takeWhile Char.isDigit = digits := by
    rw [List.takeWhile_append_of_pos all, takeWhile_isDigit_of_opensWithoutDigit opens,
      List.append_nil]
  have some : digits ≠ [] := by
    rintro rfl
    exact nonempty same.symm
  rw [leadingNumber_of_digits taken some, same, ofDigits_eq, value, if_pos fits]

theorem leads_of_leadingNumber (read : leadingNumber text = some number) : Leads text number := by
  have nonempty : text.takeWhile Char.isDigit ≠ [] := by
    intro none
    rw [leadingNumber, none] at read
    contradiction
  rw [leadingNumber_of_digits rfl nonempty] at read
  split at read
  · next fits =>
      cases read
      refine ⟨text.takeWhile Char.isDigit, _, text.dropWhile Char.isDigit,
        List.takeWhile_append_dropWhile.symm,
        forall₂_isDecimal_iff.mpr ⟨fun c member => List.mem_takeWhile_imp member, rfl⟩,
        by simpa using nonempty, opensWithoutDigit_dropWhile text, (ofDigits_eq _ _).symm, fits⟩
  · contradiction

theorem leadingNumber_eq_some_iff : leadingNumber text = some number ↔ Leads text number :=
  ⟨leads_of_leadingNumber, leadingNumber_of_leads⟩

theorem Leads.unique {other : Nat} (first : Leads text number) (second : Leads text other) :
    number = other :=
  Option.some.inj ((leadingNumber_of_leads first).symm.trans (leadingNumber_of_leads second))

theorem Leads.lt (leads : Leads text number) : number < 0x100000000 := by
  obtain ⟨_, _, _, _, _, _, _, _, fits⟩ := leads
  exact fits

theorem leads_decimal (fits : number < 0x100000000) (opens : OpensWithoutDigit rest) :
    Leads (decimal number ++ rest) number :=
  ⟨decimal number, Text.digits 10 number, rest, rfl, forall₂_isDecimal_decimal number,
    digits_ne_nil 10 number, opens, by rw [← ofDigits_eq, ofDigits_digits], fits⟩

end Lead

/-! Parts between dots. -/

section Parts

variable {part rest : List Char}

theorem components_eq_splitOn (text : List Char) : components text = text.splitOn '.' := by
  rw [List.splitOn_eq_splitOnP]
  induction text with
  | nil => rfl
  | cons c text ih =>
      rw [List.splitOnP_cons_eq_if_modifyHead, components, ih]
      by_cases dot : c = '.'
      · rw [if_pos dot, if_pos (beq_iff_eq.mpr dot)]
      · rw [if_neg dot, if_neg (by simpa using dot)]
        cases parts : text.splitOnP (· == '.') with
        | nil => exact absurd parts (List.splitOnP_ne_nil _ _)
        | cons first others => rfl

theorem components_append_dot (free : '.' ∉ part) :
    components (part ++ '.' :: rest) = part :: components rest := by
  rw [components_eq_splitOn, components_eq_splitOn, List.splitOn_eq_splitOnP,
    List.splitOn_eq_splitOnP]
  apply List.splitOnP_append_cons_of_forall_mem (p := (· == '.')) _ '.' (beq_self_eq_true '.')
  intro c member
  exact beq_eq_false_iff_ne.mpr fun same => free (same ▸ member)

theorem components_of_free (free : '.' ∉ part) : components part = [part] := by
  rw [components_eq_splitOn, List.splitOn_eq_splitOnP]
  apply List.splitOnP_eq_singleton
  intro c member
  exact beq_eq_false_iff_ne.mpr fun same => free (same ▸ member)

theorem head?_components (text : List Char) :
    (components text)[0]? = some (text.takeWhile (· != '.')) := by
  induction text with
  | nil => rfl
  | cons c text ih =>
      rw [components]
      by_cases dot : c = '.'
      · rw [if_pos dot, List.takeWhile_cons_of_neg (by simp [dot])]
        rfl
      · rw [if_neg dot, List.takeWhile_cons_of_pos (by simp [dot])]
        cases parts : components text with
        | nil =>
            rw [parts] at ih
            contradiction
        | cons first others =>
            rw [parts] at ih
            cases ih
            rfl

end Parts

/-- The part at this place between dots begins with a number. -/
def LeadsAt (text : String) (place number : Nat) : Prop :=
  ∃ part, (text.toList.splitOn '.')[place]? = some part ∧ Leads part number

/-- What is read of the part at a place. -/
def numberAt? (text : String) (place : Nat) : Option Nat :=
  (components text.toList)[place]?.bind leadingNumber

section Parse

variable {text : String} {place number : Nat}

theorem numberAt?_eq_some_iff : numberAt? text place = some number ↔ LeadsAt text place number := by
  rw [numberAt?, Option.bind_eq_some_iff, components_eq_splitOn]
  simp only [leadingNumber_eq_some_iff, LeadsAt]

theorem numberAt?_eq_none_iff :
    numberAt? text place = none ↔ ∀ number, ¬ LeadsAt text place number := by
  simp only [Option.eq_none_iff_forall_ne_some, ne_eq, numberAt?_eq_some_iff]

theorem parse_of_parts {first second : List Char} {others : List (List Char)} {major minor : Nat}
    (parts : components text.toList = first :: second :: others)
    (leads : leadingNumber first = some major) (follows : leadingNumber second = some minor) :
    parse text = .ok ⟨major, minor, (others[0]?.bind leadingNumber).getD 0⟩ := by
  rw [parse, parts]
  simp only [leads, follows, List.head?_eq_getElem?]

theorem parse_of_numbers {major minor : Nat} (first : numberAt? text 0 = some major)
    (second : numberAt? text 1 = some minor) :
    parse text = .ok ⟨major, minor, (numberAt? text 2).getD 0⟩ := by
  unfold numberAt? at *
  rcases parts : components text.toList with _ | ⟨part, _ | ⟨next, rest⟩⟩
  · simp [parts] at first
  · simp [parts] at second
  · have reads : leadingNumber part = some major ∧ leadingNumber next = some minor := by
      simpa [parts] using And.intro first second
    exact parse_of_parts parts reads.1 reads.2

theorem parse_of_missing (missing : numberAt? text 0 = none ∨ numberAt? text 1 = none) :
    parse text = .error ⟨text⟩ := by
  unfold numberAt? at missing
  unfold parse
  rcases parts : components text.toList with _ | ⟨part, _ | ⟨next, rest⟩⟩
  · rfl
  · rfl
  · have unread : leadingNumber part = none ∨ leadingNumber next = none := by
      simpa [parts] using missing
    rcases unread with none | none
    · simp only [none]
    · cases first : leadingNumber part <;> simp only [first, none]

theorem parse_cases (text : String) :
    (numberAt? text 0 = none ∨ numberAt? text 1 = none) ∧ parse text = .error ⟨text⟩ ∨
      ∃ major minor, numberAt? text 0 = some major ∧ numberAt? text 1 = some minor ∧
        parse text = .ok ⟨major, minor, (numberAt? text 2).getD 0⟩ := by
  cases first : numberAt? text 0 with
  | none => exact .inl ⟨.inl rfl, parse_of_missing (.inl first)⟩
  | some major =>
      cases second : numberAt? text 1 with
      | none => exact .inl ⟨.inr rfl, parse_of_missing (.inr second)⟩
      | some minor => exact .inr ⟨major, minor, rfl, rfl, parse_of_numbers first second⟩

theorem getD_numberAt?_eq_iff {patch : Nat} :
    (numberAt? text place).getD 0 = patch ↔
      LeadsAt text place patch ∨ patch = 0 ∧ ∀ number, ¬ LeadsAt text place number := by
  rw [← numberAt?_eq_none_iff, ← numberAt?_eq_some_iff]
  cases numberAt? text place <;> simp [eq_comm]

theorem parse_eq_ok_iff {release : Release} :
    parse text = .ok release ↔
      LeadsAt text 0 release.major ∧ LeadsAt text 1 release.minor ∧
        (LeadsAt text 2 release.patch ∨
          release.patch = 0 ∧ ∀ number, ¬ LeadsAt text 2 number) := by
  rw [← getD_numberAt?_eq_iff, ← numberAt?_eq_some_iff, ← numberAt?_eq_some_iff]
  obtain ⟨major, minor, patch⟩ := release
  rcases parse_cases text with ⟨missing, refused⟩ | ⟨_, _, first, second, read⟩
  · rcases missing with none | none <;> simp [refused, none]
  · simp [read, first, second]

theorem parse_eq_error_iff {error : ReleaseUnreadable} :
    parse text = .error error ↔
      error = ⟨text⟩ ∧
        ((∀ number, ¬ LeadsAt text 0 number) ∨ ∀ number, ¬ LeadsAt text 1 number) := by
  rw [← numberAt?_eq_none_iff, ← numberAt?_eq_none_iff]
  rcases parse_cases text with ⟨missing, refused⟩ | ⟨_, _, first, second, read⟩
  · rw [refused, Except.error.injEq, and_iff_left missing, eq_comm]
  · simp [read, first, second]

theorem lt_of_parse {release : Release} (read : parse text = .ok release) :
    release.major < 0x100000000 ∧ release.minor < 0x100000000 ∧ release.patch < 0x100000000 := by
  obtain ⟨⟨_, _, major⟩, ⟨_, _, minor⟩, patch⟩ := parse_eq_ok_iff.mp read
  refine ⟨major.lt, minor.lt, ?_⟩
  rcases patch with ⟨_, _, patch⟩ | ⟨none, _⟩
  · exact patch.lt
  · rw [none]
    decide

end Parse

/-! Releases with a suffix. -/

section Suffix

variable {number : Nat} {rest : List Char}

theorem dot_notMem_decimal (number : Nat) : '.' ∉ decimal number := by
  intro member
  have digit := (forall₂_isDecimal_iff.mp (forall₂_isDecimal_decimal number)).1 _ member
  contradiction

theorem leadingNumber_decimal_append (fits : number < 0x100000000)
    (opens : OpensWithoutDigit rest) : leadingNumber (decimal number ++ rest) = some number :=
  leadingNumber_of_leads (leads_decimal fits opens)

theorem leadingNumber_decimal (fits : number < 0x100000000) :
    leadingNumber (decimal number) = some number := by
  have read := leadingNumber_decimal_append fits opensWithoutDigit_nil
  rwa [List.append_nil] at read

/-- The part that a number begins goes on to the next dot, if there is one. -/
theorem leadingNumber_first_part (fits : number < 0x100000000) (opens : OpensWithoutDigit rest) :
    (components (decimal number ++ rest))[0]?.bind leadingNumber = some number := by
  have undotted : ∀ c ∈ decimal number, (c != '.') = true := by
    intro c member
    exact bne_iff_ne.mpr fun same => dot_notMem_decimal number (same ▸ member)
  rw [head?_components, List.takeWhile_append_of_pos undotted, Option.bind_some]
  apply leadingNumber_decimal_append fits
  -- Behind the number the part is at its end, or goes on as the rest does.
  cases rest with
  | nil => exact opensWithoutDigit_nil
  | cons c rest =>
      by_cases dot : c = '.'
      · rw [List.takeWhile_cons_of_neg (by simp [dot])]
        exact opensWithoutDigit_nil
      · rw [List.takeWhile_cons_of_pos (by simp [dot])]
        exact opens

variable {major minor patch : Nat}

theorem parse_of_three (majorFits : major < 0x100000000) (minorFits : minor < 0x100000000)
    (patchFits : patch < 0x100000000) {suffix : String}
    (opens : OpensWithoutDigit suffix.toList) :
    parse (toString major ++ "." ++ toString minor ++ "." ++ toString patch ++ suffix) =
      .ok ⟨major, minor, patch⟩ := by
  have parts : components
      (toString major ++ "." ++ toString minor ++ "." ++ toString patch ++ suffix).toList =
      decimal major :: decimal minor :: components (decimal patch ++ suffix.toList) := by
    simp only [String.toList_append, toList_toString, List.append_assoc]
    exact (components_append_dot (dot_notMem_decimal major)).trans
      (congrArg _ (components_append_dot (dot_notMem_decimal minor)))
  rw [parse_of_parts parts (leadingNumber_decimal majorFits) (leadingNumber_decimal minorFits),
    leadingNumber_first_part patchFits opens, Option.getD_some]

theorem parse_of_two (majorFits : major < 0x100000000) (minorFits : minor < 0x100000000)
    {suffix : String} (opens : OpensWithoutDigit suffix.toList) (undotted : '.' ∉ suffix.toList) :
    parse (toString major ++ "." ++ toString minor ++ suffix) = .ok ⟨major, minor, 0⟩ := by
  have free : '.' ∉ decimal minor ++ suffix.toList := by
    rw [List.mem_append, not_or]
    exact ⟨dot_notMem_decimal minor, undotted⟩
  have parts : components (toString major ++ "." ++ toString minor ++ suffix).toList =
      [decimal major, decimal minor ++ suffix.toList] := by
    simp only [String.toList_append, toList_toString, List.append_assoc]
    exact (components_append_dot (dot_notMem_decimal major)).trans
      (congrArg _ (components_of_free free))
  exact parse_of_parts parts (leadingNumber_decimal majorFits)
    (leadingNumber_decimal_append minorFits opens)

end Suffix

/-- A release is read exactly if the first two parts of a text between dots begin with numbers that
32 bits hold, at their values, and then the third part gives the patch if it begins with such a
number, or else zero. Any other text is refused as a whole. So three numbers are read back with
whatever comes behind them, and two with whatever has no dot in it, unless it is a digit. -/
theorem parse_reads_components :
    (∀ text release, parse text = .ok release ↔
      LeadsAt text 0 release.major ∧ LeadsAt text 1 release.minor ∧
        (LeadsAt text 2 release.patch ∨
          release.patch = 0 ∧ ∀ number, ¬ LeadsAt text 2 number)) ∧
    (∀ text error, parse text = .error error ↔
      error = ⟨text⟩ ∧
        ((∀ number, ¬ LeadsAt text 0 number) ∨ ∀ number, ¬ LeadsAt text 1 number)) ∧
    (∀ part number other, Leads part number → Leads part other → number = other) ∧
    (∀ text release, parse text = .ok release →
      release.major < 0x100000000 ∧ release.minor < 0x100000000 ∧
        release.patch < 0x100000000) ∧
    ∀ (major minor patch : UInt32) (suffix : String), OpensWithoutDigit suffix.toList →
      parse (toString major.toNat ++ "." ++ toString minor.toNat ++ "." ++ toString patch.toNat ++
        suffix) = .ok ⟨major.toNat, minor.toNat, patch.toNat⟩ ∧
      ('.' ∉ suffix.toList →
        parse (toString major.toNat ++ "." ++ toString minor.toNat ++ suffix) =
          .ok ⟨major.toNat, minor.toNat, 0⟩) := by
  refine ⟨fun text release => parse_eq_ok_iff, fun text error => parse_eq_error_iff,
    fun part number other => Leads.unique, fun text release => lt_of_parse, ?_⟩
  intro major minor patch suffix opens
  exact ⟨parse_of_three major.toNat_lt minor.toNat_lt patch.toNat_lt opens,
    parse_of_two major.toNat_lt minor.toNat_lt opens⟩

/-- Leading zeros and a patch that is too large, a major that is too large, a suffix that opens with
a digit of another script and has a dot in it, and a release without a patch. -/
theorem parse_reads_components_edges :
    parse "007.1.4294967296" = .ok ⟨7, 1, 0⟩ ∧
      parse "4294967296.1" = .error ⟨"4294967296.1"⟩ ∧
      OpensWithoutDigit "\u0663.5".toList ∧
      parse (toString 4294967295 ++ "." ++ toString 18 ++ "." ++ toString 44 ++ "\u0663.5") =
        .ok ⟨4294967295, 18, 44⟩ ∧
      OpensWithoutDigit "-generic".toList ∧ '.' ∉ "-generic".toList ∧
      parse (toString 6 ++ "." ++ toString 1 ++ "-generic") = .ok ⟨6, 1, 0⟩ := by
  obtain ⟨read, refused, _, _, written⟩ := parse_reads_components
  have led (text : String) (place number : Nat) (found : numberAt? text place = some number) :
      LeadsAt text place number := numberAt?_eq_some_iff.mp found
  have large : ∀ number, ¬ LeadsAt "007.1.4294967296" 2 number :=
    numberAt?_eq_none_iff.mp (by decide)
  have missing : ∀ number, ¬ LeadsAt "4294967296.1" 0 number :=
    numberAt?_eq_none_iff.mp (by decide)
  have foreign : OpensWithoutDigit "\u0663.5".toList :=
    opensWithoutDigit_cons_iff.mpr (by decide)
  have hyphen : OpensWithoutDigit "-generic".toList := opensWithoutDigit_cons_iff.mpr (by decide)
  have undotted : '.' ∉ "-generic".toList := by decide
  exact ⟨(read _ _).mpr ⟨led _ 0 7 (by decide), led _ 1 1 (by decide), .inr ⟨rfl, large⟩⟩,
    (refused _ _).mpr ⟨rfl, .inl missing⟩, foreign,
    (written 4294967295 18 44 _ foreign).1, hyphen, undotted,
    (written 6 1 0 _ hyphen).2 undotted⟩

end Confinement.Release
