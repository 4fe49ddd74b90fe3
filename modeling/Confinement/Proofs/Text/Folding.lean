import Mathlib.Data.List.Forall2
import Mathlib.Data.List.TakeWhile
import Confinement.Proofs.Rights.Hexadecimal

/-!
Texts up to the blanks around them and up to the case of their letters. Trimming takes the blanks at
both ends and nothing else, and lowering identifies exactly the texts that differ in the case of
ASCII letters alone.
-/

namespace Confinement.Text

/-! Blanks. -/

def AllBlank (text : List Char) : Prop :=
  ∀ c ∈ text, isBlank c = true

def Solid (text : List Char) : Prop :=
  ∀ c ∈ text, isBlank c = false

def Ascii (text : List Char) : Prop :=
  ∀ c ∈ text, c.toNat < 128

-- These test the members. An instance that is found may run through all characters there are.
instance (text : List Char) : Decidable (AllBlank text) :=
  List.decidableBAll (fun c => isBlank c = true) text

instance (text : List Char) : Decidable (Solid text) :=
  List.decidableBAll (fun c => isBlank c = false) text

instance (text : List Char) : Decidable (Ascii text) :=
  List.decidableBAll (fun c : Char => c.toNat < 128) text

theorem Solid.append {text other : List Char} (first : Solid text) (second : Solid other) :
    Solid (text ++ other) :=
  List.forall_mem_append.mpr ⟨first, second⟩

section Trim

variable {before solid after rest : List Char}

theorem dropWhile_of_solid (unblank : Solid solid) (nonempty : solid ≠ []) :
    (solid ++ rest).dropWhile isBlank = solid ++ rest := by
  cases solid with
  | nil => exact absurd rfl nonempty
  | cons c solid =>
      have first := unblank c List.mem_cons_self
      rw [List.cons_append, List.dropWhile_cons_of_neg (by simp [first])]

/-- What stands before the last character that is no blank is kept. -/
theorem trimRight_append (unblank : Solid solid) :
    trimRight (solid ++ rest) = solid ++ trimRight rest := by
  have reversed : solid.reverse.dropWhile isBlank = solid.reverse := by
    by_cases empty : solid = []
    · rw [empty]
      rfl
    · have backwards : Solid solid.reverse := by simpa [Solid] using unblank
      have kept : (solid.reverse ++ []).dropWhile isBlank = solid.reverse ++ [] :=
        dropWhile_of_solid backwards (by simpa using empty)
      rwa [List.append_nil] at kept
  rw [trimRight, List.reverse_append, List.dropWhile_append, reversed, trimRight]
  split
  · rename_i gone
    rw [List.isEmpty_iff.mp gone, List.reverse_reverse, List.reverse_nil, List.append_nil]
  · rw [List.reverse_append, List.reverse_reverse]

theorem trimRight_of_allBlank (blank : AllBlank after) : trimRight after = [] := by
  rw [trimRight, List.dropWhile_eq_nil_iff.mpr (by simpa [AllBlank] using blank)]
  rfl

theorem trim_solid_append (blank : AllBlank before) (unblank : Solid solid)
    (nonempty : solid ≠ []) : trim (before ++ solid ++ rest) = solid ++ trimRight rest := by
  rw [trim, trimLeft, List.append_assoc, List.dropWhile_append_of_pos blank,
    dropWhile_of_solid unblank nonempty, trimRight_append unblank]

theorem trim_append (blankBefore : AllBlank before) (unblank : Solid solid)
    (nonempty : solid ≠ []) (blankAfter : AllBlank after) :
    trim (before ++ solid ++ after) = solid := by
  rw [trim_solid_append blankBefore unblank nonempty, trimRight_of_allBlank blankAfter,
    List.append_nil]

theorem exists_blanks_after (text : List Char) :
    ∃ after, text = trimRight text ++ after ∧ AllBlank after := by
  refine ⟨(text.reverse.takeWhile isBlank).reverse, ?_, ?_⟩
  · rw [trimRight, ← List.reverse_append, List.takeWhile_append_dropWhile, List.reverse_reverse]
  · intro c member
    exact List.mem_takeWhile_imp (List.mem_reverse.mp member)

theorem exists_blanks_around (text : List Char) :
    ∃ before after, text = before ++ trim text ++ after ∧ AllBlank before ∧ AllBlank after := by
  obtain ⟨after, right, blank⟩ := exists_blanks_after (trimLeft text)
  refine ⟨text.takeWhile isBlank, after, ?_, fun c member => List.mem_takeWhile_imp member, blank⟩
  rw [trim, List.append_assoc, ← right]
  exact List.takeWhile_append_dropWhile.symm

end Trim

/-! Letters. -/

/-- The ASCII letters, upper case with lower case. -/
def letters : List (Char × Char) :=
  "ABCDEFGHIJKLMNOPQRSTUVWXYZ".toList.zip "abcdefghijklmnopqrstuvwxyz".toList

/-- The same character, or one ASCII letter in its two cases. -/
def SameLetter (c d : Char) : Prop :=
  c = d ∨ (c, d) ∈ letters ∨ (d, c) ∈ letters

instance (c d : Char) : Decidable (SameLetter c d) :=
  inferInstanceAs (Decidable (_ ∨ _))

/-- Texts that differ in the case of ASCII letters at most. -/
def SameText (text other : List Char) : Prop :=
  List.Forall₂ SameLetter text other

theorem toLower_letter : ∀ letter ∈ letters,
    letter.1.toLower = letter.2 ∧ letter.2.toLower = letter.2 := by
  decide

theorem upper_unique : ∀ letter ∈ letters, ∀ other ∈ letters,
    letter.2 = other.2 → letter.1 = other.1 := by
  decide

theorem solid_letter : ∀ letter ∈ letters,
    isBlank letter.1 = false ∧ isBlank letter.2 = false := by
  decide

theorem ascii_letter : ∀ letter ∈ letters, letter.1.toNat < 128 ∧ letter.2.toNat < 128 := by
  decide

/-- Lowering changes upper case letters and leaves all other characters. -/
theorem toLower_cases (c : Char) : c.toLower = c ∨ (c, c.toLower) ∈ letters := by
  by_cases upper : 65 ≤ c.toNat ∧ c.toNat < 91
  · right
    have table : ∀ code < 91, 65 ≤ code →
        (Char.ofNat code, (Char.ofNat code).toLower) ∈ letters := by
      decide
    have member := table c.toNat upper.2 upper.1
    rwa [Char.ofNat_toNat] at member
  · left
    unfold Char.toLower
    rw [dif_neg]
    rintro ⟨low, high⟩
    have low : 65 ≤ c.val.toNat := low
    have high : c.val.toNat ≤ 90 := high
    exact upper ⟨low, Nat.lt_succ_of_le high⟩

theorem sameLetter_iff {c d : Char} : SameLetter c d ↔ c.toLower = d.toLower := by
  constructor
  · rintro (rfl | member | member)
    · rfl
    · obtain ⟨upper, lower⟩ := toLower_letter _ member
      exact upper.trans lower.symm
    · obtain ⟨upper, lower⟩ := toLower_letter _ member
      exact lower.trans upper.symm
  · intro same
    rcases toLower_cases c with first | first <;> rcases toLower_cases d with second | second
    · exact .inl (first.symm.trans (same.trans second))
    · rw [← same, first] at second
      exact .inr (.inr second)
    · rw [same, second] at first
      exact .inr (.inl first)
    · exact .inl (upper_unique _ first _ second same)

theorem sameText_iff {text other : List Char} :
    SameText text other ↔ text.map Char.toLower = other.map Char.toLower := by
  have lowered : SameLetter = fun c d => c.toLower = d.toLower := by
    funext c d
    exact propext sameLetter_iff
  rw [SameText, lowered, ← List.forall₂_eq_eq_eq, List.forall₂_map_left_iff,
    List.forall₂_map_right_iff]

theorem isBlank_toLower (c : Char) : isBlank c.toLower = isBlank c := by
  rcases toLower_cases c with same | letter
  · rw [same]
  · obtain ⟨upper, lower⟩ := solid_letter _ letter
    exact lower.trans upper.symm

theorem solid_of_map_toLower {text : List Char} (unblank : Solid (text.map Char.toLower)) :
    Solid text := by
  intro c member
  rw [← isBlank_toLower]
  exact unblank _ (List.mem_map_of_mem member)

theorem ascii_of_toLower {c : Char} (ascii : c.toLower.toNat < 128) : c.toNat < 128 := by
  rcases toLower_cases c with same | letter
  · rwa [same] at ascii
  · exact (ascii_letter _ letter).1

end Confinement.Text
