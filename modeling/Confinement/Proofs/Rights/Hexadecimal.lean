import Confinement.Rights.Coding

/-!
Words as hexadecimal text. Reading a `0x` text gives the value of its digits while that fits a word,
so a word is read back from the sixteen digits it is shown with.
-/

namespace Confinement

namespace Text

theorem trim_eq_self {text : List Char} (solid : ∀ c ∈ text, isBlank c = false) :
    trim text = text := by
  have kept : ∀ part : List Char, (∀ c ∈ part, isBlank c = false) →
      part.dropWhile isBlank = part := by
    intro part free
    cases part with
    | nil => rfl
    | cons c rest => rw [List.dropWhile_cons_of_neg (by simp [free c List.mem_cons_self])]
  rw [trim, trimRight, trimLeft, kept text solid, kept text.reverse (by simpa using solid),
    List.reverse_reverse]

theorem isBlank_digitChar : ∀ value < 16, isBlank (digitChar value) = false := by
  decide

theorem digitChar_ne_underscore : ∀ value < 16, digitChar value ≠ '_' := by
  decide

theorem digitChar_ne_plus : ∀ value < 16, digitChar value ≠ '+' := by
  decide

theorem mem_lowerDigits : ∀ value < 16, digitChar value ∈ "0123456789abcdef".toList := by
  decide

theorem mapM_digitValue? {values : List Nat} (small : ∀ value ∈ values, value < 16) :
    (values.map digitChar).mapM digitValue? = some values := by
  induction values with
  | nil => rfl
  | cons value values ih =>
      have first := digitValue?_digitChar (small value List.mem_cons_self)
      have rest := ih fun other member => small other (List.mem_cons_of_mem value member)
      simp [List.mapM_cons, first, rest]

theorem fixedDigits_lt {radix : Nat} (positive : 0 < radix) (width number : Nat) :
    ∀ digit ∈ fixedDigits radix width number, digit < radix := by
  induction width generalizing number with
  | zero =>
      intro digit member
      cases member
  | succ width ih =>
      intro digit member
      rw [fixedDigits, List.mem_append, List.mem_singleton] at member
      rcases member with earlier | rfl
      · exact ih _ digit earlier
      · exact Nat.mod_lt _ positive

end Text

namespace Word

open Text

theorem parseHex?_digits {values : List Nat} (nonempty : values ≠ [])
    (small : ∀ value ∈ values, value < 16) (fits : ofDigits 16 values < 0x10000000000000000) :
    parseHex? (String.ofList ('0' :: 'x' :: values.map digitChar)) =
      some (BitVec.ofNat 64 (ofDigits 16 values)) := by
  have digitsOnly : ∀ c ∈ values.map digitChar, ∃ value < 16, c = digitChar value := by
    intro c member
    obtain ⟨value, among, rfl⟩ := List.mem_map.mp member
    exact ⟨value, small value among, rfl⟩
  have solid : ∀ c ∈ '0' :: 'x' :: values.map digitChar, isBlank c = false := by
    intro c member
    rcases List.mem_cons.mp member with rfl | member
    · decide
    rcases List.mem_cons.mp member with rfl | member
    · decide
    obtain ⟨value, bound, rfl⟩ := digitsOnly c member
    exact isBlank_digitChar value bound
  have spelled : (values.map digitChar).filter (· ≠ '_') = values.map digitChar := by
    rw [List.filter_eq_self]
    intro c member
    obtain ⟨value, bound, rfl⟩ := digitsOnly c member
    exact decide_eq_true (digitChar_ne_underscore value bound)
  have unsigned : ∀ rest, values.map digitChar ≠ '+' :: rest := by
    intro rest signed
    have member : '+' ∈ values.map digitChar := by
      rw [signed]
      exact List.mem_cons_self
    obtain ⟨value, bound, same⟩ := digitsOnly '+' member
    exact digitChar_ne_plus value bound same.symm
  rw [parseHex?, String.toList_ofList, trim_eq_self solid]
  -- Past the blanks, the underscores and the sign there is nothing but the digits.
  simp only [spelled]
  rw [mapM_digitValue? small]
  cases values with
  | nil => exact absurd rfl nonempty
  | cons value values => simp only [fits, if_true]

theorem toList_hex (word : Word) :
    word.hex.toList = '0' :: 'x' :: (fixedDigits 16 16 word.toNat).map digitChar :=
  String.toList_ofList

theorem ofDigits_hex (word : Word) : ofDigits 16 (fixedDigits 16 16 word.toNat) = word.toNat :=
  ofDigits_fixedDigits 16 16 word.toNat word.isLt

/-- A text of `0x` and sixteen lower-case hexadecimal digits, with the value of the word. -/
def Spells (text : String) (word : Word) : Prop :=
  ∃ digits : List Char,
    text.toList = '0' :: 'x' :: digits ∧ digits.length = 16 ∧
      (∀ digit ∈ digits, digit ∈ "0123456789abcdef".toList) ∧
      (digits.mapM digitValue?).map (ofDigits 16) = some word.toNat

theorem spells_hex (word : Word) : Spells word.hex word := by
  have small := fixedDigits_lt (by decide : 0 < 16) 16 word.toNat
  refine ⟨_, toList_hex word, ?_, ?_, ?_⟩
  · rw [List.length_map, length_fixedDigits]
  · intro digit member
    obtain ⟨value, among, rfl⟩ := List.mem_map.mp member
    exact mem_lowerDigits value (small value among)
  · rw [mapM_digitValue? small, Option.map_some, ofDigits_hex]

/-- A word is read back from the text it is shown with. -/
theorem parseHex?_hex (word : Word) : parseHex? word.hex = some word := by
  have value := ofDigits_hex word
  have length := length_fixedDigits 16 16 word.toNat
  have nonempty : fixedDigits 16 16 word.toNat ≠ [] := by
    intro none
    rw [none] at length
    cases length
  have read := parseHex?_digits nonempty (fixedDigits_lt (by decide) 16 word.toNat)
    (by rw [value]; exact word.isLt)
  rw [value, BitVec.ofNat_toNat, BitVec.setWidth_eq] at read
  exact read

end Word

end Confinement
