import Confinement.Proofs.Rights.Encoding
import Confinement.Proofs.Rights.Numeral

/-!
Sets decoded from words as users type them. The first two texts decide, and each word is taken as it
stands, whatever is wrong with it. What is wrong is told on the error stream, beside the answer.
Main statement: `decode_takes_two_words`.
-/

namespace Confinement.RightsSet

open CommandLine (decoded lines warning)
open Word (parseHex? IsTextOf)

variable {texts : List String} {set : RightsSet}

theorem decode_take (texts : List String) : decode (texts.take 2) = decode texts := by
  match texts with
  | [] | [_] | _ :: _ :: _ => rfl

theorem word1_empty : empty.word1 = 0x0400000000000000 := by decide

/-- A word that is left out is zero if it is the first and the empty set's if it is the second. -/
theorem decode_eq_ok_iff :
    decode texts = .ok set ↔
      texts[0]?.elim (some 0) parseHex? = some set.word0 ∧
        texts[1]?.elim (some 0x0400000000000000) parseHex? = some set.word1 := by
  obtain ⟨word0, word1⟩ := set
  match texts with
  | [] => simp [decode, word1_empty]
  | [first] => cases read : parseHex? first <;> simp [decode, parseWord, word1_empty, read]
  | first :: second :: _ =>
      cases read : parseHex? first <;> cases again : parseHex? second <;>
        simp [decode, parseWord, read, again]

theorem decode_of_readable (readable : ∀ text ∈ texts.take 2, (parseHex? text).isSome = true) :
    ∃ set, decode texts = .ok set := by
  match texts with
  | [] => exact ⟨_, rfl⟩
  | [first] =>
      obtain ⟨word0, read⟩ := Option.isSome_iff_exists.mp (readable first (by simp))
      exact ⟨⟨word0, empty.word1⟩, by simp [decode, parseWord, read]⟩
  | first :: second :: _ =>
      obtain ⟨word0, read⟩ := Option.isSome_iff_exists.mp (readable first (by simp))
      obtain ⟨word1, again⟩ := Option.isSome_iff_exists.mp (readable second (by simp))
      exact ⟨⟨word0, word1⟩, by simp [decode, parseWord, read, again]⟩

theorem decode_of_refused {before after : List String} {text : String}
    (split : texts.take 2 = before ++ text :: after)
    (readable : ∀ other ∈ before, (parseHex? other).isSome = true)
    (refused : parseHex? text = none) : decode texts = .error (.invalidWord text) := by
  have short := List.length_take_le 2 texts
  rw [← decode_take, split]
  rw [split] at short
  cases before with
  | nil => cases after <;> simp [decode, parseWord, refused]
  | cons first before =>
      obtain ⟨word0, read⟩ := Option.isSome_iff_exists.mp (readable first List.mem_cons_self)
      have last : before = [] ∧ after = [] := by
        simp only [List.length_append, List.length_cons] at short
        exact ⟨List.eq_nil_of_length_eq_zero (by omega), List.eq_nil_of_length_eq_zero (by omega)⟩
      simp [last, decode, parseWord, read, refused]

theorem decode_eq_error_iff {reason : CodingError} :
    decode texts = .error reason ↔
      ∃ before text after, texts.take 2 = before ++ text :: after ∧
        (∀ other ∈ before, (parseHex? other).isSome = true) ∧ parseHex? text = none ∧
        reason = .invalidWord text := by
  constructor
  · intro failed
    rcases isSome_or_first_none parseHex? (texts.take 2) with
      readable | ⟨before, text, after, split, readable, refused⟩
    · obtain ⟨set, made⟩ := decode_of_readable readable
      cases failed.symm.trans made
    · cases failed.symm.trans (decode_of_refused split readable refused)
      exact ⟨before, text, after, split, readable, refused, rfl⟩
  · rintro ⟨before, text, after, split, readable, refused, rfl⟩
    exact decode_of_refused split readable refused

theorem decode_texts {first second : String} (shown : IsTextOf first set.word0)
    (again : IsTextOf second set.word1) : decode [first, second] = .ok set :=
  decode_eq_ok_iff.mpr
    ⟨Word.parseHex?_of_isTextOf shown, Word.parseHex?_of_isTextOf again⟩

theorem decode_text_iff {first : String} (shown : IsTextOf first set.word0) :
    decode [first] = .ok set ↔ set.word1 = 0x0400000000000000 := by
  rw [decode_eq_ok_iff]
  simp [Word.parseHex?_of_isTextOf shown, eq_comm]

theorem decoded_of_ok (made : decode texts = .ok set) :
    decoded texts =
      { exit := 0
        stdout := lines [set.display]
        stderr := if set.isValid then [] else [warning set] } := by
  simp only [decoded, made]

end Confinement.RightsSet
