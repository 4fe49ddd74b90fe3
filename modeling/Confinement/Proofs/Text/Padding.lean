import Mathlib.Data.List.DropRight
import Confinement.Text.Utf8.RoundTrip

/-!
Padding at the end of lists, and of texts in UTF-8. What is left without padding is told by its last
element, so there is one such list. NUL is written as one zero byte and no other character has a
zero byte in it, so a text has the same padding before it is written and after.
-/

namespace Confinement

/-! Lists with padding at their end. -/

/-- What is left of a list without the padding at its end. -/
structure IsStem {α : Type} (pad : α) (list stem : List α) : Prop where
  bare : stem.getLast? ≠ some pad
  padded : ∃ count, list = stem ++ List.replicate count pad

section Stem

variable {α : Type} [DecidableEq α] {pad : α} {list stem : List α}

theorem rdropWhile_of_bare (bare : stem.getLast? ≠ some pad) :
    stem.rdropWhile (· == pad) = stem := by
  rw [List.rdropWhile_eq_self_iff]
  intro nonempty
  rw [List.getLast?_eq_some_getLast nonempty] at bare
  simpa using bare

theorem rdropWhile_append_replicate (count : Nat) :
    (list ++ List.replicate count pad).rdropWhile (· == pad) = list.rdropWhile (· == pad) := by
  induction count with
  | zero => rw [List.replicate_zero, List.append_nil]
  | succ count ih =>
      rw [List.replicate_succ', ← List.append_assoc,
        List.rdropWhile_concat_pos (· == pad) _ _ (beq_self_eq_true pad), ih]

theorem isStem_rdropWhile (pad : α) (list : List α) :
    IsStem pad list (list.rdropWhile (· == pad)) where
  bare ends := by
    have nonempty : list.rdropWhile (· == pad) ≠ [] := by
      intro empty
      rw [empty] at ends
      cases ends
    rw [List.getLast?_eq_some_getLast nonempty, Option.some.injEq] at ends
    exact List.rdropWhile_last_not _ _ nonempty (beq_iff_eq.mpr ends)
  padded := by
    have same : list.rtakeWhile (· == pad) =
        List.replicate (list.rtakeWhile (· == pad)).length pad := by
      apply List.eq_replicate_of_mem
      intro element member
      exact beq_iff_eq.mp (List.mem_rtakeWhile_imp (p := (· == pad)) member)
    refine ⟨(list.rtakeWhile (· == pad)).length, ?_⟩
    rw [← same, List.rdropWhile_append_rtakeWhile]

theorem isStem_iff : IsStem pad list stem ↔ list.rdropWhile (· == pad) = stem := by
  constructor
  · rintro ⟨bare, count, rfl⟩
    rw [rdropWhile_append_replicate, rdropWhile_of_bare bare]
  · rintro rfl
    exact isStem_rdropWhile pad list

end Stem

namespace Text

/-! Zero bytes in UTF-8. -/

theorem encodeChar_ne_nil (c : Char) : encodeChar c ≠ [] := by
  simp only [encodeChar]
  repeat' split
  all_goals exact List.cons_ne_nil _ _

theorem zero_notMem_encodeChar {c : Char} (other : c ≠ '\x00') : 0 ∉ encodeChar c := by
  have positive : c.toNat ≠ 0 := by
    intro zero
    apply other
    rw [← Char.ofNat_toNat c, zero]
  have valid : c.toNat < 0xd800 ∨ 0xdfff < c.toNat ∧ c.toNat < 0x110000 := c.valid
  have nonzero {n : Nat} (byte : n % 256 ≠ 0) : (0 : UInt8) ≠ UInt8.ofNat n := by
    rw [ne_eq, ← UInt8.toNat_inj, UInt8.toNat_ofNat']
    exact fun zero => byte zero.symm
  simp only [encodeChar]
  repeat' split
  all_goals simp only [List.mem_cons, List.not_mem_nil, or_false, not_or]
  · exact nonzero (by omega)
  · exact ⟨nonzero (by omega), nonzero (by omega)⟩
  · exact ⟨nonzero (by omega), nonzero (by omega), nonzero (by omega)⟩
  · exact ⟨nonzero (by omega), nonzero (by omega), nonzero (by omega), nonzero (by omega)⟩

theorem encodeUtf8_append (text other : List Char) :
    encodeUtf8 (text ++ other) = encodeUtf8 text ++ encodeUtf8 other :=
  List.flatMap_append

theorem encodeUtf8_replicate_nul (count : Nat) :
    encodeUtf8 (List.replicate count '\x00') = List.replicate count 0 := by
  induction count with
  | zero => rfl
  | succ count ih =>
      rw [List.replicate_succ, encodeUtf8, List.flatMap_cons, ← encodeUtf8, ih]
      rfl

theorem getLast?_encodeUtf8_eq_zero_iff {text : List Char} :
    (encodeUtf8 text).getLast? = some 0 ↔ text.getLast? = some '\x00' := by
  rcases List.eq_nil_or_concat text with rfl | ⟨front, c, rfl⟩
  · simp [encodeUtf8]
  · rw [List.concat_eq_append, encodeUtf8_append, List.getLast?_concat, Option.some.injEq]
    have single : encodeUtf8 [c] = encodeChar c := List.flatMap_singleton ..
    rw [single, List.getLast?_append_of_ne_nil _ (encodeChar_ne_nil c)]
    constructor
    · intro ends
      refine Classical.byContradiction fun other => ?_
      exact zero_notMem_encodeChar other (List.mem_of_getLast? ends)
    · rintro rfl
      rfl

theorem isStem_encodeUtf8 {text stem : List Char} (rooted : IsStem '\x00' text stem) :
    IsStem 0 (encodeUtf8 text) (encodeUtf8 stem) := by
  obtain ⟨bare, count, rfl⟩ := rooted
  refine ⟨fun ends => bare (getLast?_encodeUtf8_eq_zero_iff.mp ends), count, ?_⟩
  rw [encodeUtf8_append, encodeUtf8_replicate_nul]

end Text

end Confinement
