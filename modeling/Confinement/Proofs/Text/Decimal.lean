import Mathlib.Data.List.Forall2
import Mathlib.Data.Nat.Digits.Defs
import Confinement.Text.Digits

/-!
Numerals as lists of digits with their values. A number is written in decimal as it is everywhere,
and the digits that it is written with are those that have its value.
-/

namespace Confinement.Text

theorem digits_ne_nil (radix number : Nat) : digits radix number ≠ [] := by
  rw [digits]
  split <;> simp

theorem digits_lt {radix : Nat} (large : 2 ≤ radix) (number : Nat) :
    ∀ digit ∈ digits radix number, digit < radix := by
  induction number using digits.induct radix with
  | case1 number small =>
      rw [digits, if_pos small]
      intro digit member
      rw [List.mem_singleton.mp member]
      omega
  | case2 number big ih =>
      rw [digits, if_neg big]
      intro digit member
      rcases List.mem_append.mp member with earlier | last
      · exact ih digit earlier
      · rw [List.mem_singleton.mp last]
        exact Nat.mod_lt _ (by omega)

theorem ofDigits_eq (radix : Nat) (values : List Nat) :
    ofDigits radix values = Nat.ofDigits radix values.reverse := by
  rw [Nat.ofDigits_eq_foldr, List.foldr_reverse, ofDigits]
  simp only [Nat.cast_id, Nat.add_comm]

/-! Decimal digits. -/

/-- A decimal digit and its value. -/
def IsDecimal (c : Char) (value : Nat) : Prop :=
  "0123456789".toList[value]? = some c

variable {c : Char} {value : Nat}

theorem decimal_table : ∀ value < 10, "0123456789".toList[value]?.all
    fun c => c.isDigit && c.toNat - '0'.toNat == value := by
  decide

theorem table_decimal : ∀ code < 58, 48 ≤ code →
    "0123456789".toList[code - '0'.toNat]? = some (Char.ofNat code) := by
  decide

theorem isDecimal_iff : IsDecimal c value ↔ c.isDigit = true ∧ c.toNat - '0'.toNat = value := by
  constructor
  · intro found
    have entry := decimal_table value (List.getElem?_eq_some_iff.mp found).1
    rw [found] at entry
    simpa using entry
  · rintro ⟨digit, rfl⟩
    have range : 48 ≤ c.toNat ∧ c.toNat ≤ 57 := by
      simpa [Char.isDigit, UInt32.le_iff_toNat_le] using digit
    have found := table_decimal c.toNat (Nat.lt_succ_of_le range.2) range.1
    rwa [Char.ofNat_toNat] at found

theorem isDigit_eq_false_iff : c.isDigit = false ↔ ∀ value, ¬ IsDecimal c value := by
  simp [isDecimal_iff]

theorem forall₂_isDecimal_iff {text : List Char} {values : List Nat} :
    List.Forall₂ IsDecimal text values ↔
      (∀ c ∈ text, c.isDigit = true) ∧ text.map (fun c => c.toNat - '0'.toNat) = values := by
  induction text generalizing values with
  | nil => cases values <;> simp
  | cons c text ih =>
      cases values with
      | nil => simp
      | cons value values =>
          simp only [List.forall₂_cons, isDecimal_iff, ih, List.forall_mem_cons, List.map_cons,
            List.cons.injEq]
          exact and_and_and_comm

/-! Numbers in decimal. -/

theorem isDecimal_digitChar : ∀ value < 10, "0123456789".toList[value]? = some (digitChar value) := by
  decide

theorem forall₂_isDecimal_decimal (number : Nat) :
    List.Forall₂ IsDecimal (decimal number) (digits 10 number) := by
  rw [decimal, List.forall₂_map_left_iff, List.forall₂_same]
  intro digit member
  exact isDecimal_digitChar digit (digits_lt (by decide) number digit member)

theorem digitChar_eq : ∀ value < 10, digitChar value = Nat.digitChar value := by
  decide

theorem decimal_eq_toDigits (number : Nat) : decimal number = Nat.toDigits 10 number := by
  unfold decimal
  induction number using digits.induct 10 with
  | case1 number small =>
      have below : number < 10 := by omega
      rw [digits, if_pos small, Nat.toDigits_of_lt_base below, List.map_singleton,
        digitChar_eq number below]
  | case2 number large ih =>
      rw [digits, if_neg large, List.map_append, ih, List.map_singleton,
        digitChar_eq _ (Nat.mod_lt number (by decide)),
        ← Nat.toDigits_of_base_le (by decide) (by omega)]

theorem toList_toString (number : Nat) : (toString number).toList = decimal number := by
  rw [Nat.toString_eq_repr, Nat.toList_repr, decimal_eq_toDigits]

end Confinement.Text
