/-!
Digits in a radix: the value of a digit text and the shortest or fixed-width text of a number.
Main statement: reading a fixed-width text gives the number back if the width holds it.
-/

namespace Confinement.Text

/-- Value of a decimal or, in either case, hexadecimal digit. -/
def digitValue? (c : Char) : Option Nat :=
  if '0' ≤ c ∧ c ≤ '9' then some (c.toNat - '0'.toNat)
  else if 'a' ≤ c ∧ c ≤ 'f' then some (c.toNat - 'a'.toNat + 10)
  else if 'A' ≤ c ∧ c ≤ 'F' then some (c.toNat - 'A'.toNat + 10)
  else none

/-- The lower-case digit of a value below 16. -/
def digitChar (value : Nat) : Char :=
  if value < 10 then Char.ofNat ('0'.toNat + value) else Char.ofNat ('a'.toNat + (value - 10))

/-- The number that digits denote, the most significant one first. -/
def ofDigits (radix : Nat) (digits : List Nat) : Nat :=
  digits.foldl (fun value digit => radix * value + digit) 0

/-- The digits of a number without leading zeros; zero has one digit. -/
def digits (radix : Nat) (number : Nat) : List Nat :=
  if number < radix ∨ radix < 2 then [number]
  else digits radix (number / radix) ++ [number % radix]
termination_by number
decreasing_by exact Nat.div_lt_self (by omega) (by omega)

/-- The last `width` digits of a number. -/
def fixedDigits (radix : Nat) : Nat → Nat → List Nat
  | 0, _ => []
  | width + 1, number => fixedDigits radix width (number / radix) ++ [number % radix]

def decimal (number : Nat) : List Char :=
  (digits 10 number).map digitChar

def hexadecimal (number : Nat) : List Char :=
  (digits 16 number).map digitChar

def signedDecimal : Int → List Char
  | .ofNat number => decimal number
  | .negSucc number => '-' :: decimal (number + 1)

theorem ofDigits_append (radix : Nat) (front back : List Nat) :
    ofDigits radix (front ++ back) =
      back.foldl (fun value digit => radix * value + digit) (ofDigits radix front) := by
  simp [ofDigits, List.foldl_append]

theorem ofDigits_concat (radix : Nat) (front : List Nat) (last : Nat) :
    ofDigits radix (front ++ [last]) = radix * ofDigits radix front + last := by
  simp [ofDigits_append]

theorem ofDigits_digits (radix number : Nat) : ofDigits radix (digits radix number) = number := by
  induction number using digits.induct radix with
  | case1 number small =>
      rw [digits, if_pos small]
      simp [ofDigits]
  | case2 number large ih =>
      rw [digits, if_neg large, ofDigits_concat, ih]
      exact Nat.div_add_mod number radix

theorem ofDigits_fixedDigits (radix width number : Nat) (fits : number < radix.pow width) :
    ofDigits radix (fixedDigits radix width number) = number := by
  induction width generalizing number with
  | zero =>
      have none : number = 0 := Nat.lt_one_iff.mp fits
      simp [none, fixedDigits, ofDigits]
  | succ width ih =>
      rw [fixedDigits, ofDigits_concat, ih, Nat.div_add_mod]
      rw [Nat.pow_eq, Nat.pow_succ, Nat.mul_comm] at fits
      exact Nat.div_lt_of_lt_mul fits

theorem length_fixedDigits (radix width number : Nat) :
    (fixedDigits radix width number).length = width := by
  induction width generalizing number with
  | zero => rfl
  | succ width ih => simp [fixedDigits, ih]

theorem digitValue?_digitChar {value : Nat} (small : value < 16) :
    digitValue? (digitChar value) = some value := by
  revert value
  decide

end Confinement.Text
