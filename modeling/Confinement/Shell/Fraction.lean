import Confinement.Text.Digits

/-!
Numbers with a fraction, as they are read and written: a text stands for the nearest number of 53
bits, and a number is written with as many digits as are asked for, half of a unit going to the even
neighbour.
-/

namespace Confinement.Shell

/-- A number that is not negative. -/
inductive Fraction where
  | finite (numerator denominator : Nat)
  | infinite
  | undefined
deriving DecidableEq, Repr

namespace Fraction

/-- The whole number nearest to a quotient. -/
def rounded (numerator denominator : Nat) : Nat :=
  let quotient := numerator / denominator
  let rest := 2 * (numerator % denominator)
  if rest < denominator then quotient
  else if denominator < rest then quotient + 1
  else quotient + quotient % 2

/-- A quotient times a power. -/
def scaled (base numerator denominator : Nat) : Int → Nat × Nat
  | .ofNat power => (numerator * Nat.pow base power, denominator)
  | .negSucc power => (numerator, denominator * Nat.pow base (power + 1))

/-- The power of a base that is the greatest not above a quotient, which is not zero. -/
def magnitude (base numerator denominator : Nat) : Int :=
  let guess : Int :=
    (Text.digits base numerator).length - (Text.digits base denominator).length
  let (above, below) := scaled base numerator denominator (-guess)
  if above < below then guess - 1 else guess

/-- The least power of two that a number is a multiple of. -/
def leastPower : Int := -1074

/-- The nearest number of 53 bits, and whether it is one of full width. -/
def nearest (numerator denominator : Nat) : Fraction × Bool :=
  if numerator = 0 then (.finite 0 1, true)
  else
    let power := max leastPower (magnitude 2 numerator denominator - 52)
    let (above, below) := scaled 2 numerator denominator (-power)
    let (above, below) := scaled 2 (rounded above below) 1 power
    if below * Nat.pow 2 1024 ≤ above then (.infinite, false)
    else (.finite above below, above ≠ 0 && -1022 ≤ magnitude 2 numerator denominator)

/-- The exponent behind one of two letters, with the number of characters it takes. -/
def exponent (lower : Char) (text : List Char) : Int × Nat :=
  match text with
  | letter :: rest =>
      let (negative, digits) := match rest with
        | '-' :: digits => (true, digits)
        | '+' :: digits => (false, digits)
        | digits => (false, digits)
      let digits := digits.takeWhile Char.isDigit
      let size := min 9999 (Text.ofDigits 10 (digits.filterMap Text.digitValue?))
      let sign := if rest.head? == some '-' || rest.head? == some '+' then 1 else 0
      if letter.toLower != lower || digits.isEmpty then (0, 0)
      else (if negative then -size else size, 1 + sign + digits.length)
  | [] => (0, 0)

/-- Reads digits of a base with a point in them and an exponent behind them. -/
def ofDigitText (base step : Nat) (letter : Char) (text : List Char) : (Fraction × Bool) × Nat :=
  let isDigit (char : Char) : Bool :=
    match Text.digitValue? char with
    | some value => value < base
    | none => false
  let whole := text.takeWhile isDigit
  let rest := text.drop whole.length
  let part := if rest.head? == some '.' then rest.tail.takeWhile isDigit else []
  if whole.isEmpty && part.isEmpty then ((.finite 0 1, true), 0)
  else
    let point := if rest.head? == some '.' then 1 else 0
    let (power, length) := exponent letter (rest.drop (point + part.length))
    let digits := Text.ofDigits base ((whole ++ part).filterMap Text.digitValue?)
    let shift := if base = 10 then 10 else 2
    let (above, below) := scaled shift digits 1 (power - step * part.length)
    (nearest above below, whole.length + point + part.length + length)

def startsWith (text : List Char) (name : String) : Bool :=
  (text.take name.length).map Char.toLower == name.toList

/-- The number at the start of a text, whether it could be kept as it is, and how many characters it
takes. -/
def leading (text : List Char) : (Fraction × Bool) × Nat :=
  if startsWith text "infinity" then ((.infinite, true), 8)
  else if startsWith text "inf" then ((.infinite, true), 3)
  else if startsWith text "nan" then ((.undefined, true), 3)
  else
    let hexadecimal := ofDigitText 16 4 'p' (text.drop 2)
    if startsWith text "0x" && hexadecimal.2 ≠ 0 then (hexadecimal.1, hexadecimal.2 + 2)
    else ofDigitText 10 1 'e' text

/-- Digits with a point before the last of them, as many as `places`. -/
def pointed (alternate : Bool) (places number : Nat) : List Char :=
  let digits := Text.decimal number
  let digits := List.replicate (places + 1 - digits.length) '0' ++ digits
  let whole := digits.take (digits.length - places)
  if places = 0 && !alternate then whole else whole ++ '.' :: digits.drop whole.length

/-- Writes a number with a fixed number of places. -/
def fixed (alternate : Bool) (places numerator denominator : Nat) : List Char :=
  let (above, below) := scaled 10 numerator denominator places
  pointed alternate places (rounded above below)

/-- The first digits of a number, one and as many as `places`, with the power of ten of the first
one. -/
def significant (places numerator denominator : Nat) : Nat × Int :=
  if numerator = 0 then (0, 0)
  else
    let power := magnitude 10 numerator denominator
    let (above, below) := scaled 10 numerator denominator (places - power)
    let digits := rounded above below
    if Nat.pow 10 (places + 1) ≤ digits then (digits / 10, power + 1) else (digits, power)

/-- The mark of a power of ten, of two digits at least. -/
def powerText (power : Int) : List Char :=
  let digits := Text.decimal power.natAbs
  'e' :: (if power < 0 then '-' else '+') ::
    (if digits.length < 2 then '0' :: digits else digits)

/-- Writes a number with one digit before the point and a power of ten. -/
def scientific (alternate : Bool) (places numerator denominator : Nat) : List Char :=
  let (digits, power) := significant places numerator denominator
  pointed alternate places digits ++ powerText power

/-- Leaves out the zeros at the end of a fraction, and a point that nothing follows. -/
def trimmed (text : List Char) : List Char :=
  if text.contains '.' then
    match text.reverse.dropWhile (· == '0') with
    | '.' :: rest => rest.reverse
    | rest => rest.reverse
  else text

/-- Writes a number in the shorter of two ways, with some digits that count. -/
def general (alternate : Bool) (digits numerator denominator : Nat) : List Char :=
  let places := max 1 digits - 1
  let (_, power) := significant places numerator denominator
  let shortened (text : List Char) : List Char := if alternate then text else trimmed text
  if -4 ≤ power && power ≤ places then
    shortened (fixed alternate (places - power).toNat numerator denominator)
  else
    let text := scientific alternate places numerator denominator
    shortened (text.takeWhile (· != 'e')) ++ powerText power

/-- Writes a number as one of the letters `e`, `f` and `g` asks for. -/
def text (letter : Char) (alternate : Bool) (precision : Nat) : Fraction → List Char
  | .infinite => "inf".toList
  | .undefined => "nan".toList
  | .finite numerator denominator =>
      match letter with
      | 'e' => scientific alternate precision numerator denominator
      | 'f' => fixed alternate precision numerator denominator
      | _ => general alternate precision numerator denominator

end Fraction

end Confinement.Shell
