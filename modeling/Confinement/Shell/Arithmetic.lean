import Confinement.Shell.Syntax
import Confinement.Text.Digits

/-!
Arithmetic of the shell: expressions over whole numbers of 64 bits, with variables by name. What an
operator does not need is read but has no effect.
-/

namespace Confinement.Shell.Arithmetic

inductive Token where
  | number (value : Int)
  | name (name : Chars)
  | operator (text : String)
  | unknown
  | finish
deriving DecidableEq, Repr

/-- Tokens left to read, and the variables with the values they have by now. -/
structure Machine where
  tokens : List Token
  assigned : List (Chars × Int) := []

abbrev Calculation := StateT Machine (Except String)

def wrap (value : Int) : Int :=
  value.bmod 0x10000000000000000

def largest : Int := 0x7fffffffffffffff

/-- A whole number at the start of a text, in the base that its first digits tell, with the number
of characters it takes. -/
def leadingNumber (text : Chars) : Nat × Nat :=
  let base16 := text.take 2 == ['0', 'x'] || text.take 2 == ['0', 'X']
  let (base, skip) := if base16 then (16, 2) else if text.head? == some '0' then (8, 0) else (10, 0)
  let isDigit (char : Char) : Bool :=
    match Text.digitValue? char.toLower with
    | some value => value < base
    | none => false
  let digits := (text.drop skip).takeWhile isDigit
  let value := Text.ofDigits base (digits.filterMap fun char => Text.digitValue? char.toLower)
  if base16 && digits.isEmpty then (0, 1) else (value, skip + digits.length)

/-- The nearest number that 64 bits hold. -/
def clamped (value : Int) : Int :=
  max (-largest - 1) (min value largest)

def operators : List String :=
  ["<<=", ">>=", "&&", "||", "<<", ">>", "<=", ">=", "==", "!=", "+=", "-=", "*=", "/=", "%=", "&=",
    "|=", "^=", "+", "-", "*", "/", "%", "<", ">", "&", "|", "^", "~", "!", "?", ":", "(", ")", "="]

/-- The tokens of a text, up to where it makes no sense. -/
def tokens : Nat → Chars → List Token
  | 0, _ => [.unknown]
  | _ + 1, [] => [.finish]
  | fuel + 1, char :: rest =>
      if " \t\n".toList.contains char then tokens fuel rest
      else if char.isDigit then
        let (value, length) := leadingNumber (char :: rest)
        .number (clamped value) :: tokens fuel ((char :: rest).drop length)
      else if isNameStart char then
        let name := (char :: rest).takeWhile isNamePart
        .name name :: tokens fuel ((char :: rest).drop name.length)
      else
        match operators.find? fun text => text.toList.isPrefixOf (char :: rest) with
        | some text => .operator text :: tokens fuel ((char :: rest).drop text.length)
        | none => [.unknown]

def peek : Calculation Token :=
  return (← get).tokens.head?.getD .finish

def advance : Calculation Unit :=
  modify fun machine => { machine with tokens := machine.tokens.tail }

/-- The value of a binary operator, unless it has none. -/
def apply (operator : String) (first second : Int) : Except String Int :=
  let truth (holds : Bool) : Except String Int := .ok (if holds then 1 else 0)
  let bits (combine : BitVec 64 → BitVec 64 → BitVec 64) : Except String Int :=
    .ok (combine (BitVec.ofInt 64 first) (BitVec.ofInt 64 second)).toInt
  match operator with
  | "*" => .ok (wrap (first * second))
  | "/" => if second = 0 then .error "division by zero" else .ok (wrap (first.tdiv second))
  | "%" => if second = 0 then .error "division by zero" else .ok (wrap (first.tmod second))
  | "+" => .ok (wrap (first + second))
  | "-" => .ok (wrap (first - second))
  | "<<" => bits fun first second => first <<< (second &&& 63)
  | ">>" => bits fun first second => first.sshiftRight' (second &&& 63)
  | "<" => truth (first < second)
  | "<=" => truth (first ≤ second)
  | ">" => truth (second < first)
  | ">=" => truth (second ≤ first)
  | "==" => truth (first == second)
  | "!=" => truth (first != second)
  | "&" => bits (· &&& ·)
  | "^" => bits (· ^^^ ·)
  | _ => bits (· ||| ·)

/-- How tightly a binary operator binds. -/
def strength? : Token → Option (String × Nat)
  | .operator text =>
      let table := [("*", 9), ("/", 9), ("%", 9), ("+", 8), ("-", 8), ("<<", 7), (">>", 7),
        ("<", 6), ("<=", 6), (">", 6), (">=", 6), ("==", 5), ("!=", 5), ("&", 4), ("^", 3),
        ("|", 2)]
      (table.lookup text).map (text, ·)
  | _ => none

/-- Operators that give a variable a new value from its own. -/
def updates : List String :=
  ["+=", "-=", "*=", "/=", "%=", "<<=", ">>=", "&=", "^=", "|="]

section

variable (value? : Chars → Except String Int)

def lookup (name : Chars) : Calculation Int := do
  match (← get).assigned.lookup name with
  | some value => return value
  | none => value? name

mutual

def assignment : Nat → Bool → Calculation Int
  | 0, _ => throw "expecting primary"
  | fuel + 1, live => do
      match (← get).tokens with
      | .name name :: .operator text :: _ =>
          if text == "=" || updates.contains text then
            advance
            advance
            let second ← assignment fuel live
            if live then
              let value ← if text == "=" then pure second
                else
                  let operator := String.ofList (text.toList.take (text.length - 1))
                  apply operator (← lookup value? name) second
              modify fun machine => { machine with assigned := (name, value) :: machine.assigned }
              return value
            else return second
          else choice fuel live
      | _ => choice fuel live

def choice : Nat → Bool → Calculation Int
  | 0, _ => throw "expecting primary"
  | fuel + 1, live => do
      let condition ← disjunction fuel live
      if (← peek) == .operator "?" then
        advance
        let yes ← assignment fuel (live && condition != 0)
        if (← peek) != .operator ":" then throw "expecting ':'"
        advance
        let no ← choice fuel (live && condition == 0)
        return if condition != 0 then yes else no
      else return condition

def disjunction : Nat → Bool → Calculation Int
  | 0, _ => throw "expecting primary"
  | fuel + 1, live => do
      let first ← conjunction fuel live
      if (← peek) == .operator "||" then
        advance
        let second ← disjunction fuel (live && first == 0)
        return if first != 0 || second != 0 then 1 else 0
      else return first

def conjunction : Nat → Bool → Calculation Int
  | 0, _ => throw "expecting primary"
  | fuel + 1, live => do
      let first ← primary fuel live
      let first ← binary fuel live 0 first
      if (← peek) == .operator "&&" then
        advance
        let second ← conjunction fuel (live && first != 0)
        return if first != 0 && second != 0 then 1 else 0
      else return first

/-- Goes on after a first operand with all operators that bind as tightly as is asked. -/
def binary : Nat → Bool → Nat → Int → Calculation Int
  | 0, _, _, _ => throw "expecting primary"
  | fuel + 1, live, least, first => do
      match strength? (← peek) with
      | some (operator, strength) =>
          if strength < least then return first
          else
            advance
            let second ← primary fuel live
            let second ← binary fuel live (strength + 1) second
            let value ← if live then apply operator first second else pure first
            binary fuel live least value
      | none => return first

def primary : Nat → Bool → Calculation Int
  | 0, _ => throw "expecting primary"
  | fuel + 1, live => do
      let next ← peek
      match next with
      | .operator "(" =>
          advance
          let value ← assignment fuel live
          if (← peek) != .operator ")" then throw "expecting ')'"
          advance
          return value
      | .number value =>
          advance
          return value
      | .name name =>
          advance
          if live then lookup value? name else return 0
      | .operator "+" =>
          advance
          primary fuel live
      | .operator "-" =>
          advance
          return wrap (-(← primary fuel live))
      | .operator "!" =>
          advance
          return if (← primary fuel live) == 0 then 1 else 0
      | .operator "~" =>
          advance
          return -(← primary fuel live) - 1
      | _ => throw "expecting primary"

end

/-- The value of an expression and the variables it gave values to. -/
def evaluate (text : Chars) : Except String (Int × List (Chars × Int)) :=
  let quoted := ": \"" ++ String.ofList text ++ "\""
  let failure (reason : String) := "arithmetic expression: " ++ reason ++ quoted
  let tokens := tokens (text.length + 1) text
  match (assignment value? (8 * (tokens.length + 8)) true) { tokens := tokens } with
  | .error reason =>
      .error (if reason.startsWith "Illegal number" then reason else failure reason)
  | .ok (value, machine) =>
      if machine.tokens.head?.getD .finish == .finish then .ok (value, machine.assigned)
      else .error (failure "expecting EOF")

end

end Confinement.Shell.Arithmetic
