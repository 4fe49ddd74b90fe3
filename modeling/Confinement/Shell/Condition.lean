import Confinement.File.Space
import Confinement.Shell.Arithmetic

/-!
Conditions that the `test` command judges: texts, numbers and files are compared, and conditions are
put together from conditions.
-/

namespace Confinement.Shell.Condition

open Confinement.File (Space Content Device)

def unaryOperators : List String :=
  ["-r", "-w", "-x", "-e", "-f", "-d", "-c", "-b", "-p", "-u", "-g", "-k", "-s", "-t", "-z", "-n",
    "-h", "-O", "-G", "-L", "-S"]

def binaryOperators : List String :=
  ["=", "!=", "<", ">", "-eq", "-ne", "-ge", "-gt", "-le", "-lt", "-nt", "-ot", "-ef"]

def isUnary (word : Chars) : Bool :=
  unaryOperators.contains (String.ofList word)

def isBinary (word : Chars) : Bool :=
  binaryOperators.contains (String.ofList word)

/-- What is wrong about a word, which is left out if it is empty. -/
def complaint (word : Chars) (reason : String) : String :=
  if word.isEmpty then reason else String.ofList word ++ ": " ++ reason

/-- The part that a word plays. -/
inductive Role where
  | nothing
  | operand
  | unary
  | binary
  | not
  | and
  | or
  | opening
  | closing
deriving DecidableEq, Repr

/-- The part that the first of some words plays. An operator that no operand follows is one. -/
def role : List Chars → Role
  | [] => .nothing
  | word :: rest =>
      if isUnary word then
        match rest with
        | [] => .operand
        | [_] => .unary
        | next :: _ :: _ => if isBinary next then .operand else .unary
      else if isBinary word then .binary
      else
        match word with
        | ['!'] => .not
        | ['-', 'a'] => .and
        | ['-', 'o'] => .or
        | ['('] => if rest.isEmpty then .operand else .opening
        | [')'] => .closing
        | _ => .operand

def number (word : Chars) : Except String Int :=
  let trimmed := word.dropWhile fun char => char == ' ' || char == '\t'
  let (negative, digits) := match trimmed with
    | '-' :: rest => (true, rest)
    | '+' :: rest => (false, rest)
    | rest => (false, rest)
  let leading := digits.takeWhile Char.isDigit
  let after := (digits.drop leading.length).dropWhile fun char => char == ' ' || char == '\t'
  let value : Int := Text.ofDigits 10 (leading.filterMap Text.digitValue?)
  if leading.isEmpty || !after.isEmpty || Arithmetic.largest < value then
    .error ("Illegal number: " ++ String.ofList word)
  else .ok (if negative then -value else value)

/-- Whether what is said of a file holds. -/
def holdsOfFile (space : Space) (operator : String) (path : Chars) : Bool :=
  let follow := operator != "-h" && operator != "-L"
  match space.tree.find follow space.workingDirectory (Chars.toBytes path) with
  | .error _ => false
  | .ok node =>
      match space.tree.nodes[node]? with
      | none => false
      | some file =>
          let isPipe := match file.content with
            | .device .pipe => true
            | _ => false
          let isDevice := match file.content with
            | .device _ => !isPipe
            | _ => false
          let isRegular := match file.content with
            | .regular _ | .program _ | .report _ _ => true
            | _ => false
          let isEmpty := match file.content with
            | .regular data => data.isEmpty
            | .report size _ => size == 0
            | .device _ => true
            | _ => false
          match operator with
          | "-e" => true
          | "-f" => isRegular
          | "-d" => space.tree.isDirectory node
          | "-c" => isDevice
          | "-p" => isPipe
          | "-h" | "-L" =>
              match file.content with
              | .link _ => true
              | _ => false
          | "-r" => file.allows File.Node.toRead
          | "-w" => file.allows File.Node.toWrite
          | "-x" => file.allows File.Node.toSearch
          | "-s" => !isEmpty
          | "-u" => file.permissions &&& 0o4000 != 0
          | "-g" => file.permissions &&& 0o2000 != 0
          | "-k" => file.permissions &&& 0o1000 != 0
          | "-O" | "-G" => file.owner == File.processUser
          | _ => false

def sameFile (space : Space) (first second : Chars) : Bool :=
  let find (path : Chars) := space.tree.find true space.workingDirectory (Chars.toBytes path)
  match find first, find second with
  | .ok first, .ok second => first == second
  | _, _ => false

def compared (space : Space) (first operator second : Chars) : Except String Bool :=
  let numbers (holds : Int → Int → Bool) : Except String Bool :=
    match number first with
    | .error reason => .error reason
    | .ok first =>
        match number second with
        | .error reason => .error reason
        | .ok second => .ok (holds first second)
  match String.ofList operator with
  | "=" => .ok (first == second)
  | "!=" => .ok (first != second)
  | "<" => .ok (decide (first < second))
  | ">" => .ok (decide (second < first))
  | "-eq" => numbers (· == ·)
  | "-ne" => numbers (· != ·)
  | "-ge" => numbers fun first second => second ≤ first
  | "-gt" => numbers fun first second => second < first
  | "-le" => numbers fun first second => first ≤ second
  | "-lt" => numbers fun first second => first < second
  | "-ef" => .ok (sameFile space first second)
  | _ => .ok false

section

variable (space : Space)

mutual

/-- Judges a condition at the start of some words. The last word that was used comes back first. -/
def disjunction : Nat → List Chars → Except String (Bool × List Chars)
  | 0, words => .ok (false, words)
  | fuel + 1, words => do
      let (first, last) ← conjunction fuel words
      if role last.tail == .or then
        let (second, last) ← disjunction fuel (last.drop 2)
        return (first || second, last)
      else return (first, last)

def conjunction : Nat → List Chars → Except String (Bool × List Chars)
  | 0, words => .ok (false, words)
  | fuel + 1, words => do
      let (first, last) ← negation fuel words
      if role last.tail == .and then
        let (second, last) ← conjunction fuel (last.drop 2)
        return (first && second, last)
      else return (first, last)

def negation : Nat → List Chars → Except String (Bool × List Chars)
  | 0, words => .ok (false, words)
  | fuel + 1, words => do
      if role words == .not then
        let (holds, last) ← negation fuel (if words.tail.isEmpty then words else words.tail)
        if words.tail.isEmpty then return (true, words) else return (!holds, last)
      else primary fuel words

def primary : Nat → List Chars → Except String (Bool × List Chars)
  | 0, words => .ok (false, words)
  | fuel + 1, words =>
      match role words, words with
      | .nothing, _ => .ok (false, words)
      | .opening, _ :: rest =>
          if role rest == .closing then .ok (false, rest)
          else do
            let (holds, last) ← disjunction fuel rest
            if role last.tail == .closing then return (holds, last.tail)
            else throw "closing paren expected"
      | .unary, operator :: operand :: rest =>
          match String.ofList operator with
          | "-z" => .ok (operand.isEmpty, operand :: rest)
          | "-n" => .ok (!operand.isEmpty, operand :: rest)
          | "-t" => do
              discard (number operand)
              return (false, operand :: rest)
          | operator => .ok (holdsOfFile space operator operand, operand :: rest)
      | _, first :: rest =>
          match rest with
          | operator :: second :: after =>
              if isBinary operator && role rest == .binary then do
                return (← compared space first operator second, second :: after)
              else .ok (!first.isEmpty, first :: rest)
          | [operator] =>
              if isBinary operator then .error (complaint operator "argument expected")
              else .ok (!first.isEmpty, first :: rest)
          | [] => .ok (!first.isEmpty, [first])
      | _, [] => .ok (false, [])

end

/-- Judges words as one condition. The first operators go by how many words there are. -/
def judge : Nat → Bool → List Chars → Except String Bool
  | 0, negated, _ => .ok negated
  | fuel + 1, negated, words =>
      let whole (words : List Chars) : Except String Bool := do
        let (holds, last) ← disjunction space (8 * (fuel + 8)) words
        match last with
        | word :: _ :: _ => throw (complaint word "unexpected operator")
        | _ => return holds != negated
      match words with
      | [] => .ok negated
      | [first, operator, second] =>
          if isBinary operator then do return (← compared space first operator second) != negated
          else if first == ['('] && second == [')'] then whole [operator]
          else if first == ['!'] then judge fuel (!negated) [operator, second]
          else whole words
      | [first, second, third, fourth] =>
          if first == ['('] && fourth == [')'] then whole [second, third]
          else if first == ['!'] then judge fuel (!negated) [second, third, fourth]
          else whole words
      | words => whole words

end

end Confinement.Shell.Condition
