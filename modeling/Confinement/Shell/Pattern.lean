import Confinement.Shell.Syntax

/-!
Patterns: a star stands for any text, a question mark for one character, and brackets for one of
some characters. A quoted character stands for itself.
-/

namespace Confinement.Shell

/-- Characters that brackets stand for. -/
inductive Member where
  | range (first last : Char)
  | named (name : String)
deriving DecidableEq, Repr

inductive PatternPart where
  | any
  | one
  | bracket (negated : Bool) (members : List Member)
  | char (char : Char)
deriving DecidableEq, Repr

abbrev Pattern := List PatternPart

namespace Member

def isGraph (char : Char) : Bool :=
  '!' ≤ char && char ≤ '~'

def isBlank (char : Char) : Bool :=
  char == ' ' || char == '\t'

def isControl (char : Char) : Bool :=
  char < ' ' || char == '\x7f'

def holds (char : Char) : Member → Bool
  | .range first last => first ≤ char && char ≤ last
  | .named name =>
      match name with
      | "alpha" => char.isAlpha
      | "digit" => char.isDigit
      | "alnum" => char.isAlphanum
      | "upper" => char.isUpper
      | "lower" => char.isLower
      | "space" => isBlank char || '\n' ≤ char && char ≤ '\r'
      | "blank" => isBlank char
      | "punct" => isGraph char && !char.isAlphanum
      | "xdigit" => char.isDigit || 'a' ≤ char && char ≤ 'f' || 'A' ≤ char && char ≤ 'F'
      | "cntrl" => isControl char
      | "graph" => isGraph char
      | "print" => isGraph char || char == ' '
      | _ => false

end Member

namespace Pattern

/-- Members up to the closing bracket, with what follows it. -/
def members? : Nat → Bool → List (Char × Bool) → Option (List Member × List (Char × Bool))
  | 0, _, _ => none
  | _ + 1, _, [] => none
  | fuel + 1, first, (char, quoted) :: rest =>
      if char == ']' && !quoted && !first then some ([], rest)
      else
        let named? :=
          match rest with
          | (':', false) :: name =>
              let letters := name.takeWhile (·.1.isAlpha)
              match name.drop letters.length with
              | (':', false) :: (']', false) :: after =>
                  if char == '[' && !quoted then some (String.ofList (letters.map (·.1)), after)
                  else none
              | _ => none
          | _ => none
        match named? with
        | some (name, after) =>
            (members? fuel false after).map fun (found, rest) => (.named name :: found, rest)
        | none =>
            match rest with
            | ('-', false) :: (last, lastQuoted) :: after =>
                if last == ']' && !lastQuoted then
                  (members? fuel false rest).map fun (found, rest) =>
                    (.range char char :: found, rest)
                else
                  (members? fuel false after).map fun (found, rest) =>
                    (.range char last :: found, rest)
            | _ =>
                (members? fuel false rest).map fun (found, rest) =>
                  (.range char char :: found, rest)

/-- The pattern that characters make, of which some are quoted. -/
def ofChars : Nat → List (Char × Bool) → Pattern
  | 0, _ => []
  | _ + 1, [] => []
  | fuel + 1, (char, quoted) :: rest =>
      if quoted then .char char :: ofChars fuel rest
      else
        match char with
        | '*' => .any :: ofChars fuel rest
        | '?' => .one :: ofChars fuel rest
        | '[' =>
            let negated := match rest with
              | ('!', false) :: _ | ('^', false) :: _ => true
              | _ => false
            match members? (rest.length + 1) true (if negated then rest.tail else rest) with
            | some (members, after) => .bracket negated members :: ofChars fuel after
            | none => .char '[' :: ofChars fuel rest
        | _ => .char char :: ofChars fuel rest

def ofWord (chars : List (Char × Bool)) : Pattern :=
  ofChars (chars.length + 1) chars

def covers : Pattern → Chars → Bool
  | [], [] => true
  | [], _ :: _ => false
  | .any :: rest, [] => covers rest []
  | .any :: rest, char :: chars => covers rest (char :: chars) || covers (.any :: rest) chars
  | _ :: _, [] => false
  | .one :: rest, _ :: chars => covers rest chars
  | .char wanted :: rest, char :: chars => wanted == char && covers rest chars
  | .bracket negated members :: rest, char :: chars =>
      (members.any (·.holds char) != negated) && covers rest chars
termination_by pattern chars => pattern.length + chars.length

/-- Text without the part at one end that a pattern covers: the shortest such part, or the
longest. -/
def trim (pattern : Pattern) (atEnd longest : Bool) (text : Chars) : Chars :=
  let sizes := List.range (text.length + 1)
  let sizes := if longest then sizes.reverse else sizes
  let part (size : Nat) := if atEnd then text.drop (text.length - size) else text.take size
  match sizes.find? fun size => covers pattern (part size) with
  | some size => if atEnd then text.take (text.length - size) else text.drop size
  | none => text

end Pattern

end Confinement.Shell
