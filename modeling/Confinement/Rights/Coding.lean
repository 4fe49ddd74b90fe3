import Confinement.Rights.Listing

/-!
Rights sets from the words a user types: names of rights to encode as a set, or hexadecimal words to
decode as one.
-/

namespace Confinement

/-- Hexadecimal words as users type them. -/
def Word.parseHex? (text : String) : Option Word :=
  let trimmed := Text.trim text.toList
  let body :=
    match trimmed with
    | '0' :: 'x' :: rest | '0' :: 'X' :: rest => rest
    | _ => trimmed
  let spelled := body.filter (· ≠ '_')
  let digits :=
    match spelled with
    | '+' :: rest => rest
    | _ => spelled
  match digits.mapM Text.digitValue? with
  | none | some [] => none
  | some values =>
      let number := Text.ofDigits 16 values
      if number < 0x10000000000000000 then some (BitVec.ofNat 64 number) else none

inductive CodingError where
  | unknownRight (name : String)
  | invalidWord (text : String)
  | refused (reason : RightsError)
deriving DecidableEq, Repr

def CodingError.message : CodingError → String
  | .unknownRight name => "unknown right " ++ Text.quote name
  | .invalidWord text => "invalid hex word " ++ Text.quote text
  | .refused reason => reason.message

namespace RightsSet

/-- The rights of all names, or the leftmost name that is unknown. -/
def parseNames : List String → Except CodingError (List Word)
  | [] => .ok []
  | name :: names =>
      match Right.parse? name with
      | none => .error (.unknownRight name)
      | some right =>
          match parseNames names with
          | .error reason => .error reason
          | .ok rights => .ok (right :: rights)

/-- The set of the rights with the given names. -/
def encode (names : List String) : Except CodingError RightsSet :=
  match parseNames names with
  | .error reason => .error reason
  | .ok rights =>
      match ofRights rights with
      | .error reason => .error (.refused reason)
      | .ok set => .ok set

def parseWord (text : String) : Except CodingError Word :=
  match Word.parseHex? text with
  | some word => .ok word
  | none => .error (.invalidWord text)

/-- The set of one or two words, taken as they are. A second word left out is the empty set's;
texts after the second are not looked at. -/
def decode : List String → Except CodingError RightsSet
  | [] => .ok ⟨0, empty.word1⟩
  | [first] =>
      match parseWord first with
      | .error reason => .error reason
      | .ok word0 => .ok ⟨word0, empty.word1⟩
  | first :: second :: _ =>
      match parseWord first with
      | .error reason => .error reason
      | .ok word0 =>
          match parseWord second with
          | .error reason => .error reason
          | .ok word1 => .ok ⟨word0, word1⟩

end RightsSet

end Confinement
