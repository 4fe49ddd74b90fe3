import Confinement.Text.Digits
import Confinement.Text.Quoted

/-!
Kernel releases. Each component between dots counts with its leading digits alone, so that a suffix
such as `-generic` does no harm.
-/

namespace Confinement

structure Release where
  major : Nat
  minor : Nat
  patch : Nat
deriving DecidableEq, Repr

/-- No release could be read from the text. -/
structure ReleaseUnreadable where
  text : String
deriving DecidableEq, Repr

def ReleaseUnreadable.message (error : ReleaseUnreadable) : String :=
  "failed to parse kernel release " ++ Text.quote error.text

namespace Release

/-- The parts of a text between dots. -/
def components : List Char → List (List Char)
  | [] => [[]]
  | c :: rest =>
      if c = '.' then [] :: components rest
      else
        match components rest with
        | [] => [[c]]
        | first :: others => (c :: first) :: others

/-- The number that the leading digits of a text spell, if it fits 32 bits. -/
def leadingNumber (text : List Char) : Option Nat :=
  match text.takeWhile Char.isDigit with
  | [] => none
  | digits =>
      let number := Text.ofDigits 10 (digits.map fun c => c.toNat - '0'.toNat)
      if number < 0x100000000 then some number else none

/-- Reads major and minor, and a patch where there is one. -/
def parse (text : String) : Except ReleaseUnreadable Release :=
  match components text.toList with
  | major :: minor :: rest =>
      match leadingNumber major, leadingNumber minor with
      | some major, some minor =>
          let patch := rest.head?.bind leadingNumber
          .ok ⟨major, minor, patch.getD 0⟩
      | _, _ => .error ⟨text⟩
  | _ => .error ⟨text⟩

def render (release : Release) : String :=
  String.ofList (Text.decimal release.major ++ '.' :: Text.decimal release.minor ++
    '.' :: Text.decimal release.patch)

end Release

end Confinement
