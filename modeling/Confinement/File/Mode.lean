/-!
Permissions in words, such as `u=rwx,go-w`: classes of users, a sign and permissions, which are
added to those that there are, taken away from them or put in their place.
-/

namespace Confinement.File.Mode

/-- The permissions of a mode, without its other marks. -/
def all : Nat := 0o777

def without (mode permissions : Nat) : Nat :=
  mode &&& (all ^^^ (permissions &&& all))

/-- The last permission of each of the classes that a letter stands for. -/
def class? : Char → Option Nat
  | 'u' => some 0o100
  | 'g' => some 0o010
  | 'o' => some 0o001
  | 'a' => some 0o111
  | _ => none

/-- The permissions of one class that a letter stands for in a file that has `mode`. -/
def permission? (mode : Nat) : Char → Option Nat
  | 'r' => some 4
  | 'w' => some 2
  | 'x' => some 1
  | 'X' => some (if mode &&& 0o111 = 0 then 0 else 1)
  | 's' => some 0
  | 'u' => some (mode / 64 % 8)
  | 'g' => some (mode / 8 % 8)
  | 'o' => some (mode % 8)
  | _ => none

/-- Changes `mode` for some classes by signs and permissions, whose letters mean what they did in
the mode `old` before all changes. -/
def act? (old classes : Nat) : Option Char → Nat → List Char → Option Nat
  | _, mode, [] => some mode
  | sign?, mode, char :: rest =>
      if char = '=' then act? old classes (some char) (without mode (classes * 7)) rest
      else if char = '+' || char = '-' then act? old classes (some char) mode rest
      else
        match sign?, permission? old char with
        | some sign, some permission =>
            let permissions := classes * permission
            act? old classes sign?
              (if sign = '-' then without mode permissions else mode ||| permissions) rest
        | _, _ => none

/-- Changes a mode by clauses. Only the last may do without a sign. -/
def changeAll? (old : Nat) : Nat → List (List Char) → Option Nat
  | mode, [] => some mode
  | mode, clause :: rest =>
      let letters := clause.takeWhile fun char => (class? char).isSome
      let classes := (letters.filterMap class?).foldl (· ||| ·) 0
      let changes := clause.drop letters.length
      if changes.isEmpty && !rest.isEmpty then none
      else
        match act? old (if classes = 0 then 0o111 else classes) none mode changes with
        | some mode => changeAll? old mode rest
        | none => none

/-- Changes a mode as a text says, with commas between its clauses. -/
def change? (mode : Nat) (text : List Char) : Option Nat :=
  changeAll? mode mode (text.splitOn ',')

/-- The permissions of each class in words. -/
def inWords (mode : Nat) : List Char :=
  let letters (permissions : Nat) : List Char :=
    (if permissions &&& 4 = 0 then [] else ['r']) ++
      (if permissions &&& 2 = 0 then [] else ['w']) ++
      (if permissions &&& 1 = 0 then [] else ['x'])
  "u=".toList ++ letters (mode / 64 % 8) ++ ",g=".toList ++ letters (mode / 8 % 8) ++
    ",o=".toList ++ letters (mode % 8)

end Confinement.File.Mode
