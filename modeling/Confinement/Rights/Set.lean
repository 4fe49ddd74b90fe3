import Confinement.Rights.Word

/-!
Rights sets: two words, of which any pair of values is a set but only those with version zero and
their own markers are valid. Rights are added, removed and tested in lists, each one checked against
the set when its turn comes; whole sets are compared and combined word by word.
-/

namespace Confinement

structure RightsSet where
  word0 : Word
  word1 : Word
deriving DecidableEq, Repr

inductive RightsError where
  | badVersion (version : Nat)
  | badSize (size : Nat)
  | badRightVersion (right : Word)
  | indexOutOfRange (right : Word)
  | indexOverflow (right : Word) (size : Nat)
  | indexMismatch (right : Word)
  | malformed (word0 word1 : Word)
  | notCapable
deriving DecidableEq, Repr

namespace RightsSet

/-- Number of words a set holds. -/
def wordCount : Nat := 2

/-- The valid set without a right. -/
def empty : RightsSet :=
  ⟨Word.marked 0 0, Word.marked 1 0⟩

instance : Inhabited RightsSet := ⟨empty⟩

def word (set : RightsSet) : Fin 2 → Word
  | 0 => set.word0
  | 1 => set.word1

def modify (set : RightsSet) (index : Fin 2) (change : Word → Word) : RightsSet :=
  match index with
  | 0 => { set with word0 := change set.word0 }
  | 1 => { set with word1 := change set.word1 }

/-- The version of a set stands in its first word. -/
def version (set : RightsSet) : Nat :=
  set.word0.version

/-- Number of words that a set's version calls for. -/
def arraySize (set : RightsSet) : Nat :=
  set.version + 2

/-- Refuses a set of another version or size before any right is looked at. -/
def checkVersion (set : RightsSet) : Except RightsError Unit :=
  if set.version ≠ 0 then .error (.badVersion set.version)
  else if set.arraySize ≠ wordCount then .error (.badSize set.arraySize)
  else .ok ()

/-- The word of the set that a right belongs to. The right needs version zero and a marker that
names a word of the set, and that word has to carry the same marker. -/
def locate (set : RightsSet) (right : Word) : Except RightsError (Fin 2) :=
  if right.version ≠ 0 then .error (.badRightVersion right)
  else
    match Word.namedIndex right.marker with
    | none => .error (.indexOutOfRange right)
    | some index =>
        if inside : index < wordCount then
          if (set.word ⟨index, inside⟩).marker ≠ right.marker then .error (.indexMismatch right)
          else .ok ⟨index, inside⟩
        else .error (.indexOverflow right wordCount)

/-- Changes the words that the rights belong to, one right after another. The first right refused
ends it; the changes before it stay. -/
def changeEach (change : Word → Word → Word) (set : RightsSet) :
    List Word → RightsSet × Except RightsError Unit
  | [] => (set, .ok ())
  | right :: rights =>
      match set.locate right with
      | .error reason => (set, .error reason)
      | .ok index => changeEach change (set.modify index (change right)) rights

/-- Rights are added with their markers, which the words already carry. -/
def added (right word : Word) : Word :=
  word ||| right

/-- A right is removed without its marker. -/
def removed (right word : Word) : Word :=
  word &&& ~~~right.rightBits

def edit (change : Word → Word → Word) (set : RightsSet) (rights : List Word) :
    RightsSet × Except RightsError Unit :=
  match set.checkVersion with
  | .error reason => (set, .error reason)
  | .ok () => changeEach change set rights

/-- Adds rights; after an error the set holds the rights before the one refused. -/
def insertAll (set : RightsSet) (rights : List Word) : RightsSet × Except RightsError Unit :=
  edit added set rights

/-- Removes rights; after an error the set lacks the rights before the one refused. -/
def eraseAll (set : RightsSet) (rights : List Word) : RightsSet × Except RightsError Unit :=
  edit removed set rights

/-- The set of the given rights alone. -/
def ofRights (rights : List Word) : Except RightsError RightsSet :=
  match empty.insertAll rights with
  | (set, .ok ()) => .ok set
  | (_, .error reason) => .error reason

/-- Whether a word has all bits of another. -/
def covers (word other : Word) : Bool :=
  word &&& other == other

/-- Tests rights from the left until one is refused or absent. -/
def holdsEach (set : RightsSet) : List Word → Except RightsError Bool
  | [] => .ok true
  | right :: rights =>
      match set.locate right with
      | .error reason => .error reason
      | .ok index => if covers (set.word index) right then holdsEach set rights else .ok false

/-- Whether all bits of every right are in the set. -/
def holdsAll (set : RightsSet) (rights : List Word) : Except RightsError Bool :=
  match set.checkVersion with
  | .error reason => .error reason
  | .ok () => holdsEach set rights

/-- Whether one right is in the set; a right the set refuses is not. -/
def holds (set : RightsSet) (right : Word) : Bool :=
  match set.holdsAll [right] with
  | .ok answer => answer
  | .error _ => false

/-- Version zero in both words, and in each word its own marker. -/
def isValid (set : RightsSet) : Bool :=
  set.version == 0 && set.arraySize == wordCount && set.word1.version == 0 &&
    set.word0.marker == 1 && set.word1.marker == 2

/-- No right bit is set; the markers do not count. -/
def isEmpty (set : RightsSet) : Bool :=
  set.word0.rightBits == 0 && set.word1.rightBits == 0

/-- Whether a set has all bits of another, markers and versions included. -/
def contains (set other : RightsSet) : Bool :=
  covers set.word0 other.word0 && covers set.word1 other.word1

/-- Adds the right bits of another set. -/
def union (set other : RightsSet) : RightsSet :=
  ⟨set.word0 ||| other.word0.rightBits, set.word1 ||| other.word1.rightBits⟩

/-- Removes the right bits of another set. -/
def difference (set other : RightsSet) : RightsSet :=
  ⟨removed other.word0 set.word0, removed other.word1 set.word1⟩

/-- Replaces a set by a valid one that it contains. -/
def narrow (set requested : RightsSet) : Except RightsError RightsSet :=
  if requested.version ≠ 0 then .error (.badVersion requested.version)
  else if !requested.isValid then .error (.malformed requested.word0 requested.word1)
  else if !set.contains requested then .error .notCapable
  else .ok requested

theorem word_modify (set : RightsSet) (index other : Fin 2) (change : Word → Word) :
    (set.modify index change).word other =
      if other = index then change (set.word other) else set.word other := by
  match index, other with
  | 0, 0 => rfl
  | 0, 1 => rfl
  | 1, 0 => rfl
  | 1, 1 => rfl

theorem checkVersion_eq (set : RightsSet) :
    set.checkVersion =
      if set.version = 0 then .ok () else .error (.badVersion set.version) := by
  unfold checkVersion arraySize wordCount
  by_cases zero : set.version = 0 <;> simp [zero]

theorem isValid_empty : empty.isValid = true := by decide

theorem isEmpty_empty : empty.isEmpty = true := by decide

end RightsSet

namespace RightsError

open Text (decimal)

def message : RightsError → String
  | .badVersion version => "bad rights version " ++ String.ofList (decimal version)
  | .badSize size => "bad rights size " ++ String.ofList (decimal size)
  | .badRightVersion right => "bad right version in " ++ right.hex
  | .indexOutOfRange right => "index for right " ++ right.hex ++ " out of range"
  | .indexOverflow right size =>
      "index of right " ++ right.hex ++ " overflows a rights set of " ++
        String.ofList (decimal size) ++ " words"
  | .indexMismatch right => "index mismatch for right " ++ right.hex
  | .malformed word0 word1 =>
      "malformed rights set [" ++ word0.hex ++ ", " ++ word1.hex ++ "]"
  | .notCapable => "requested rights are not a subset of the current rights"

/-- The name of an error's kind, as its report begins. -/
def kind : RightsError → String
  | .badVersion _ => "BadVersion"
  | .badSize _ => "BadSize"
  | .badRightVersion _ => "BadRightVersion"
  | .indexOutOfRange _ => "IndexOutOfRange"
  | .indexOverflow _ _ => "IndexOverflow"
  | .indexMismatch _ => "IndexMismatch"
  | .malformed _ _ => "Malformed"
  | .notCapable => "NotCapable"

/-- The kind of an error with its numbers in decimal. -/
def inspect (error : RightsError) : String :=
  let number (value : Nat) := String.ofList (decimal value)
  match error with
  | .badVersion value | .badSize value => error.kind ++ "(" ++ number value ++ ")"
  | .badRightVersion right | .indexOutOfRange right | .indexMismatch right =>
      error.kind ++ "(" ++ number right.toNat ++ ")"
  | .indexOverflow right size =>
      error.kind ++ " \x7b right: " ++ number right.toNat ++ ", size: " ++ number size ++ " \x7d"
  | .malformed word0 word1 =>
      error.kind ++ "(" ++ number word0.toNat ++ ", " ++ number word1.toNat ++ ")"
  | .notCapable => error.kind

end RightsError

end Confinement
