import Confinement.Text.Digits

/-!
The words of a rights set. A word has its right bits at the bottom, five marker bits above them at
57 to 61 and a version in its two top bits. The marker is one-hot: it names the word of the set that
the rights belong to. A single right is a word too, marked for the word it lives in.
-/

namespace Confinement

abbrev Word := BitVec 64

namespace Word

def markerShift : Nat := 57
def versionShift : Nat := 62

/-- Everything below the marker. -/
def rightMask : Word := 0x01ffffffffffffff

def version (word : Word) : Nat :=
  (word >>> versionShift).toNat

def marker (word : Word) : Nat :=
  (word >>> markerShift &&& 0x1f).toNat

/-- The right bits of a word, without its marker and version. -/
def rightBits (word : Word) : Word :=
  word &&& rightMask

/-- The word of a set that a marker names, if it names one at all. -/
def namedIndex : Nat → Option Nat
  | 1 => some 0
  | 2 => some 1
  | 4 => some 2
  | 8 => some 3
  | 16 => some 4
  | _ => none

/-- A right word with the marker of word `index` and `bits` as they are. -/
def marked (index : Nat) (bits : Word) : Word :=
  (1 <<< (markerShift + index)) ||| bits

/-- Sixteen hexadecimal digits behind `0x`. -/
def hex (word : Word) : String :=
  String.ofList ('0' :: 'x' :: (Text.fixedDigits 16 16 word.toNat).map Text.digitChar)

theorem marker_lt (word : Word) : word.marker < 32 := by
  unfold marker
  rw [BitVec.toNat_and]
  exact Nat.lt_succ_of_le Nat.and_le_right

theorem getLsbD_rightMask (bit : Nat) : rightMask.getLsbD bit = decide (bit < 57) := by
  have shape : rightMask = (BitVec.allOnes 57).setWidth 64 := by decide
  rw [shape, BitVec.getLsbD_setWidth, BitVec.getLsbD_allOnes]
  by_cases low : bit < 57
  · simp [low, Nat.lt_trans low (by decide : 57 < 64)]
  · simp [low]

theorem getLsbD_rightBits (word : Word) (bit : Nat) :
    word.rightBits.getLsbD bit = (word.getLsbD bit && decide (bit < 57)) := by
  rw [rightBits, BitVec.getLsbD_and, getLsbD_rightMask]

end Word

end Confinement
