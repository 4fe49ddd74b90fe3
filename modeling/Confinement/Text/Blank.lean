/-!
Blank characters and trimming. A text is trimmed at both ends of every character with the Unicode
property White_Space, which is wider than the ASCII blanks of `Char.isWhitespace`.
-/

namespace Confinement.Text

/-- The 25 code points with the property White_Space. -/
def isBlank (c : Char) : Bool :=
  let n := c.toNat
  (0x9 ≤ n && n ≤ 0xd) || n == 0x20 || n == 0x85 || n == 0xa0 || n == 0x1680 ||
    (0x2000 ≤ n && n ≤ 0x200a) || n == 0x2028 || n == 0x2029 || n == 0x202f ||
    n == 0x205f || n == 0x3000

def trimLeft (text : List Char) : List Char :=
  text.dropWhile isBlank

def trimRight (text : List Char) : List Char :=
  (text.reverse.dropWhile isBlank).reverse

def trim (text : List Char) : List Char :=
  trimRight (trimLeft text)

/-- The text after `head`, if it begins with it. -/
def afterHead? (head text : List Char) : Option (List Char) :=
  if head.isPrefixOf text then some (text.drop head.length) else none

theorem afterHead?_append (head text : List Char) :
    afterHead? head (head ++ text) = some text := by
  simp [afterHead?, List.isPrefixOf_iff_prefix]

theorem eq_append_of_afterHead? {head text rest : List Char}
    (found : afterHead? head text = some rest) : text = head ++ rest := by
  unfold afterHead? at found
  split at found
  · rename_i begins
    obtain ⟨tail, rfl⟩ := List.isPrefixOf_iff_prefix.mp begins
    simpa using found
  · cases found

end Confinement.Text
