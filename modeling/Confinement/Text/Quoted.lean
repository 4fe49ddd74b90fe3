import Confinement.Text.Digits
import Confinement.Text.Hidden

/-!
Quoted text: double quotes around the characters, a backslash before a quote or a backslash, short
escapes for the commonest controls, and a code point in braces for every other hidden character.
-/

namespace Confinement.Text

/-- How one character stands between the quotes. -/
def escape (c : Char) : List Char :=
  if c = '\x00' then ['\\', '0']
  else if c = '\t' then ['\\', 't']
  else if c = '\r' then ['\\', 'r']
  else if c = '\n' then ['\\', 'n']
  else if c = '"' ∨ c = '\\' then ['\\', c]
  else if isHidden c then "\\u\x7b".toList ++ hexadecimal c.toNat ++ ['\x7d']
  else [c]

def quote (text : String) : String :=
  String.ofList ('"' :: text.toList.flatMap escape ++ ['"'])

end Confinement.Text
