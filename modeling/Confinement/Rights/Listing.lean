import Confinement.Rights.Named
import Confinement.Text.Quoted

/-!
Rights sets as text: the primitive rights that a set holds, in the order of their table, and the two
reports that show the words beside the names.
-/

namespace Confinement.RightsSet

/-- Names of the primitive rights in the set. -/
def names (set : RightsSet) : List String :=
  (Right.primitives.filter fun entry => set.holds entry.2).map (·.1)

/-- The names between bars. A set that holds no primitive right shows as `(none)`. -/
def display (set : RightsSet) : String :=
  match set.names with
  | [] => "(none)"
  | names => "|".intercalate names

private def hexPair (set : RightsSet) : String :=
  "[" ++ set.word0.hex ++ ", " ++ set.word1.hex ++ "]"

/-- Words and names on one line. -/
def inspect (set : RightsSet) : String :=
  "CapRights \x7b words: " ++ set.hexPair ++ ", names: [" ++
    ", ".intercalate (set.names.map Text.quote) ++ "] \x7d"

/-- Words and names with a line for each field and each name. -/
def inspectLines (set : RightsSet) : String :=
  let names :=
    match set.names with
    | [] => "[]"
    | names =>
        let lines := names.map fun name => "        " ++ Text.quote name ++ ",\n"
        "[\n" ++ String.join lines ++ "    ]"
  "CapRights \x7b\n    words: " ++ set.hexPair ++ ",\n    names: " ++ names ++ ",\n\x7d"

end Confinement.RightsSet
