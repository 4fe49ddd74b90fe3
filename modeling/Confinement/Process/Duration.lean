import Confinement.Text.Digits

/-!
Spans of time, shown in the largest unit that leaves a whole part, with as many decimals as they
need.
-/

namespace Confinement

structure Duration where
  nanoseconds : Nat
deriving DecidableEq, Repr, Inhabited

namespace Duration

def ofSeconds (seconds nanoseconds : Nat) : Duration :=
  ⟨seconds * 1000000000 + nanoseconds⟩

def ofMilliseconds (milliseconds : Nat) : Duration :=
  ⟨milliseconds * 1000000⟩

def milliseconds (duration : Duration) : Nat :=
  duration.nanoseconds / 1000000

/-- A number with `places` decimals, of which zeros at the end are left out. -/
def withDecimals (places number : Nat) : List Char :=
  let fraction :=
    ((Text.fixedDigits 10 places number).reverse.dropWhile (· == 0)).reverse.map Text.digitChar
  Text.decimal (number / Nat.pow 10 places) ++ if fraction = [] then [] else '.' :: fraction

def text (duration : Duration) : String :=
  let n := duration.nanoseconds
  String.ofList <|
    if 1000000000 ≤ n then withDecimals 9 n ++ ['s']
    else if 1000000 ≤ n then withDecimals 6 n ++ ['m', 's']
    else if 1000 ≤ n then withDecimals 3 n ++ ['µ', 's']
    else withDecimals 0 n ++ ['n', 's']

end Duration

end Confinement
