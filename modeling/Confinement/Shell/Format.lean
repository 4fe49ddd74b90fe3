import Confinement.Shell.Arithmetic
import Confinement.Shell.Fraction

/-!
Formatted output: text with escapes, and formats whose directives are filled in from a list of
arguments, as often as there are arguments left.
-/

namespace Confinement.Shell.Format

def isOctal (char : Char) : Bool :=
  '0' ≤ char && char ≤ '7'

/-- The character with the number that octal digits tell, in one byte. -/
def ofOctal (digits : Chars) : Char :=
  Char.ofNat (Text.ofDigits 8 (digits.filterMap Text.digitValue?) % 256)

def escapeOf? : Char → Option Char
  | 'a' => some '\x07'
  | 'b' => some '\x08'
  | 'f' => some '\x0c'
  | 'n' => some '\n'
  | 'r' => some '\r'
  | 't' => some '\t'
  | 'v' => some '\x0b'
  | '\\' => some '\\'
  | _ => none

/-- Text with its escapes replaced, and whether one of them ends all output. -/
def unescaped : Nat → Chars → Chars × Bool
  | 0, _ => ([], false)
  | _ + 1, [] => ([], false)
  | fuel + 1, '\\' :: char :: rest =>
      if char == 'c' then ([], true)
      else
        let (replaced, rest) :=
          match escapeOf? char with
          | some replacement => ([replacement], rest)
          | none =>
              let digits := (rest.takeWhile isOctal).take 3
              if char == '0' then ([ofOctal digits], rest.drop digits.length)
              else if isOctal char then
                let digits := (char :: rest.takeWhile isOctal).take 3
                ([ofOctal digits], rest.drop (digits.length - 1))
              else (['\\', char], rest)
        let (later, ends) := unescaped fuel rest
        (replaced ++ later, ends)
  | fuel + 1, char :: rest =>
      let (later, ends) := unescaped fuel rest
      (char :: later, ends)

def unescape (text : Chars) : Chars × Bool :=
  unescaped (text.length + 1) text

/-- Arguments with blanks between them, up to an escape that ends all output. -/
def echoed : List Chars → Chars × Bool
  | [] => ([], false)
  | argument :: rest =>
      match unescape argument with
      | (text, true) => (text, true)
      | (text, false) =>
          match rest with
          | [] => (text, false)
          | rest =>
              let (later, ends) := echoed rest
              (text ++ ' ' :: later, ends)

/-- What a shell's `echo` writes. -/
def echo (arguments : List Chars) : Chars :=
  let (lineEnd, arguments) := match arguments with
    | ['-', 'n'] :: rest => ([], rest)
    | arguments => (['\n'], arguments)
  match echoed arguments with
  | (text, true) => text
  | (text, false) => text ++ lineEnd

structure Directive where
  /-- How the directive is written. -/
  source : Chars := ['%']
  left : Bool := false
  zeros : Bool := false
  plus : Bool := false
  blank : Bool := false
  alternate : Bool := false
  width : Nat := 0
  precision : Option Nat := none
deriving DecidableEq, Repr

/-- What has come of a format so far. -/
structure Result where
  output : Chars := []
  complaints : List String := []
  arguments : List Chars
  consumed : Bool := false
  ended : Bool := false
  /-- The format makes no sense. -/
  failed : Bool := false

def padded (directive : Directive) (text : Chars) : Chars :=
  let fill := List.replicate (directive.width - text.length) ' '
  if directive.left then text ++ fill else fill ++ text

/-- A number with its sign and as many digits as are asked for. -/
def paddedNumber (directive : Directive) (sign digits : Chars) : Chars :=
  let least := match directive.precision with
    | some precision => precision
    | none =>
        if directive.zeros && !directive.left then directive.width - sign.length else 0
  padded directive (sign ++ List.replicate (least - digits.length) '0' ++ digits)

/-- What is wrong about an argument that should be a number, if anything is: `length` is how much
of it, a blank front and a sign left out, is a number, and `rest` how much is not. -/
def flaw? (argument : Chars) (length rest : Nat) (inRange : Bool) : Option String :=
  if argument.isEmpty then none
  else if length = 0 then some (String.ofList argument ++ ": expected numeric value")
  else if rest ≠ 0 then some (String.ofList argument ++ ": not completely converted")
  else if inRange then none
  else some (String.ofList argument ++ ": Numerical result out of range")

/-- An argument without a blank front and a sign, and whether the sign is a minus. -/
def unsigned (argument : Chars) : Bool × Chars :=
  match argument.dropWhile fun char => " \t\n\x0b\x0c\r".toList.contains char with
  | '-' :: rest => (true, rest)
  | '+' :: rest => (false, rest)
  | rest => (false, rest)

/-- The number of the character that an argument names behind a quote. -/
def quoted? : Chars → Option Nat
  | '"' :: rest | '\x27' :: rest => some (rest.headD '\x00').toNat
  | _ => none

/-- The number that an argument stands for, with what is wrong about it. -/
def integerOf (argument : Chars) : Int × Option String :=
  match quoted? argument with
  | some number => (number, none)
  | none =>
      let (negative, digits) := unsigned argument
      let (size, length) := Arithmetic.leadingNumber digits
      let value : Int := if negative then -size else size
      let clamped := Arithmetic.clamped value
      (clamped, flaw? argument length (digits.length - length) (clamped == value))

/-- The same for a word of 64 bits, in which a number below zero wraps around. -/
def wordOf (argument : Chars) : Nat × Option String :=
  match quoted? argument with
  | some number => (number, none)
  | none =>
      let (negative, digits) := unsigned argument
      let (size, length) := Arithmetic.leadingNumber digits
      let inRange := size < 0x10000000000000000
      let value := if !inRange then 0xffffffffffffffff
        else if negative then (BitVec.ofInt 64 (-size)).toNat
        else size
      (value, flaw? argument length (digits.length - length) inRange)

/-- Takes an argument for a directive. -/
def Result.next (result : Result) : Chars × Result :=
  (result.arguments.head?.getD [], { result with
    arguments := result.arguments.tail
    consumed := result.consumed || !result.arguments.isEmpty })

def Result.complain (result : Result) (complaint : Option String) : Result :=
  { result with complaints := result.complaints ++ complaint.toList }

def flags (directive : Directive) : Chars → Directive × Chars
  | '-' :: rest => flags { directive with left := true, source := directive.source ++ ['-'] } rest
  | '0' :: rest => flags { directive with zeros := true, source := directive.source ++ ['0'] } rest
  | '+' :: rest => flags { directive with plus := true, source := directive.source ++ ['+'] } rest
  | ' ' :: rest => flags { directive with blank := true, source := directive.source ++ [' '] } rest
  | '#' :: rest =>
      flags { directive with alternate := true, source := directive.source ++ ['#'] } rest
  | rest => (directive, rest)

/-- A size in a directive: digits, or a star in place of which an argument stands. -/
def size (result : Result) : Chars → Int × Chars × Chars × Result
  | '*' :: rest =>
      let (argument, result) := result.next
      let (value, flaw) := integerOf argument
      ((BitVec.ofInt 32 value).toInt, ['*'], rest, result.complain flaw)
  | rest =>
      let digits := rest.takeWhile Char.isDigit
      (Text.ofDigits 10 (digits.filterMap Text.digitValue?), digits, rest.drop digits.length,
        result)

/-- The directive after a percent sign, up to its last character, with what follows it. -/
def directive (result : Result) (format : Chars) : Directive × Chars × Result :=
  let (found, rest) := flags {} format
  let (width, source, rest, result) := size result rest
  let found := { found with
    width := width.natAbs
    left := found.left || width < 0
    source := found.source ++ source }
  match rest with
  | '.' :: rest =>
      let (precision, source, rest, result) := size result rest
      ({ found with
        precision := if precision < 0 then none else some precision.toNat
        source := found.source ++ '.' :: source }, rest, result)
  | rest => (found, rest, result)

/-- The number with a fraction that an argument stands for, with its sign and what is wrong about
it. -/
def fractionOf (argument : Chars) : Bool × Fraction × Option String :=
  match quoted? argument with
  | some number => (false, .finite number 1, none)
  | none =>
      let (negative, digits) := unsigned argument
      let ((value, inRange), length) := Fraction.leading digits
      (negative && length ≠ 0, value, flaw? argument length (digits.length - length) inRange)

/-- A number with a fraction, filled up to the width. -/
def paddedFraction (directive : Directive) (sign : Chars) (letter : Char) (value : Fraction) :
    Chars :=
  let text := value.text letter directive.alternate (directive.precision.getD 6)
  let isFinite := match value with
    | .finite _ _ => true
    | _ => false
  let least := if directive.zeros && !directive.left && isFinite then
    directive.width - sign.length else 0
  padded directive (sign ++ List.replicate (least - text.length) '0' ++ text)

/-- Fills in one directive. -/
def fill (directive : Directive) (conversion : Char) (result : Result) : Result :=
  let (argument, taken) := result.next
  let add (text : Chars) (complaint : Option String) : Result :=
    { taken.complain complaint with output := taken.output ++ text }
  let cut (text : Chars) : Chars := match directive.precision with
    | some precision => text.take precision
    | none => text
  let word (radix : Nat) (mark : Chars) (shape : Char → Char) : Result :=
    let (value, flaw) := wordOf argument
    let digits := (Text.digits radix value).map fun digit => shape (Text.digitChar digit)
    let digits := if value = 0 && directive.precision == some 0 then [] else digits
    let sign := if directive.alternate && value != 0 then mark else []
    add (paddedNumber directive sign digits) flaw
  let signed (negative : Bool) : Chars :=
    if negative then ['-'] else if directive.plus then ['+']
    else if directive.blank then [' '] else []
  match conversion with
  | 's' => add (padded directive (cut argument)) none
  | 'c' => add (padded directive [argument.headD '\x00']) none
  | 'b' =>
      let (text, ends) := unescape argument
      { add (padded directive (cut text)) none with ended := ends }
  | 'd' | 'i' =>
      let (value, flaw) := integerOf argument
      let digits := if value = 0 && directive.precision == some 0 then []
        else Text.decimal value.natAbs
      add (paddedNumber directive (signed (value < 0)) digits) flaw
  | 'u' => word 10 [] id
  | 'o' => word 8 ['0'] id
  | 'x' => word 16 ['0', 'x'] id
  | 'X' => word 16 ['0', 'X'] Char.toUpper
  | 'e' | 'f' | 'g' =>
      let (negative, value, flaw) := fractionOf argument
      add (paddedFraction directive (signed negative) conversion value) flaw
  | 'E' | 'F' | 'G' =>
      let (negative, value, flaw) := fractionOf argument
      let text := paddedFraction directive (signed negative) conversion.toLower value
      add (text.map Char.toUpper) flaw
  | _ =>
      let written := String.ofList (directive.source ++ [conversion])
      { result.complain (some (written ++ ": invalid directive")) with
        ended := true
        failed := true }

/-- Goes through a format once. -/
def once : Nat → Chars → Result → Result
  | 0, _, result => result
  | _ + 1, [], result => result
  | fuel + 1, '%' :: '%' :: rest, result =>
      once fuel rest { result with output := result.output ++ ['%'] }
  | fuel + 1, '%' :: rest, result =>
      match directive result rest with
      | (_, [], result) =>
          { result.complain (some "missing format character") with
            ended := true
            failed := true }
      | (found, conversion :: rest, result) =>
          let result := fill found conversion result
          if result.ended then result else once fuel rest result
  | fuel + 1, '\\' :: char :: rest, result =>
      let (replaced, rest) :=
        match escapeOf? char with
        | some replacement => ([replacement], rest)
        | none =>
            if isOctal char then
              let digits := (char :: rest.takeWhile isOctal).take 3
              ([ofOctal digits], rest.drop (digits.length - 1))
            else (['\\', char], rest)
      once fuel rest { result with output := result.output ++ replaced }
  | fuel + 1, char :: rest, result =>
      once fuel rest { result with output := result.output ++ [char] }

/-- Goes through a format until no argument is left. -/
def repeated (format : Chars) : Nat → Result → Result
  | 0, result => result
  | fuel + 1, result =>
      let result := once (format.length + 1) format { result with consumed := false }
      if result.ended || result.arguments.isEmpty || !result.consumed then result
      else repeated format fuel result

def apply (format : Chars) (arguments : List Chars) : Result :=
  repeated format (arguments.length + 1) { arguments := arguments }

end Confinement.Shell.Format
