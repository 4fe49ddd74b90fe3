import Confinement.Rights.Coding
import Confinement.System.Info

/-!
The command line: what its words ask for and what is printed in answer. Words are options as long as
they begin with a hyphen and no `--` has come before them.
-/

namespace Confinement.CommandLine

inductive Request where
  | version
  | info
  | encode (names : List String)
  | decode (words : List String)
deriving DecidableEq, Repr

/-- A lone hyphen is a word like any other. -/
def isOption (word : String) : Bool :=
  match word.toList with
  | '-' :: _ :: _ => true
  | _ => false

/-- The words of a command that takes no option, or nothing if there is one among them. -/
def plainWords? : List String → Option (List String)
  | [] => some []
  | "--" :: rest => some rest
  | word :: rest =>
      if isOption word then none else (plainWords? rest).map (word :: ·)

/-- What an option before any command asks for. A short one may have others run on behind it. -/
def topOption? (word : String) : Option Request :=
  match word.toList with
  | '-' :: 'V' :: _ => some .version
  | _ => if word = "--version" then some .version else none

def parseRights : List String → Option Request
  | "encode" :: words =>
      match plainWords? words with
      | none | some [] => none
      | some names => some (.encode names)
  | "decode" :: words =>
      match plainWords? words with
      | some [first] => some (.decode [first])
      | some [first, second] => some (.decode [first, second])
      | _ => none
  | _ => none

/-- What the words ask for, if they make sense. -/
def parse : List String → Option Request
  | "info" :: words =>
      match plainWords? words with
      | some [] => some .info
      | _ => none
  | "rights" :: words => parseRights words
  | word :: _ => topOption? word
  | [] => none

/-- What a run prints, line by line on the error stream, and the status it exits with. -/
structure Output where
  exit : Nat
  stdout : String := ""
  stderr : List String := []
deriving DecidableEq, Repr

def lines (texts : List String) : String :=
  String.join (texts.map (· ++ "\n"))

/-- A failure with its cause as a report shows it. -/
def failed (cause : String) : Output :=
  { exit := 1, stderr := ["Error: " ++ cause] }

/-- A message is quoted, and a refusal shows its kind. -/
def inspectCause : CodingError → String
  | .refused reason => reason.inspect
  | reason => Text.quote reason.message

/-- The complaint about words that make no sense. -/
def misused : Output :=
  { exit := 2
    stderr := ["usage: unixcall info | rights encode NAME... | rights decode WORD [WORD]"] }

def warning (set : RightsSet) : String :=
  "WARN unixcall: decoded set is not a valid rights set rights=" ++ set.inspect

def encoded (names : List String) : Output :=
  match RightsSet.encode names with
  | .error reason => failed (inspectCause reason)
  | .ok set =>
      { exit := 0, stdout := lines [set.word0.hex ++ " " ++ set.word1.hex, set.display] }

def decoded (words : List String) : Output :=
  match RightsSet.decode words with
  | .error reason => failed (inspectCause reason)
  | .ok set =>
      { exit := 0
        stdout := lines [set.display]
        stderr := if set.isValid then [] else [warning set] }

def reported (check : Except ReleaseUnreadable SystemInfo) (report : SystemInfo → List String) :
    Output :=
  match check with
  | .error reason => failed ("ReleaseUnreadable(" ++ Text.quote reason.text ++ ")")
  | .ok info => { exit := 0, stdout := lines (report info) }

/-- Answers a request on a system that has been probed. -/
def answer (check : Except ReleaseUnreadable SystemInfo) : Request → Output
  | .version => { exit := 0, stdout := "unixcall 0.1.0\n" }
  | .info => reported check SystemInfo.report
  | .encode names => encoded names
  | .decode words => decoded words

/-- Runs the program with its words. -/
def run (check : Except ReleaseUnreadable SystemInfo) (words : List String) : Output :=
  match parse words with
  | none => misused
  | some request => answer check request

end Confinement.CommandLine
