import Confinement.Process.Duration
import Confinement.Process.Environment

/-!
How child processes are launched and how they know themselves as such. The request travels in
three environment variables: the name of a proc, its argument, and the file in which the child
records that it got as far as the body.
-/

namespace Confinement.Harness

structure Config where
  procVariable : String := "UNIXCALL_INTERNAL_PROCNAME"
  argumentVariable : String := "UNIXCALL_INTERNAL_ARG"
  markerVariable : String := "UNIXCALL_INTERNAL_DISPATCHED"
  timeout : Duration := .ofMilliseconds 60000
  /-- Whether the child is told to run the calling test alone. -/
  filterTests : Bool := true
  extraArguments : List Bytes := []
deriving DecidableEq, Repr, Inhabited

/-- What a child process is asked to do. -/
structure Request where
  name : String
  argument : Bytes
  marker : Option Bytes
deriving DecidableEq, Repr

namespace Config

/-- A test runs on a thread with its name; the main thread is no test. -/
def testName? (thread : Option String) : Option String :=
  thread.filter (· != "main")

/-- The arguments of a child launched from a thread. -/
def childArguments (config : Config) (thread : Option String) : List Bytes :=
  let only :=
    match testName? thread with
    | some name => ["--exact", name]
    | none => []
  let filter :=
    if config.filterTests then only ++ ["--nocapture", "--quiet", "--test-threads=1"] else []
  filter.map utf8 ++ config.extraArguments

/-- The request in an environment. A name is text and not empty; the argument may be left out and
the marker too. -/
def request? (config : Config) (environment : Environment) : Option Request :=
  match (environment.value? (utf8 config.procVariable)).bind Confinement.text? with
  | none => none
  | some name =>
      if name.isEmpty then none
      else
        some {
          name := name
          argument := (environment.value? (utf8 config.argumentVariable)).getD []
          marker := environment.value? (utf8 config.markerVariable) }

end Config

end Confinement.Harness
