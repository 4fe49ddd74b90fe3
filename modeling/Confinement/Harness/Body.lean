import Confinement.File.Store
import Confinement.File.Tree
import Confinement.Harness.Outcome
import Confinement.Process.Signal
import Confinement.Process.WaitStatus
import Confinement.Shell.Evaluation

/-!
Bodies of procs as lists of actions, and what running one does: text on the error stream, time
spent, files changed, and one of three ends. A body may return, end its process, or stop for good.
-/

namespace Confinement.Harness

/-- What running something comes to. -/
inductive Run (α : Type) where
  | returned (value : α)
  | ended (status : WaitStatus)
  | stopped
deriving DecidableEq, Repr

/-- What a child process changes: files, the time since its start in milliseconds, and the error
stream with the time of each text. -/
structure Scene where
  files : File.Store
  elapsed : Nat := 0
  errors : List (Nat × String) := []
  /-- Fault signals whose first arrival has taken away the handler that let the process live. -/
  faults : List Nat := []

namespace Scene

def say (scene : Scene) (text : String) : Scene :=
  { scene with errors := scene.errors ++ [(scene.elapsed, text)] }

/-- The text on the error stream at the moment a process is killed, which took its time to start. -/
def errorTextAt (scene : Scene) (startup time : Nat) : String :=
  String.join ((scene.errors.filter fun entry => startup + entry.1 ≤ time).map (·.2))

def errorText (scene : Scene) : String :=
  String.join (scene.errors.map (·.2))

end Scene

inductive Action where
  | succeed
  | fail (message : String)
  | check (result : Except Errno Nat) (what : String)
  | expectErrno (result : Except IoError Unit) (wanted : Errno) (what : String)
  | execute (path : Bytes) (arguments environment : List String)
  | exit (code : Int)
  | signal (number : Int)
  | sleep (milliseconds : Nat)
  | say (text : String)
  | sayArgument (label : String)
  | removeMarker
  | writeMarker (contents : Bytes)

/-- What a body finds around it: its argument, its marker file and the files of the system. -/
structure Surroundings where
  argument : Bytes
  marker : Option Bytes
  system : File.Tree
  workingDirectory : Nat := 0

/-- Replaces the process image: the program at a path takes over, unless a string has NUL in it,
there is no such program, or its strings are too long. -/
def execute (system : File.Tree) (workingDirectory : Nat) (path : Bytes)
    (arguments environment : List String) : Except Errno Program :=
  if path.contains 0 || (arguments ++ environment).any (·.contains '\x00') then .error .invalid
  else
    match system.program workingDirectory path with
    | .error errno => .error errno
    | .ok program =>
        if Program.areTooLong ((arguments ++ environment).map (·.utf8ByteSize)) then
          .error .argumentsTooLong
        else .ok program

/-- What a signal does to the process of a body. -/
inductive SignalEffect where
  | none
  | fault
  | stop
  | kill
deriving DecidableEq, Repr

/-- A broken pipe is ignored from the start, and the two signals that threads use among themselves
are not sent; a fault is looked into before it kills. -/
def signalEffect (number : Int) : SignalEffect :=
  if number ≤ 0 || number ∈ [13, 32, 33] then .none
  else if number ∈ [7, 11] then .fault
  else
    match Signal.effect number.toNat with
    | .none => .none
    | .stop => .stop
    | .kill => .kill

/-- Fails the process with a message. -/
def failWith (scene : Scene) (message : String) : Run Unit × Scene :=
  (.ended (.exited 1), scene.say (message ++ "\n"))

/-- What a program that took the place of the process leaves behind. -/
def replaced (scene : Scene) (outcome : Shell.Outcome) : Run Unit × Scene :=
  let scene := { scene with
    elapsed := scene.elapsed + outcome.elapsed
    errors := scene.errors ++
      outcome.errors.map fun entry => (scene.elapsed + entry.1, lossy entry.2) }
  match outcome.ending with
  | .exited status => (.ended (.exited status), scene)
  | .killed signal => (.ended (.killedBy signal), scene)
  | .forever => (.stopped, scene)

/-- Runs actions in order up to the one that ends the process. -/
def perform (around : Surroundings) (scene : Scene) : List Action → Run Unit × Scene
  | [] => (.returned (), scene)
  | action :: actions =>
      match action with
      | .succeed => (.ended (.exited 0), scene)
      | .fail message => failWith scene message
      | .check result what =>
          match checked result what with
          | .ok value =>
              perform around
                (scene.say ("check passed " ++ String.ofList (Text.decimal value) ++ "\n")) actions
          | .error message => failWith scene message
      | .expectErrno result wanted what =>
          match expectErrno result wanted what with
          | .ok () => perform around (scene.say "expect_errno passed\n") actions
          | .error message => failWith scene message
      | .execute path arguments environment =>
          match execute around.system around.workingDirectory path arguments environment with
          | .ok program =>
              let space : File.Space := {
                tree := around.system
                workingDirectory := around.workingDirectory }
              let outcome := Shell.execute space program (arguments.map Shell.Chars.ofString)
                (environment.map Shell.Chars.ofString)
              replaced scene outcome
          | .error errno => failWith scene ("exec " ++ lossy path ++ ": " ++ errno.message)
      | .exit code => (.ended (.exited code), scene)
      | .signal number =>
          match signalEffect number with
          | .none => perform around scene actions
          | .stop => (.stopped, scene)
          | .kill => (.ended (.killedBy number.toNat), scene)
          | .fault =>
              if number.toNat ∈ scene.faults then (.ended (.killedBy number.toNat), scene)
              else
                perform around { scene with faults := number.toNat :: scene.faults } actions
      | .sleep milliseconds =>
          perform around { scene with elapsed := scene.elapsed + milliseconds } actions
      | .say text => perform around (scene.say (text ++ "\n")) actions
      | .sayArgument label =>
          perform around (scene.say (label ++ lossy around.argument ++ "\n")) actions
      | .removeMarker =>
          match around.marker with
          | none => perform around scene actions
          | some path =>
              perform around { scene with files := scene.files.remove path } actions
      | .writeMarker contents =>
          match around.marker with
          | none => perform around scene actions
          | some path =>
              match scene.files.write path contents with
              | .ok files => perform around { scene with files := files } actions
              | .error _ => perform around scene actions

end Confinement.Harness
