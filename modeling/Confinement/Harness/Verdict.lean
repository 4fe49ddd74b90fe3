import Confinement.Harness.Child
import Confinement.Harness.Error
import Confinement.Harness.Watch

/-!
The parent's side. The parent makes an empty marker file, launches the child with its request,
waits for it, and then believes its exit status only if the marker holds the name of the proc: a
child that never reached the body proves nothing by its status.
-/

namespace Confinement.Harness

/-- The surroundings of the parent: what its children inherit, where it makes its marker file, the
thread it runs on, and how long a child takes to get going, in milliseconds. -/
structure Parent where
  environment : Environment := {}
  markerPath : Bytes
  thread : Option String := none
  startup : Nat := 5

/-- A child process by what it does with its environment and files. -/
abbrev Child := Environment → Scene → Run Empty × Scene

/-- What came of a child: the verdict and all that was written to the error stream. -/
structure Report where
  verdict : Except Error Unit
  errors : String

/-- When and how a run ends, after it has taken its time to start. -/
def Run.finish? (run : Run Empty) (startup elapsed : Nat) : Option (Nat × WaitStatus) :=
  match run with
  | .ended status => some ((startup + elapsed) * 1000000, status)
  | .stopped => none

/-- Judges a child that has ended by the name in its marker and then by its status. -/
def judge {β : Type} (name : String) (proc : Proc β) (recorded : Except Errno Bytes)
    (status : WaitStatus) : Except Error Unit :=
  match recorded with
  | .error errno => .error (.marker (.os errno.number))
  | .ok recorded =>
      if recorded ≠ utf8 name then .error (.notDispatched name status)
      else if proc.expectation.isMetBy status then .ok ()
      else .error (.wrongOutcome name proc.expectation status)

/-- Runs a proc in a child and reports whether it exits as expected. -/
def Registry.exitsCorrectly {β : Type} (registry : Registry β) (parent : Parent)
    (files : File.Store) (child : Child) (name : String) (argument : Bytes) : Report :=
  match registry.find? name with
  | none => ⟨.error (.unknownProc name), ""⟩
  | some proc =>
      match files.write parent.markerPath [] with
      | .error errno =>
          ⟨.error (.marker (.atPath errno (Text.quote (lossy parent.markerPath)))), ""⟩
      | .ok files =>
          match registry.command parent.thread name argument with
          | .error unknown => ⟨.error (.executable (.other unknown.message)), ""⟩
          | .ok command =>
              let command :=
                command.setVariable (utf8 registry.config.markerVariable) parent.markerPath
              if command.hasNul then
                ⟨.error (.spawn name (.other "nul byte found in provided data")), ""⟩
              else if command.isTooLong then
                ⟨.error (.spawn name (.os Errno.argumentsTooLong.number)), ""⟩
              else
                let environment := parent.environment.putAll command.assignments
                let (run, scene) := child environment { files := files }
                let timeline := Timeline.ofEnd (run.finish? parent.startup scene.elapsed)
                let watch := timeline.watch registry.config.timeout
                match watch.finding with
                | .timedOut =>
                    ⟨.error (.timeout name registry.config.timeout),
                      scene.errorTextAt parent.startup (timeline.clock watch.lastPoll / 1000000)⟩
                | .ended status =>
                    ⟨judge name proc (scene.files.read parent.markerPath) status, scene.errorText⟩

end Confinement.Harness
