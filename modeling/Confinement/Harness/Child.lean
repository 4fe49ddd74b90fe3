import Confinement.Harness.Body
import Confinement.Harness.Registry

/-!
The child's side. A child process finds its request in the environment, looks the proc up, records
that it was dispatched, and only then starts the body. It exits with a code of its own if it cannot
get that far.
-/

namespace Confinement.Harness

/-- The exit code of a child that could not start the body it was asked for. -/
def dispatchErrorCode : Nat := 2

/-- How far a child gets with a request before any body runs. -/
inductive Dispatch (β : Type) where
  | unknown (name : String)
  | unrecorded (name : String) (reason : Errno)
  /-- The body starts, with the dispatch recorded in the files. -/
  | started (proc : Proc β) (files : File.Store)

namespace Registry

variable {β : Type}

/-- Looks up the proc of a request and then records its name in the marker file, if there is one. -/
def dispatch (registry : Registry β) (request : Request) (files : File.Store) : Dispatch β :=
  match registry.find? request.name with
  | none => .unknown request.name
  | some proc =>
      match request.marker with
      | none => .started proc files
      | some path =>
          match files.write path (utf8 request.name) with
          | .error reason => .unrecorded request.name reason
          | .ok files => .started proc files

/-- Runs the proc of a request. Bodies are run by `start`, which is given the request as well; if a
body returns, so does this, with an exit code that speaks against the proc. -/
def runChild (registry : Registry β) (start : β → Request → Scene → Run Unit × Scene)
    (request : Request) (scene : Scene) : Run Nat × Scene :=
  match registry.dispatch request scene.files with
  | .unknown name =>
      (.returned dispatchErrorCode, scene.say (UnknownProc.message ⟨name⟩ ++ "\n"))
  | .unrecorded name reason =>
      (.returned dispatchErrorCode,
        scene.say ("record dispatch of " ++ Text.quote name ++ ": " ++ reason.message ++ "\n"))
  | .started proc files =>
      match start proc.body request { scene with files := files } with
      | (.returned (), scene) =>
          (.returned proc.expectation.fallthroughCode, scene.say "test function did not exit\n")
      | (.ended status, scene) => (.ended status, scene)
      | (.stopped, scene) => (.stopped, scene)

/-- A whole child process. One that finds no request is none of the harness's and exits as it would
have done anyway. -/
def childProcess (registry : Registry β) (start : β → Request → Scene → Run Unit × Scene)
    (environment : Environment) (otherwise : Int) (scene : Scene) : Run Empty × Scene :=
  match registry.config.request? environment with
  | none => (.ended (.exited otherwise), scene)
  | some request =>
      match registry.runChild start request scene with
      | (.returned code, scene) => (.ended (.exited code), scene)
      | (.ended status, scene) => (.ended status, scene)
      | (.stopped, scene) => (.stopped, scene)

end Registry

end Confinement.Harness
