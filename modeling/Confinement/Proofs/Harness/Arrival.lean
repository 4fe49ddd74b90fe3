import Confinement.Harness.Child

/-!
How far a child gets. It can arrive at a body if it finds a request, knows the proc that the request
names, and has recorded the name where the request wants it. From there on the body decides how the
child ends. A child that is refused, or that never looks for a request, may end in any way, but it
leaves the marker alone.
-/

namespace Confinement.Harness

variable {β : Type} {registry : Registry β}

/-- A body that a child has arrived at: the request for it, its proc, and the files with the
dispatch recorded. -/
structure Arrival (β : Type) where
  request : Request
  proc : Proc β
  files : File.Store

/-- The body that a child arrives at in an environment. -/
def Registry.arrival? (registry : Registry β) (environment : Environment) (files : File.Store) :
    Option (Arrival β) :=
  match registry.config.request? environment with
  | none => none
  | some request =>
      match registry.dispatch request files with
      | .started proc files => some ⟨request, proc, files⟩
      | .unknown _ => none
      | .unrecorded _ _ => none

theorem Registry.arrival?_eq_some {environment : Environment} {files : File.Store}
    {arrival : Arrival β} (arrived : registry.arrival? environment files = some arrival) :
    registry.config.request? environment = some arrival.request ∧
      registry.dispatch arrival.request files = .started arrival.proc arrival.files := by
  simp only [arrival?] at arrived
  split at arrived
  · contradiction
  · next request found =>
      split at arrived
      · next proc after started =>
          cases arrived
          exact ⟨found, started⟩
      · contradiction
      · contradiction

theorem Registry.find?_of_started {request : Request} {files after : File.Store} {proc : Proc β}
    (started : registry.dispatch request files = .started proc after) :
    registry.find? request.name = some proc := by
  simp only [dispatch] at started
  split at started
  · contradiction
  · next known =>
      rw [known]
      split at started
      · cases started; rfl
      · split at started
        · contradiction
        · cases started; rfl

/-- A file that a dispatch has changed holds the name of the proc. -/
theorem Registry.find?_files_of_started {request : Request} {files after : File.Store}
    {proc : Proc β} (started : registry.dispatch request files = .started proc after)
    (path : Bytes) :
    after.find? path = some (utf8 request.name) ∨ after.find? path = files.find? path := by
  simp only [dispatch] at started
  split at started
  · contradiction
  · split at started
    · cases started
      exact .inr rfl
    · next recorded _ =>
        split at started
        · contradiction
        · next written =>
            cases started
            by_cases same : path = recorded
            · subst same
              exact .inl (File.Store.find?_write written)
            · exact .inr (File.Store.find?_write_ne written same)

/-! The end of a child. -/

/-- How a child ends after the body of its proc. -/
def Proc.conclude (proc : Proc β) (ran : Run Unit × Scene) : Run Empty × Scene :=
  match ran with
  | (.returned (), scene) =>
      (.ended (.exited proc.expectation.fallthroughCode), scene.say "test function did not exit\n")
  | (.ended status, scene) => (.ended status, scene)
  | (.stopped, scene) => (.stopped, scene)

theorem Proc.files_conclude (proc : Proc β) (ran : Run Unit × Scene) :
    (proc.conclude ran).2.files = ran.2.files := by
  obtain ⟨outcome, scene⟩ := ran
  cases outcome <;> rfl

/-- A body that returns does not meet what its proc is to show. -/
theorem Proc.ended_of_conclude {proc : Proc β} {ran : Run Unit × Scene} {status : WaitStatus}
    (ended : (proc.conclude ran).1 = .ended status)
    (met : proc.expectation.isMetBy status = true) : ran.1 = .ended status := by
  obtain ⟨outcome, scene⟩ := ran
  cases outcome with
  | returned value =>
      cases ended
      rw [Expectation.isMetBy_fallthrough] at met
      contradiction
  | ended own =>
      cases ended
      rfl
  | stopped => contradiction

section

variable (start : β → Request → Scene → Run Unit × Scene)

/-- The run of the body at which a child has arrived. -/
def Arrival.run (arrival : Arrival β) (scene : Scene) : Run Unit × Scene :=
  start arrival.proc.body arrival.request { scene with files := arrival.files }

/-- What a child may do with its environment and the scene it is started in, by the body it arrives
at, if any. -/
inductive Registry.Conduct (registry : Registry β) (marker : Bytes) (environment : Environment)
    (scene : Scene) : Option (Arrival β) → Run Empty × Scene → Prop
  /-- No body is run; the child may end in any way, or never. -/
  | astray {result : Run Empty × Scene}
      (kept : result.2.files.find? marker = scene.files.find? marker) :
      registry.Conduct marker environment scene none result
  | arrived {arrival : Arrival β}
      (found : registry.arrival? environment scene.files = some arrival) :
      registry.Conduct marker environment scene (some arrival)
        (arrival.proc.conclude (arrival.run start scene))

variable {start} {environment : Environment} {scene : Scene} (otherwise : Int)

theorem Registry.files_childProcess_of_astray
    (astray : registry.arrival? environment scene.files = none) :
    (registry.childProcess start environment otherwise scene).2.files = scene.files := by
  cases found : registry.config.request? environment with
  | none => simp only [childProcess, found]
  | some request =>
      cases dispatched : registry.dispatch request scene.files with
      | unknown name => simp only [childProcess, runChild, found, dispatched, Scene.say]
      | unrecorded name reason =>
          simp only [childProcess, runChild, found, dispatched, Scene.say]
      | started proc files =>
          simp only [arrival?, found, dispatched] at astray
          contradiction

theorem Registry.childProcess_of_arrival {arrival : Arrival β}
    (arrived : registry.arrival? environment scene.files = some arrival) :
    registry.childProcess start environment otherwise scene =
      arrival.proc.conclude (arrival.run start scene) := by
  obtain ⟨found, started⟩ := arrival?_eq_some arrived
  simp only [childProcess, runChild, found, started, Proc.conclude, Arrival.run]
  obtain ⟨outcome, after⟩ :=
    start arrival.proc.body arrival.request { scene with files := arrival.files }
  cases outcome <;> rfl

theorem Registry.conduct_childProcess (marker : Bytes) :
    registry.Conduct start marker environment scene (registry.arrival? environment scene.files)
      (registry.childProcess start environment otherwise scene) := by
  cases found : registry.arrival? environment scene.files with
  | none => exact .astray (congrArg (·.find? marker) (files_childProcess_of_astray otherwise found))
  | some arrival =>
      rw [childProcess_of_arrival otherwise found]
      exact .arrived found

end

end Confinement.Harness
