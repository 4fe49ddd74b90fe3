import Confinement.Proofs.Harness.Arrival

/-!
What a child runs after any sequence of registrations. The last registration of a name counts, in
the lookup, the command and the child alike. A child starts its body and no other, after the name
has been recorded; without a registration or a record it starts none. Main statement:
`runChild_starts_last`.
-/

namespace Confinement.Harness

variable {β : Type}

/-- A call that registers a proc. -/
inductive Registration (β : Type) where
  | register (name : String) (proc : Proc β)
  | succeeds (name : String) (body : β)
  | fails (name : String) (body : β)
deriving DecidableEq, Repr

namespace Registration

def name : Registration β → String
  | .register name _ | .succeeds name _ | .fails name _ => name

def proc : Registration β → Proc β
  | .register _ proc => proc
  | .succeeds _ body => ⟨body, .success⟩
  | .fails _ body => ⟨body, .failure⟩

def apply (registry : Registry β) : Registration β → Registry β
  | .register name proc => registry.register name proc
  | .succeeds name body => registry.succeeds name body
  | .fails name body => registry.fails name body

theorem apply_eq (registry : Registry β) (call : Registration β) :
    call.apply registry = registry.register call.name call.proc := by
  cases call <;> rfl

/-- A call for a name that no later call is for. -/
def IsLast (calls : List (Registration β)) (name : String) (call : Registration β) : Prop :=
  ∃ before after, calls = before ++ call :: after ∧ call.name = name ∧
    ∀ later ∈ after, later.name ≠ name

theorem exists_isLast {calls : List (Registration β)} {name : String}
    (registered : ∃ call ∈ calls, call.name = name) : ∃ call, IsLast calls name call := by
  induction calls with
  | nil =>
      obtain ⟨call, member, _⟩ := registered
      cases member
  | cons first calls ih =>
      -- The first call counts only if its name does not come again.
      by_cases again : ∃ call ∈ calls, call.name = name
      · obtain ⟨call, before, after, split, named, last⟩ := ih again
        exact ⟨call, first :: before, after, by rw [split, List.cons_append], named, last⟩
      · obtain ⟨call, member, named⟩ := registered
        rcases List.mem_cons.mp member with rfl | later
        · exact ⟨call, [], calls, rfl, named, fun other among same => again ⟨other, among, same⟩⟩
        · exact absurd ⟨call, later, named⟩ again

end Registration

open Registration (IsLast)

/-- How a child goes on after the body of its proc. -/
def Proc.finish (proc : Proc β) (ran : Run Unit × Scene) : Run Nat × Scene :=
  match ran with
  | (.returned (), scene) =>
      (.returned proc.expectation.fallthroughCode, scene.say "test function did not exit\n")
  | (.ended status, scene) => (.ended status, scene)
  | (.stopped, scene) => (.stopped, scene)

/-- The code of a child that never got to a body is not one that a body can lead to. -/
theorem Proc.finish_ne_dispatchError (proc : Proc β) (ran : Run Unit × Scene) :
    (proc.finish ran).1 ≠ .returned dispatchErrorCode := by
  obtain ⟨outcome, after⟩ := ran
  cases outcome with
  | returned value => cases expected : proc.expectation <;>
      simp [finish, expected, Expectation.fallthroughCode, dispatchErrorCode]
  | ended status => simp [finish]
  | stopped => simp [finish]

theorem Expectation.isSuccess_fallthrough (expectation : Expectation) :
    (WaitStatus.exited expectation.fallthroughCode).isSuccess = true ↔ expectation = .failure := by
  cases expectation <;> decide

namespace Registry

/-- The registry that calls leave, from an empty one. -/
def enroll (config : Config) (calls : List (Registration β)) : Registry β :=
  calls.foldl Registration.apply { config := config }

section Enroll

variable {config : Config} {calls : List (Registration β)} {name : String}

theorem find?_foldl_of_ne {registry : Registry β} (others : ∀ call ∈ calls, call.name ≠ name) :
    (calls.foldl Registration.apply registry).find? name =
      registry.find? name := by
  induction calls generalizing registry with
  | nil => rfl
  | cons call calls ih =>
      have different := (others call List.mem_cons_self).symm
      rw [List.foldl_cons, ih fun other member => others other (List.mem_cons_of_mem call member),
        Registration.apply_eq, find?_register_ne registry call.proc different]

theorem find?_enroll_of_unregistered (others : ∀ call ∈ calls, call.name ≠ name) :
    (enroll config calls).find? name = none :=
  find?_foldl_of_ne others

theorem find?_enroll_of_isLast {call : Registration β} (last : IsLast calls name call) :
    (enroll config calls).find? name = some call.proc := by
  obtain ⟨before, after, rfl, rfl, others⟩ := last
  rw [enroll, List.foldl_append, List.foldl_cons, find?_foldl_of_ne others, Registration.apply_eq,
    find?_register_self]

theorem isSome_find?_enroll_iff :
    ((enroll config calls).find? name).isSome = true ↔ ∃ call ∈ calls, call.name = name := by
  constructor
  · intro found
    refine Classical.byContradiction fun missing => ?_
    have others : ∀ call ∈ calls, call.name ≠ name :=
      fun call member same => missing ⟨call, member, same⟩
    rw [find?_enroll_of_unregistered others] at found
    contradiction
  · intro registered
    obtain ⟨call, last⟩ := Registration.exists_isLast registered
    rw [find?_enroll_of_isLast last]
    rfl

end Enroll

/-! The child. -/

section Child

variable {registry : Registry β} {request : Request}

theorem dispatch_of_unknown (unknown : registry.find? request.name = none) (files : File.Store) :
    registry.dispatch request files = .unknown request.name := by
  simp only [dispatch, unknown]

theorem dispatch_of_unwritable {proc : Proc β} (known : registry.find? request.name = some proc)
    {path : Bytes} (marked : request.marker = some path) {files : File.Store} {reason : Errno}
    (refused : files.refusal? path = some reason) :
    registry.dispatch request files = .unrecorded request.name reason := by
  simp only [dispatch, known, marked, File.Store.write, refused]

/-- The name is in the marker file, if there is one, and all other files are as before. -/
structure Recorded (request : Request) (before after : File.Store) : Prop where
  marked : ∀ path, request.marker = some path → after.find? path = some (utf8 request.name)
  kept : ∀ path, request.marker ≠ some path → after.find? path = before.find? path

theorem dispatch_of_writable {proc : Proc β} (known : registry.find? request.name = some proc)
    {files : File.Store}
    (writable : ∀ path, request.marker = some path → files.refusal? path = none) :
    ∃ after, Recorded request files after ∧
      registry.dispatch request files = .started proc after := by
  cases marker : request.marker with
  | none =>
      refine ⟨files, ⟨?_, fun _ _ => rfl⟩, by simp only [dispatch, known, marker]⟩
      intro path marked
      rw [marker] at marked
      contradiction
  | some path =>
      have written : files.write path (utf8 request.name) =
          .ok { files with contents := files.contents.put path (utf8 request.name) } := by
        simp only [File.Store.write, writable path marker]
      refine ⟨{ files with contents := files.contents.put path (utf8 request.name) }, ⟨?_, ?_⟩,
        by simp only [dispatch, known, marker, written]⟩
      · intro other marked
        rw [marker] at marked
        cases marked
        exact File.Store.find?_write written
      · intro other different
        rw [marker] at different
        exact File.Store.find?_write_ne written fun same => different (congrArg some same.symm)

variable {start : β → Request → Scene → Run Unit × Scene} {scene : Scene}

theorem runChild_of_unknown (unknown : registry.find? request.name = none) :
    registry.runChild start request scene =
      (.returned dispatchErrorCode, scene.say (UnknownProc.message ⟨request.name⟩ ++ "\n")) := by
  simp only [runChild, dispatch_of_unknown unknown]

theorem runChild_of_unrecorded {reason : Errno}
    (unrecorded : registry.dispatch request scene.files = .unrecorded request.name reason) :
    registry.runChild start request scene =
      (.returned dispatchErrorCode, scene.say
        ("record dispatch of " ++ Text.quote request.name ++ ": " ++ reason.message ++ "\n")) := by
  simp only [runChild, unrecorded]

theorem runChild_of_started {proc : Proc β} {files : File.Store}
    (started : registry.dispatch request scene.files = .started proc files) :
    registry.runChild start request scene =
      proc.finish (start proc.body request { scene with files := files }) := by
  cases ran : start proc.body request { scene with files := files } with
  | mk outcome after =>
      cases outcome <;> simp only [runChild, started, ran, Proc.finish]

theorem runChild_ne_dispatchError_iff (unmarked : request.marker = none) :
    (registry.runChild start request scene).1 ≠ .returned dispatchErrorCode ↔
      (registry.find? request.name).isSome = true := by
  cases found : registry.find? request.name with
  | none => simp [runChild_of_unknown found, dispatchErrorCode]
  | some proc =>
      have writable : ∀ path, request.marker = some path → scene.files.refusal? path = none := by
        simp [unmarked]
      obtain ⟨files, _, started⟩ := dispatch_of_writable found writable
      simp [runChild_of_started started, Proc.finish_ne_dispatchError]

theorem exists_command_iff {thread : Option String} {name : String} {argument : Bytes} :
    (∃ command, registry.command thread name argument = .ok command) ↔
      (registry.find? name).isSome = true := by
  cases found : registry.find? name <;> simp [command, found]

end Child

end Registry

/-- After any calls and in any scene. A child asked for a name that no call was for says so and
returns 2, with the files as they were, and so does one that is refused its marker. Any other starts
the body of the last call for the name, once, on the request, with the record made; if that body
returns, the code speaks against the proc. The lookup, the command and the child know the same
names. -/
theorem Registry.runChild_starts_last (config : Config) (calls : List (Registration β)) :
    let registry := enroll config calls
    (∀ (request : Request) (scene : Scene),
      ((∀ call ∈ calls, call.name ≠ request.name) → ∀ start,
        registry.runChild start request scene =
          (.returned 2, scene.say ("unknown test proc " ++ Text.quote request.name ++ "\n"))) ∧
      ∀ call, IsLast calls request.name call →
        (∀ path reason, request.marker = some path → scene.files.refusal? path = some reason →
          ∀ start, registry.runChild start request scene =
            (.returned 2, scene.say ("record dispatch of " ++ Text.quote request.name ++ ": " ++
              reason.message ++ "\n"))) ∧
        ((∀ path, request.marker = some path → scene.files.refusal? path = none) →
          ∃ files, Recorded request scene.files files ∧ ∀ start,
            registry.runChild start request scene =
              call.proc.finish (start call.proc.body request { scene with files := files }))) ∧
    (∀ (proc : Proc β) (after : Scene), ∃ code,
      (proc.finish (.returned (), after)).1 = .returned code ∧
        ((WaitStatus.exited code).isSuccess = true ↔ proc.expectation = .failure)) ∧
    ∀ name,
      ((registry.find? name).isSome = true ↔ ∃ call ∈ calls, call.name = name) ∧
      (∀ thread argument, (∃ command, registry.command thread name argument = .ok command) ↔
        ∃ call ∈ calls, call.name = name) ∧
      ∀ start argument scene,
        (registry.runChild start ⟨name, argument, none⟩ scene).1 ≠ .returned 2 ↔
          ∃ call ∈ calls, call.name = name := by
  intro registry
  refine ⟨?_, ?_, ?_⟩
  · intro request scene
    refine ⟨fun others start => runChild_of_unknown (find?_enroll_of_unregistered others), ?_⟩
    intro call last
    have known : registry.find? request.name = some call.proc := find?_enroll_of_isLast last
    refine ⟨?_, ?_⟩
    · intro path reason marked refused start
      exact runChild_of_unrecorded (dispatch_of_unwritable known marked refused)
    · intro writable
      obtain ⟨files, recorded, started⟩ := dispatch_of_writable known writable
      exact ⟨files, recorded, fun start => runChild_of_started started⟩
  · intro proc after
    exact ⟨_, rfl, proc.expectation.isSuccess_fallthrough⟩
  · intro name
    refine ⟨isSome_find?_enroll_iff, ?_, ?_⟩
    · intro thread argument
      exact exists_command_iff.trans isSome_find?_enroll_iff
    · intro start argument scene
      exact (runChild_ne_dispatchError_iff rfl).trans isSome_find?_enroll_iff

/-- Registered twice, asked for with a stale marker, with one that is refused, and not registered. -/
theorem Registry.runChild_starts_last_again :
    let calls : List (Registration String) :=
      [.succeeds "probe" "first", .register "other" ⟨"aside", .success⟩, .fails "probe" "second"]
    let registry := enroll {} calls
    let start : String → Request → Scene → Run Unit × Scene := fun body request scene =>
      (.returned (), { scene with elapsed := request.argument.length }.say body)
    let scene : Scene := {
      files := {
        contents := Table.put {} [1] [9]
        refusal? := fun path => if path = [2] then some .accessDenied else none } }
    (registry.runChild start ⟨"missing", [], some [1]⟩ scene).1 = .returned 2 ∧
      (registry.runChild start ⟨"probe", [], some [2]⟩ scene).1 = .returned 2 ∧
      (∃ files, files.find? [1] = some (utf8 "probe") ∧
        registry.runChild start ⟨"probe", [7, 7], some [1]⟩ scene =
          (.returned 0, {
            files := files
            elapsed := 2
            errors := [(2, "second"), (2, "test function did not exit\n")] })) ∧
      (registry.find? "missing").isSome = false := by
  intro calls registry start scene
  obtain ⟨runs, _, known⟩ := runChild_starts_last {} calls
  have last : IsLast calls "probe" (.fails "probe" "second") :=
    ⟨calls.take 2, [], rfl, rfl, fun _ member => by cases member⟩
  have unregistered : ∀ call ∈ calls, call.name ≠ "missing" := by decide
  refine ⟨?_, ?_, ?_, ?_⟩
  · exact congrArg Prod.fst ((runs ⟨"missing", [], some [1]⟩ scene).1 unregistered start)
  · obtain ⟨unrecorded, _⟩ := (runs ⟨"probe", [], some [2]⟩ scene).2 _ last
    exact congrArg Prod.fst (unrecorded [2] .accessDenied rfl (by decide) start)
  · obtain ⟨_, started⟩ := (runs ⟨"probe", [7, 7], some [1]⟩ scene).2 _ last
    obtain ⟨files, recorded, ran⟩ := started fun path marked => by cases marked; decide
    refine ⟨files, recorded.marked [1] rfl, ?_⟩
    rw [ran start]
    rfl
  · exact Bool.eq_false_iff.mpr fun found => by
      obtain ⟨call, member, same⟩ := (known "missing").1.mp found
      exact unregistered call member same

end Confinement.Harness
