import Confinement.Harness.Verdict
import Confinement.Proofs.Harness.Arrival
import Confinement.Proofs.Harness.Handover
import Confinement.Proofs.Harness.Polling

/-!
What a good verdict proves. The parent believes a status only beside a marker that holds the name of
the proc, the marker is empty when the child starts, and a child that arrives at another body or at
none leaves no such record. So a verdict is good only after the body of the proc has ended by itself
and as expected. The empty name is the exception: it reads like a marker that nobody has touched.
Main statement: `verdict_sound`.
-/

namespace Confinement.Harness

variable {β : Type}

theorem Expectation.isMetBy_iff (expectation : Expectation) (status : WaitStatus) :
    expectation.isMetBy status = true ↔ (status.isSuccess = true ↔ expectation = .success) := by
  cases expectation <;> cases met : status.isSuccess <;> simp [isMetBy, met]

/-! Watching the child. -/

/-- A parent's watch over a child. -/
def Parent.watch (parent : Parent) (limit : Duration) (result : Run Empty × Scene) : Watch :=
  (Timeline.ofEnd (result.1.finish? parent.startup result.2.elapsed)).watch limit

/-- Only a child that ends by itself is found to have ended. -/
theorem Parent.watch_ended {parent : Parent} {limit : Duration} {result : Run Empty × Scene}
    {status : WaitStatus} (found : (parent.watch limit result).finding = .ended status) :
    result.1 = .ended status ∧ Step.kill ∉ (parent.watch limit result).steps := by
  obtain ⟨last, seen, _⟩ := Timeline.finding_watch_eq_ended_iff.mp found
  refine ⟨?_, (Timeline.steps_watch_of_ended found).1⟩
  obtain ⟨run, scene⟩ := result
  cases run with
  | returned value => exact value.elim
  | ended own =>
      simp only [Timeline.ofEnd, Run.finish?] at seen
      split at seen
      · cases seen; rfl
      · contradiction
  | stopped => contradiction

theorem Parent.watch_of_prompt (parent : Parent) (limit : Duration) {scene : Scene}
    (status : WaitStatus) (prompt : parent.startup + scene.elapsed = 0) :
    (parent.watch limit (.ended status, scene)).finding = .ended status := by
  refine Timeline.finding_watch_of_seen (Nat.zero_le _) ?_
  simp only [Timeline.ofEnd, Run.finish?, prompt, Nat.zero_mul, Nat.le_refl, if_true]

/-! Judging it. -/

section Judge

variable {name : String} {proc : Proc β} {recorded : Except Errno Bytes} {status : WaitStatus}

theorem judge_eq_ok_iff :
    judge name proc recorded status = .ok () ↔
      recorded = .ok (utf8 name) ∧ proc.expectation.isMetBy status = true := by
  cases recorded with
  | error errno => simp [judge]
  | ok bytes =>
      by_cases same : bytes = utf8 name
      · cases met : proc.expectation.isMetBy status <;> simp [judge, same, met]
      · simp [judge, same]

theorem judge_of_ne {bytes : Bytes} (held : recorded = .ok bytes) (different : bytes ≠ utf8 name) :
    judge name proc recorded status = .error (.notDispatched name status) := by
  simp [judge, held, different]

end Judge

/-! Launching it. -/

/-- What a parent starts a child with, and the proc that the child is for. -/
structure Launch (β : Type) where
  proc : Proc β
  environment : Environment
  files : File.Store

def Launch.scene (launch : Launch β) : Scene :=
  { files := launch.files }

/-- The parent gets as far as launching a child. -/
structure Registry.Launches (registry : Registry β) (parent : Parent) (files : File.Store)
    (name : String) (argument : Bytes) (launch : Launch β) : Prop where
  known : registry.find? name = some launch.proc
  emptied : files.write parent.markerPath [] = .ok launch.files
  handed : ∃ command, registry.command parent.thread name argument = .ok command ∧
    let marked := command.setVariable (utf8 registry.config.markerVariable) parent.markerPath
    marked.hasNul = false ∧ marked.isTooLong = false ∧
      launch.environment = parent.environment.putAll marked.assignments

section Launch

variable {registry : Registry β} {parent : Parent} {files : File.Store} {child : Child}
  {name : String} {argument : Bytes} {launch : Launch β}

theorem Registry.exitsCorrectly_of_launches
    (launches : registry.Launches parent files name argument launch) :
    (registry.exitsCorrectly parent files child name argument).verdict =
      let result := child launch.environment launch.scene
      match (parent.watch registry.config.timeout result).finding with
      | .timedOut => .error (.timeout name registry.config.timeout)
      | .ended status =>
          judge name launch.proc (result.2.files.read parent.markerPath) status := by
  obtain ⟨known, emptied, command, built, free, short, environment⟩ := launches
  simp only [exitsCorrectly, known, emptied, built, free, short, Bool.false_eq_true, if_false,
    environment, Launch.scene, Parent.watch]
  generalize child _ { files := launch.files } = result
  generalize (Timeline.watch _ _).finding = finding
  cases finding <;> rfl

theorem Registry.launches_of_ok
    (good : (registry.exitsCorrectly parent files child name argument).verdict = .ok ()) :
    ∃ launch, registry.Launches parent files name argument launch := by
  simp only [exitsCorrectly] at good
  split at good
  · contradiction
  · next proc known =>
      split at good
      · contradiction
      · next emptied written =>
          split at good
          · contradiction
          · next command built =>
              split at good
              · contradiction
              · next free =>
                  split at good
                  · contradiction
                  · next short =>
                      exact ⟨⟨proc, _, emptied⟩, known, written, command, built,
                        Bool.eq_false_iff.mpr free, Bool.eq_false_iff.mpr short, rfl⟩

/-- A marker that nobody has touched passes for a record of the empty name, so the status alone
decides. -/
theorem Registry.exitsCorrectly_empty_name
    (launches : registry.Launches parent files "" argument launch)
    (kept : (child launch.environment launch.scene).2.files.find? parent.markerPath =
      launch.files.find? parent.markerPath)
    {status : WaitStatus}
    (seen : (parent.watch registry.config.timeout
      (child launch.environment launch.scene)).finding = .ended status) :
    (registry.exitsCorrectly parent files child "" argument).verdict = .ok () ↔
      launch.proc.expectation.isMetBy status = true := by
  have empty := kept.trans (File.Store.find?_write launches.emptied)
  have recorded : (child launch.environment launch.scene).2.files.read parent.markerPath =
      .ok (utf8 "") := by
    simp only [File.Store.read, empty]
    rfl
  rw [exitsCorrectly_of_launches launches]
  simp only [seen, judge_eq_ok_iff, recorded, true_and]

/-! What the marker holds. -/

section Marker

variable {start : β → Request → Scene → Run Unit × Scene}

/-- There can be no request but the parent's, or else other bodies leave the marker alone. -/
def Registry.Undisturbed (registry : Registry β) (start : β → Request → Scene → Run Unit × Scene)
    (marker : Bytes) (name : String) : Prop :=
  registry.config.Separate ∨
    ∀ body request scene, request.name ≠ name →
      (start body request scene).2.files.find? marker = scene.files.find? marker

theorem Registry.request_of_launches (separate : registry.config.Separate) (named : name ≠ "")
    (launches : registry.Launches parent files name argument launch) :
    registry.config.request? launch.environment =
      some ⟨name, argument, some parent.markerPath⟩ := by
  obtain ⟨command, built, _, _, environment⟩ := launches.handed
  rw [environment, request?_of_marked built separate, if_neg named]

variable {reached : Option (Arrival β)}

/-- A child that does not arrive at the body of the proc leaves something else in the marker than
the name. -/
theorem Registry.marker_of_elsewhere (named : name ≠ "")
    (undisturbed : registry.Undisturbed start parent.markerPath name)
    (launches : registry.Launches parent files name argument launch)
    {result : Run Empty × Scene}
    (conduct : registry.Conduct start parent.markerPath launch.environment launch.scene reached
      result)
    (elsewhere : ∀ arrival, reached = some arrival → arrival.request.name ≠ name) :
    ∃ bytes, result.2.files.read parent.markerPath = .ok bytes ∧ bytes ≠ utf8 name := by
  have empty : launch.files.find? parent.markerPath = some [] :=
    File.Store.find?_write launches.emptied
  have emptyOther : [] ≠ utf8 name := utf8_ne named.symm
  suffices held : ∃ bytes, result.2.files.find? parent.markerPath = some bytes ∧
      bytes ≠ utf8 name by
    obtain ⟨bytes, found, different⟩ := held
    exact ⟨bytes, by simp only [File.Store.read, found], different⟩
  cases conduct with
  | astray kept => exact ⟨[], kept.trans empty, emptyOther⟩
  | @arrived arrival found =>
      have other := elsewhere arrival rfl
      obtain ⟨requested, started⟩ := arrival?_eq_some found
      rcases undisturbed with separate | leaves
      · -- The request in the environment is the parent's own, which is for `name`.
        rw [request_of_launches separate named launches] at requested
        exact absurd (congrArg Request.name (Option.some.inj requested)).symm other
      · have kept : (arrival.proc.conclude (arrival.run start launch.scene)).2.files.find?
            parent.markerPath = arrival.files.find? parent.markerPath := by
          rw [Proc.files_conclude]
          exact leaves _ _ _ other
        rcases find?_files_of_started started parent.markerPath with recorded | untouched
        · exact ⟨_, kept.trans recorded, utf8_ne other⟩
        · exact ⟨[], (kept.trans untouched).trans empty, emptyOther⟩

theorem Registry.reached_of_recorded (named : name ≠ "")
    (undisturbed : registry.Undisturbed start parent.markerPath name)
    (launches : registry.Launches parent files name argument launch)
    {result : Run Empty × Scene}
    (conduct : registry.Conduct start parent.markerPath launch.environment launch.scene reached
      result)
    (recorded : result.2.files.read parent.markerPath = .ok (utf8 name)) :
    ∃ arrival, reached = some arrival ∧ arrival.request.name = name := by
  refine Classical.byContradiction fun nowhere => ?_
  obtain ⟨bytes, held, different⟩ :=
    marker_of_elsewhere named undisturbed launches conduct
      fun arrival arrived same => nowhere ⟨arrival, arrived, same⟩
  exact different (Except.ok.inj (held.symm.trans recorded))

theorem Registry.notDispatched_of_elsewhere (named : name ≠ "")
    (undisturbed : registry.Undisturbed start parent.markerPath name)
    (launches : registry.Launches parent files name argument launch)
    (conduct : registry.Conduct start parent.markerPath launch.environment launch.scene reached
      (child launch.environment launch.scene))
    (elsewhere : ∀ arrival, reached = some arrival → arrival.request.name ≠ name)
    {status : WaitStatus}
    (seen : (parent.watch registry.config.timeout
      (child launch.environment launch.scene)).finding = .ended status) :
    (registry.exitsCorrectly parent files child name argument).verdict =
      .error (.notDispatched name status) := by
  obtain ⟨bytes, held, different⟩ :=
    marker_of_elsewhere named undisturbed launches conduct elsewhere
  rw [exitsCorrectly_of_launches launches]
  simp only [seen, judge_of_ne held different]

/-- The body under a name has run in a child that was seen to end by itself, as expected. -/
structure Registry.Proven (registry : Registry β) (start : β → Request → Scene → Run Unit × Scene)
    (scene : Scene) (name : String) (watch : Watch) (arrival : Arrival β) (status : WaitStatus) :
    Prop where
  named : arrival.request.name = name
  known : registry.find? name = some arrival.proc
  ended : (arrival.run start scene).1 = .ended status
  seen : watch.finding = .ended status
  spared : Step.kill ∉ watch.steps
  expected : status.isSuccess = true ↔ arrival.proc.expectation = .success

theorem Registry.proven_of_ok (named : name ≠ "")
    (undisturbed : registry.Undisturbed start parent.markerPath name)
    (launches : registry.Launches parent files name argument launch)
    (conduct : registry.Conduct start parent.markerPath launch.environment launch.scene reached
      (child launch.environment launch.scene))
    (good : (registry.exitsCorrectly parent files child name argument).verdict = .ok ()) :
    ∃ arrival status, reached = some arrival ∧
      registry.Proven start launch.scene name
        (parent.watch registry.config.timeout (child launch.environment launch.scene))
        arrival status := by
  rw [exitsCorrectly_of_launches launches] at good
  cases seen : (parent.watch registry.config.timeout
      (child launch.environment launch.scene)).finding with
  | timedOut => simp [seen] at good
  | ended status =>
      simp only [seen] at good
      obtain ⟨recorded, met⟩ := judge_eq_ok_iff.mp good
      obtain ⟨arrival, rfl, same⟩ :=
        reached_of_recorded named undisturbed launches conduct recorded
      obtain ⟨ended, spared⟩ := Parent.watch_ended seen
      -- Only a variable can take the form that the conduct gives the result.
      generalize child launch.environment launch.scene = result at *
      cases conduct with
      | arrived found =>
          have known := find?_of_started (arrival?_eq_some found).2
          rw [same] at known
          have proc : launch.proc = arrival.proc :=
            Option.some.inj (launches.known.symm.trans known)
          rw [proc] at met
          exact ⟨arrival, status, rfl, same, known, Proc.ended_of_conclude ended met, seen, spared,
            (arrival.proc.expectation.isMetBy_iff status).mp met⟩

end Marker

end Launch

/-- For a proc with a name that is not empty: a good verdict proves that a child was launched, that
it arrived at the body of that proc, and that it was seen to end by itself as expected; a child that
ends without having arrived there counts as not dispatched, whatever its status; and no body that
returns is called good. Every child process of the harness conducts itself in this way. -/
theorem Registry.verdict_sound (registry : Registry β)
    (start : β → Request → Scene → Run Unit × Scene) (parent : Parent) (files : File.Store)
    (child : Child) (name : String) (argument : Bytes) (named : name ≠ "")
    (undisturbed : registry.Undisturbed start parent.markerPath name) :
    let verdict := (registry.exitsCorrectly parent files child name argument).verdict
    (verdict = .ok () → ∃ launch, registry.Launches parent files name argument launch) ∧
    (∀ launch reached, registry.Launches parent files name argument launch →
      let result := child launch.environment launch.scene
      let watch := parent.watch registry.config.timeout result
      registry.Conduct start parent.markerPath launch.environment launch.scene reached result →
        (verdict = .ok () → ∃ arrival status, reached = some arrival ∧
          registry.Proven start launch.scene name watch arrival status) ∧
        ((∀ arrival, reached = some arrival → arrival.request.name ≠ name) →
          ∀ status, watch.finding = .ended status →
            verdict = .error (.notDispatched name status)) ∧
        ∀ arrival, reached = some arrival →
          (arrival.run start launch.scene).1 = .returned () → verdict ≠ .ok ()) ∧
    ∀ environment otherwise scene,
      registry.Conduct start parent.markerPath environment scene
        (registry.arrival? environment scene.files)
        (registry.childProcess start environment otherwise scene) := by
  intro verdict
  refine ⟨launches_of_ok, ?_, fun _ otherwise _ => conduct_childProcess otherwise parent.markerPath⟩
  intro launch reached launches result watch conduct
  refine ⟨proven_of_ok named undisturbed launches conduct, ?_, ?_⟩
  · intro elsewhere status seen
    exact notDispatched_of_elsewhere named undisturbed launches conduct elsewhere seen
  · intro arrival arrived returned good
    obtain ⟨own, status, same, proven⟩ := proven_of_ok named undisturbed launches conduct good
    rw [arrived] at same
    cases same
    rw [proven.ended] at returned
    contradiction

/-- A child that never looks for its request does not pass for one that fails as expected; the child
of the harness does. -/
theorem Registry.verdict_sound_probe :
    let registry : Registry Unit := ({} : Registry Unit).fails "probe" ()
    let start : Unit → Request → Scene → Run Unit × Scene := fun _ _ scene =>
      (.ended (.exited 3), scene)
    let parent : Parent := { markerPath := utf8 "/marker", startup := 0 }
    let heedless : Child := fun _ scene => (.ended (.exited 1), scene)
    let heeding : Child := fun environment scene => registry.childProcess start environment 0 scene
    (registry.exitsCorrectly parent {} heedless "probe" []).verdict =
        .error (.notDispatched "probe" (.exited 1)) ∧
      (registry.exitsCorrectly parent {} heeding "probe" []).verdict = .ok () ∧
      ∃ launch arrival, registry.Launches parent {} "probe" [] launch ∧
        registry.arrival? launch.environment launch.files = some arrival ∧
        registry.Proven start launch.scene "probe"
          (parent.watch registry.config.timeout (heeding launch.environment launch.scene))
          arrival (.exited 3) := by
  intro registry start parent heedless heeding
  have separate : registry.config.Separate := by
    constructor <;> decide
  have named : "probe" ≠ "" := by decide
  let emptied : File.Store := { contents := ⟨[(parent.markerPath, [])]⟩ }
  let recorded : File.Store := { contents := ⟨[(parent.markerPath, utf8 "probe")]⟩ }
  obtain ⟨launch, launches, files⟩ :
      ∃ launch, registry.Launches parent {} "probe" [] launch ∧ launch.files = emptied :=
    ⟨⟨⟨(), .failure⟩, _, emptied⟩, ⟨rfl, rfl, _, rfl, by decide, by decide, rfl⟩, rfl⟩
  have arrived : registry.arrival? launch.environment launch.scene.files =
      some ⟨⟨"probe", [], some parent.markerPath⟩, ⟨(), .failure⟩, recorded⟩ := by
    simp only [arrival?, request_of_launches separate named launches, Launch.scene, files]
    rfl
  have heeded : heeding launch.environment launch.scene =
      (.ended (.exited 3), { files := recorded }) := childProcess_of_arrival 0 arrived
  have seen (code : Int) (files : File.Store) :
      (parent.watch registry.config.timeout (.ended (.exited code), { files := files })).finding =
        .ended (.exited code) := parent.watch_of_prompt _ _ rfl
  obtain ⟨_, heedlessSound, _⟩ :=
    verdict_sound registry start parent {} heedless "probe" [] named (.inl separate)
  obtain ⟨_, heedingSound, conducts⟩ :=
    verdict_sound registry start parent {} heeding "probe" [] named (.inl separate)
  have good : (registry.exitsCorrectly parent {} heeding "probe" []).verdict = .ok () := by
    rw [exitsCorrectly_of_launches launches]
    simp only [heeded, seen]
    have proc : launch.proc = ⟨(), .failure⟩ := Option.some.inj (launches.known.symm.trans rfl)
    rw [proc]
    rfl
  have conduct := conducts launch.environment 0 launch.scene
  obtain ⟨arrival, status, found, proven⟩ := (heedingSound _ _ launches conduct).1 good
  have same : status = .exited 3 := by
    have unique := proven.seen
    simp only [heeded, seen] at unique
    cases unique
    rfl
  refine ⟨?_, good, launch, arrival, launches, found, same ▸ proven⟩
  refine (heedlessSound _ none launches (.astray rfl)).2.1 ?_ _ (seen 1 launch.files)
  intro arrival arrived
  contradiction

/-- A proc with an empty name is called good though its child found no request. -/
theorem Registry.empty_name_good_without_request :
    let registry : Registry Unit := ({} : Registry Unit).succeeds "" ()
    let start : Unit → Request → Scene → Run Unit × Scene := fun _ _ scene =>
      (.ended (.exited 1), scene)
    let parent : Parent := { markerPath := utf8 "/marker", startup := 0 }
    let child : Child := fun environment scene => registry.childProcess start environment 0 scene
    (registry.exitsCorrectly parent {} child "" []).verdict = .ok () ∧
      ∃ launch, registry.Launches parent {} "" [] launch ∧
        registry.arrival? launch.environment launch.files = none := by
  intro registry start parent child
  have separate : registry.config.Separate := by
    constructor <;> decide
  obtain ⟨launch, launches⟩ : ∃ launch, registry.Launches parent {} "" [] launch :=
    ⟨⟨⟨(), .success⟩, _, _⟩, rfl, rfl, _, rfl, by decide, by decide, rfl⟩
  have unasked : registry.config.request? launch.environment = none := by
    obtain ⟨command, built, _, _, environment⟩ := launches.handed
    rw [environment, request?_of_marked built separate, if_pos rfl]
  have ran : child launch.environment launch.scene = (.ended (.exited 0), launch.scene) := by
    simp only [child, childProcess, unasked]
  have proc : launch.proc = ⟨(), .success⟩ := Option.some.inj (launches.known.symm.trans rfl)
  refine ⟨?_, launch, launches, by simp only [arrival?, unasked]⟩
  have kept : (child launch.environment launch.scene).2.files.find? parent.markerPath =
      launch.files.find? parent.markerPath := by
    rw [ran, Launch.scene]
  have seen : (parent.watch registry.config.timeout
      (child launch.environment launch.scene)).finding = .ended (.exited 0) := by
    rw [ran]
    exact parent.watch_of_prompt _ _ rfl
  refine (exitsCorrectly_empty_name launches kept seen).mpr ?_
  rw [proc]
  decide

end Confinement.Harness
