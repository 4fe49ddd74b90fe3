import Confinement.Proofs.Harness.Polling
import Confinement.Proofs.Harness.Soundness

/-!
What waiting for a child gives. The first poll that sees the child at its end settles the wait if
the clock was short of the deadline up to there, and otherwise the child is killed when the deadline
has passed. Main statement: `wait_settled_by_polls`.
-/

namespace Confinement.Harness

/-- What a parent is told that waits for a child: how the child ended, or that it outlasted the
limit. -/
def Config.wait (config : Config) (name : String) (timeline : Timeline) : Except Error WaitStatus :=
  match (timeline.watch config.timeout).finding with
  | .ended status => .ok status
  | .timedOut => .error (.timeout name config.timeout)

/-- The first poll to see an end sees this one, and after every poll before it the clock was short
of the deadline. -/
def Timeline.EndsAhead (timeline : Timeline) (deadline : Nat) (status : WaitStatus) : Prop :=
  ∃ poll, timeline.seen poll = some status ∧
    (∀ earlier < poll, timeline.seen earlier = none) ∧
    ∀ earlier < poll, timeline.clock earlier < deadline

section Wait

variable {config : Config} {name : String} {timeline : Timeline}

theorem Config.wait_eq_ok_iff_finding {status : WaitStatus} :
    config.wait name timeline = .ok status ↔
      (timeline.watch config.timeout).finding = .ended status := by
  unfold wait
  cases (timeline.watch config.timeout).finding <;> simp

theorem Config.wait_eq_error_iff_finding {error : Error} :
    config.wait name timeline = .error error ↔
      error = .timeout name config.timeout ∧
        (timeline.watch config.timeout).finding = .timedOut := by
  unfold wait
  cases (timeline.watch config.timeout).finding <;> simp [eq_comm]

theorem Timeline.endsAhead_iff {deadline : Nat} {status : WaitStatus} :
    timeline.EndsAhead deadline status ↔
      ∃ poll, timeline.seen poll = some status ∧ timeline.Quiet deadline poll := by
  constructor
  · rintro ⟨poll, seen, unseen, early⟩
    exact ⟨poll, seen, fun earlier before => ⟨unseen earlier before, early earlier before⟩⟩
  · rintro ⟨poll, seen, quiet⟩
    exact ⟨poll, seen, fun earlier before => (quiet earlier before).1,
      fun earlier before => (quiet earlier before).2⟩

theorem Config.wait_eq_ok_iff {status : WaitStatus} :
    config.wait name timeline = .ok status ↔
      timeline.EndsAhead (timeline.start + config.timeout.nanoseconds) status := by
  rw [wait_eq_ok_iff_finding, Timeline.finding_watch_eq_ended_iff, Timeline.endsAhead_iff]

theorem Config.wait_eq_error_iff {error : Error} :
    config.wait name timeline = .error error ↔
      error = .timeout name config.timeout ∧
        ¬ ∃ status, timeline.EndsAhead (timeline.start + config.timeout.nanoseconds) status := by
  have ended (status : WaitStatus) :
      timeline.EndsAhead (timeline.start + config.timeout.nanoseconds) status ↔
        (timeline.watch config.timeout).finding = .ended status := by
    rw [Timeline.endsAhead_iff, Timeline.finding_watch_eq_ended_iff]
  rw [wait_eq_error_iff_finding]
  simp only [ended]
  cases (timeline.watch config.timeout).finding <;> simp

end Wait

/-- A parent judges a child by its end, once it has waited for it. -/
theorem Registry.verdict_of_wait {β : Type} {registry : Registry β} {parent : Parent}
    {files : File.Store} {child : Child} {name : String} {argument : Bytes} {launch : Launch β}
    (launches : registry.Launches parent files name argument launch) :
    (registry.exitsCorrectly parent files child name argument).verdict =
      let result := child launch.environment launch.scene
      (registry.config.wait name
        (Timeline.ofEnd (result.1.finish? parent.startup result.2.elapsed))).bind fun status =>
          judge name launch.proc (result.2.files.read parent.markerPath) status := by
  rw [exitsCorrectly_of_launches launches]
  simp only [Config.wait, Parent.watch]
  generalize (Timeline.watch _ _).finding = finding
  cases finding <;> rfl

/-- Whatever a child does and however the clock goes on, but by the pauses at least. The wait takes
no more polls than pauses fill the limit, and one. It gives the first end that a poll sees if the
clock was short of the deadline after every poll before, and else it says that the limit has passed;
an end that any poll of it sees is never taken for that. The child is killed and reaped once in the
one case, after a poll that found it running with the clock at the deadline or past it, and not in
the other. A verdict on a child is told from its wait. -/
theorem wait_settled_by_polls {β : Type} (registry : Registry β) (name : String) :
    (∀ timeline : Timeline,
      let limit := registry.config.timeout
      let deadline := timeline.start + limit.nanoseconds
      let steps := (timeline.watch limit).steps
      let answer := registry.config.wait name timeline
      steps.count .poll ≤
        (limit.nanoseconds + pollInterval.nanoseconds - 1) / pollInterval.nanoseconds + 1 ∧
      (∀ status, answer = .ok status ↔ timeline.EndsAhead deadline status) ∧
      (∀ error, answer = .error error ↔
        error = .timeout name limit ∧ ¬ ∃ status, timeline.EndsAhead deadline status) ∧
      (∀ poll < steps.count .poll, ∀ status, timeline.seen poll = some status →
        answer = .ok status) ∧
      (∀ status, answer = .ok status → .kill ∉ steps ∧ .reap ∉ steps) ∧
      (∀ error, answer = .error error → ∃ before, steps = before ++ [.poll, .kill, .reap] ∧
        .kill ∉ before ∧ .reap ∉ before ∧ timeline.seen (before.count .poll) = none ∧
        deadline ≤ timeline.clock (before.count .poll))) ∧
    ∀ parent files child argument launch,
      registry.Launches parent files name argument launch →
      (registry.exitsCorrectly parent files child name argument).verdict =
        let result := child launch.environment launch.scene
        (registry.config.wait name
          (Timeline.ofEnd (result.1.finish? parent.startup result.2.elapsed))).bind fun status =>
            judge name launch.proc (result.2.files.read parent.markerPath) status := by
  refine ⟨?_, fun parent files child argument launch => Registry.verdict_of_wait⟩
  intro timeline limit deadline steps answer
  refine ⟨Timeline.count_poll_watch_le, fun status => Config.wait_eq_ok_iff,
    fun error => Config.wait_eq_error_iff, ?_, ?_, ?_⟩
  · intro poll made status seen
    rw [Timeline.count_poll_watch] at made
    have found := Timeline.finding_watch_of_seen (Nat.le_of_lt_succ made) seen
    exact Config.wait_eq_ok_iff_finding.mpr found
  · intro status ended
    exact Timeline.steps_watch_of_ended (Config.wait_eq_ok_iff_finding.mp ended)
  · intro error failed
    obtain ⟨polls, run, unseen, late⟩ :=
      Timeline.steps_watch_of_timedOut (Config.wait_eq_error_iff_finding.mp failed).2
    refine ⟨idleRounds polls, run, kill_notMem_idleRounds polls, reap_notMem_idleRounds polls, ?_⟩
    rw [count_poll_idleRounds]
    exact ⟨unseen, late⟩

/-- A child that is seen to have ended by the poll that finds the deadline passed, and one that never
ends, which takes as many polls as there may be. -/
theorem wait_settled_by_polls_race :
    let registry : Registry Unit :=
      ({ config := { timeout := .ofMilliseconds 25 } } : Registry Unit).succeeds "probe" ()
    let limit := registry.config.timeout
    let late := Timeline.ofEnd (some (30000000, .exited 3))
    let hung := Timeline.ofEnd none
    let parent : Parent := { markerPath := utf8 "/marker" }
    let child : Child := fun _ scene => (.stopped, scene)
    registry.config.wait "probe" late = .ok (.exited 3) ∧ limit.nanoseconds ≤ late.clock 3 ∧
      registry.config.wait "probe" hung = .error (.timeout "probe" limit) ∧
      (hung.watch limit).steps.count .poll ≤ 4 ∧
      (∃ before, (hung.watch limit).steps = before ++ [.poll, .kill, .reap] ∧
        limit.nanoseconds ≤ hung.clock (before.count .poll)) ∧
      (∃ launch, registry.Launches parent {} "probe" [] launch) ∧
      (registry.exitsCorrectly parent {} child "probe" []).verdict =
        .error (.timeout "probe" limit) := by
  intro registry limit late hung parent child
  obtain ⟨waits, judged⟩ := wait_settled_by_polls registry "probe"
  have ahead : late.EndsAhead (late.start + limit.nanoseconds) (.exited 3) :=
    ⟨3, by decide, by decide, by decide⟩
  obtain ⟨_, ended, _⟩ := waits late
  obtain ⟨bound, _, passed, _, _, killed⟩ := waits hung
  have outlasted : registry.config.wait "probe" hung = .error (.timeout "probe" limit) := by
    refine (passed _).mpr ⟨rfl, ?_⟩
    rintro ⟨status, poll, seen, _⟩
    contradiction
  obtain ⟨before, run, _, _, _, due⟩ := killed _ outlasted
  obtain ⟨launch, launches⟩ : ∃ launch, registry.Launches parent {} "probe" [] launch :=
    ⟨⟨⟨(), .success⟩, _, _⟩, rfl, rfl, _, rfl, by decide, by decide, rfl⟩
  refine ⟨(ended _).mpr ahead, by decide, outlasted, Nat.le_trans bound (by decide),
    ⟨before, run, ?_⟩, ⟨launch, launches⟩, ?_⟩
  · rwa [show hung.start + limit.nanoseconds = limit.nanoseconds from Nat.zero_add _] at due
  · rw [judged parent {} child [] launch launches]
    exact congrArg (Except.bind · _) outlasted

end Confinement.Harness
