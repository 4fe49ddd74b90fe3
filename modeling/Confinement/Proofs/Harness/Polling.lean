import Confinement.Harness.Watch

/-!
How a watch over a child goes. A poll that finds the child running, with the clock short of the
deadline, is followed by a pause and one more poll. The first poll that finds anything else is the
last one. Each pause moves the clock on, so the deadline bounds the number of polls.
-/

namespace Confinement.Harness

/-- Polls with the pauses behind them. -/
def idleRounds : Nat → List Step
  | 0 => []
  | count + 1 => .poll :: .pause :: idleRounds count

theorem count_poll_idleRounds (count : Nat) : (idleRounds count).count .poll = count := by
  induction count with
  | zero => rfl
  | succ count ih => rw [idleRounds, List.count_cons_self, List.count_cons_of_ne (by decide), ih]

theorem mem_idleRounds {count : Nat} {step : Step} (member : step ∈ idleRounds count) :
    step = .poll ∨ step = .pause := by
  induction count with
  | zero => cases member
  | succ count ih =>
      rcases List.mem_cons.mp member with same | member
      · exact .inl same
      · rcases List.mem_cons.mp member with same | member
        · exact .inr same
        · exact ih member

theorem kill_notMem_idleRounds (count : Nat) : .kill ∉ idleRounds count := by
  intro member
  rcases mem_idleRounds member with same | same <;> contradiction

theorem reap_notMem_idleRounds (count : Nat) : .reap ∉ idleRounds count := by
  intro member
  rcases mem_idleRounds member with same | same <;> contradiction

namespace Timeline

variable {timeline : Timeline} {deadline poll other : Nat} {limit : Duration}

/-- All polls before one found the child running, and the clock short of the deadline. -/
def Quiet (timeline : Timeline) (deadline poll : Nat) : Prop :=
  ∀ earlier < poll, timeline.seen earlier = none ∧ timeline.clock earlier < deadline

theorem quiet_zero : timeline.Quiet deadline 0 := by
  intro earlier before
  contradiction

theorem Quiet.succ (quiet : timeline.Quiet deadline poll) (unseen : timeline.seen poll = none)
    (early : timeline.clock poll < deadline) : timeline.Quiet deadline (poll + 1) := by
  intro earlier before
  rcases Nat.lt_succ_iff_lt_or_eq.mp before with before | rfl
  · exact quiet earlier before
  · exact ⟨unseen, early⟩

/-- What is found at the last poll, and the steps from there on. -/
inductive Stops (timeline : Timeline) (deadline poll : Nat) : Finding → List Step → Prop
  | ended {status : WaitStatus} (seen : timeline.seen poll = some status) :
      timeline.Stops deadline poll (.ended status) [.poll]
  | timedOut (unseen : timeline.seen poll = none) (late : deadline ≤ timeline.clock poll) :
      timeline.Stops deadline poll .timedOut [.poll, .kill, .reap]

theorem Stops.decisive {finding : Finding} {steps : List Step}
    (stops : timeline.Stops deadline poll finding steps) :
    ¬ (timeline.seen poll = none ∧ timeline.clock poll < deadline) := by
  rintro ⟨unseen, early⟩
  cases stops with
  | ended seen =>
      rw [unseen] at seen
      contradiction
  | timedOut _ late => exact Nat.not_lt.mpr late early

theorem watchFrom_run (quiet : timeline.Quiet deadline poll) :
    ∃ last finding steps, poll ≤ last ∧ timeline.Quiet deadline last ∧
      timeline.Stops deadline last finding steps ∧
      timeline.watchFrom deadline poll = ⟨finding, last, idleRounds (last - poll) ++ steps⟩ := by
  -- Along the loop. A round that goes on was quiet, so what was quiet up to it grows by one poll.
  fun_induction watchFrom timeline deadline poll with
  | case1 poll status seen =>
      refine ⟨poll, _, _, Nat.le_refl poll, quiet, .ended seen, ?_⟩
      rw [Nat.sub_self]
      rfl
  | case2 poll unseen late =>
      refine ⟨poll, _, _, Nat.le_refl poll, quiet, .timedOut unseen late, ?_⟩
      rw [Nat.sub_self]
      rfl
  | case3 poll unseen early rest ih =>
      obtain ⟨last, finding, steps, after, quiet, stops, run⟩ :=
        ih (quiet.succ unseen (Nat.not_le.mp early))
      refine ⟨last, finding, steps, Nat.le_of_succ_le after, quiet, stops, ?_⟩
      have count : last - poll = (last - (poll + 1)) + 1 := by omega
      simp only [rest, run, count, idleRounds, List.cons_append]

theorem watch_run (timeline : Timeline) (limit : Duration) :
    ∃ last finding steps, timeline.Quiet (timeline.start + limit.nanoseconds) last ∧
      timeline.Stops (timeline.start + limit.nanoseconds) last finding steps ∧
      timeline.watch limit = ⟨finding, last, idleRounds last ++ steps⟩ := by
  have start : timeline.Quiet (timeline.start + limit.nanoseconds) 0 := quiet_zero
  obtain ⟨last, finding, steps, _, quiet, stops, run⟩ := watchFrom_run start
  exact ⟨last, finding, steps, quiet, stops, run⟩

/-! A watch is told by the one poll that it stops at. -/

section Stop

variable {finding own : Finding} {steps rest : List Step}

theorem Quiet.le_of_stops (quiet : timeline.Quiet deadline poll)
    (stops : timeline.Stops deadline other finding steps) : poll ≤ other :=
  Nat.le_of_not_lt fun before => stops.decisive (quiet other before)

theorem Stops.unique (stops : timeline.Stops deadline poll finding steps)
    (again : timeline.Stops deadline poll own rest) : own = finding ∧ rest = steps := by
  cases stops with
  | ended seen =>
      cases again with
      | ended same =>
          rw [seen] at same
          cases same
          exact ⟨rfl, rfl⟩
      | timedOut unseen _ =>
          rw [seen] at unseen
          contradiction
  | timedOut unseen _ =>
      cases again with
      | ended seen =>
          rw [unseen] at seen
          contradiction
      | timedOut _ _ => exact ⟨rfl, rfl⟩

theorem watch_of_stops (quiet : timeline.Quiet (timeline.start + limit.nanoseconds) poll)
    (stops : timeline.Stops (timeline.start + limit.nanoseconds) poll finding steps) :
    timeline.watch limit = ⟨finding, poll, idleRounds poll ++ steps⟩ := by
  obtain ⟨last, own, rest, quietLast, stopsLast, run⟩ := watch_run timeline limit
  have same : last = poll :=
    Nat.le_antisymm (quietLast.le_of_stops stops) (quiet.le_of_stops stopsLast)
  subst same
  obtain ⟨rfl, rfl⟩ := stops.unique stopsLast
  exact run

theorem finding_watch_eq_ended_iff {status : WaitStatus} :
    (timeline.watch limit).finding = .ended status ↔
      ∃ poll, timeline.seen poll = some status ∧
        timeline.Quiet (timeline.start + limit.nanoseconds) poll := by
  constructor
  · intro found
    obtain ⟨last, finding, steps, quiet, stops, run⟩ := watch_run timeline limit
    rw [run] at found
    cases found
    cases stops with
    | ended seen => exact ⟨last, seen, quiet⟩
  · rintro ⟨poll, seen, quiet⟩
    rw [watch_of_stops quiet (.ended seen)]

/-- No poll that is made sees an end but the last, and then that end is found. -/
theorem finding_watch_of_seen {status : WaitStatus} (made : poll ≤ (timeline.watch limit).lastPoll)
    (seen : timeline.seen poll = some status) :
    (timeline.watch limit).finding = .ended status := by
  obtain ⟨last, _, _, quiet, _, run⟩ := watch_run timeline limit
  rw [run] at made
  exact finding_watch_eq_ended_iff.mpr
    ⟨poll, seen, fun earlier before => quiet earlier (Nat.lt_of_lt_of_le before made)⟩

theorem steps_watch_of_ended {status : WaitStatus}
    (found : (timeline.watch limit).finding = .ended status) :
    Step.kill ∉ (timeline.watch limit).steps ∧ Step.reap ∉ (timeline.watch limit).steps := by
  obtain ⟨poll, seen, quiet⟩ := finding_watch_eq_ended_iff.mp found
  rw [watch_of_stops quiet (.ended seen)]
  simp [kill_notMem_idleRounds, reap_notMem_idleRounds]

theorem steps_watch_of_timedOut (found : (timeline.watch limit).finding = .timedOut) :
    ∃ polls, (timeline.watch limit).steps = idleRounds polls ++ [.poll, .kill, .reap] ∧
      timeline.seen polls = none ∧
      timeline.start + limit.nanoseconds ≤ timeline.clock polls := by
  obtain ⟨last, finding, steps, quiet, stops, run⟩ := watch_run timeline limit
  rw [run] at found
  cases found
  cases stops with
  | timedOut unseen late =>
      rw [run]
      exact ⟨last, rfl, unseen, late⟩

theorem count_poll_watch :
    (timeline.watch limit).steps.count .poll = (timeline.watch limit).lastPoll + 1 := by
  obtain ⟨last, finding, steps, _, stops, run⟩ := watch_run timeline limit
  rw [run, List.count_append, count_poll_idleRounds]
  cases stops <;> rfl

end Stop

/-! The clock bounds the polls. -/

theorem clock_le (timeline : Timeline) (poll : Nat) :
    timeline.start + poll * pollInterval.nanoseconds ≤ timeline.clock poll := by
  induction poll with
  | zero =>
      rw [Nat.zero_mul]
      exact timeline.start_le
  | succ poll ih =>
      have onward := timeline.advances poll
      rw [Nat.succ_mul]
      omega

/-- The last pause that a watch takes begins ahead of the deadline. -/
theorem Quiet.le_div (quiet : timeline.Quiet (timeline.start + limit.nanoseconds) poll) :
    poll ≤ (limit.nanoseconds + pollInterval.nanoseconds - 1) / pollInterval.nanoseconds := by
  have interval : 0 < pollInterval.nanoseconds := by decide
  rw [Nat.le_div_iff_mul_le interval]
  cases poll with
  | zero =>
      rw [Nat.zero_mul]
      exact Nat.zero_le _
  | succ before =>
      have early := (quiet before (Nat.lt_succ_self before)).2
      have reached := timeline.clock_le before
      rw [Nat.succ_mul]
      omega

theorem count_poll_watch_le :
    (timeline.watch limit).steps.count .poll ≤
      (limit.nanoseconds + pollInterval.nanoseconds - 1) / pollInterval.nanoseconds + 1 := by
  obtain ⟨last, _, _, quiet, _, run⟩ := watch_run timeline limit
  have bound := quiet.le_div
  rw [count_poll_watch, run]
  exact Nat.succ_le_succ bound

end Timeline

end Confinement.Harness
