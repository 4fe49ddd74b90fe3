import Confinement.Process.Duration
import Confinement.Process.WaitStatus

/-!
Waiting for a child with a limit. The child is polled; if it still runs and the limit has passed,
it is killed, otherwise the wait goes on after a pause. Main statement: the pauses move the clock
on, so the wait ends.
-/

namespace Confinement.Harness

/-- The pause between two polls. -/
def pollInterval : Duration :=
  .ofMilliseconds 10

/-- What is seen of a child: the status that each poll reports, if it has one, and the reading of
the clock that follows the poll. -/
structure Timeline where
  start : Nat
  seen : Nat → Option WaitStatus
  clock : Nat → Nat
  start_le : start ≤ clock 0
  advances : ∀ poll, clock poll + pollInterval.nanoseconds ≤ clock (poll + 1)

inductive Step where
  | poll
  | pause
  | kill
  | reap
deriving DecidableEq, Repr

inductive Finding where
  | ended (status : WaitStatus)
  | timedOut
deriving DecidableEq, Repr

/-- What was found, at which poll, and the steps taken up to there. -/
structure Watch where
  finding : Finding
  lastPoll : Nat
  steps : List Step
deriving DecidableEq, Repr

namespace Timeline

/-- Watches a child from one poll on, until it has ended or the clock has reached the deadline. -/
def watchFrom (timeline : Timeline) (deadline poll : Nat) : Watch :=
  match timeline.seen poll with
  | some status => ⟨.ended status, poll, [.poll]⟩
  | none =>
      if deadline ≤ timeline.clock poll then ⟨.timedOut, poll, [.poll, .kill, .reap]⟩
      else
        let rest := timeline.watchFrom deadline (poll + 1)
        { rest with steps := .poll :: .pause :: rest.steps }
termination_by deadline - timeline.clock poll
decreasing_by
  have onward := timeline.advances poll
  have interval : 0 < pollInterval.nanoseconds := by decide
  omega

/-- Watches a child for as long as `limit`. -/
def watch (timeline : Timeline) (limit : Duration) : Watch :=
  timeline.watchFrom (timeline.start + limit.nanoseconds) 0

/-- The timeline of a child that ends at a time after the start, or never. -/
def ofEnd (finish : Option (Nat × WaitStatus)) : Timeline where
  start := 0
  seen poll :=
    match finish with
    | some (time, status) =>
        if time ≤ poll * pollInterval.nanoseconds then some status else none
    | none => none
  clock poll := poll * pollInterval.nanoseconds
  start_le := Nat.zero_le _
  advances _ := Nat.le_of_eq (Nat.succ_mul _ _).symm

end Timeline

end Confinement.Harness
