/-!
Histories of a machine: its answers and states, request by request. A machine is a step from a state
and a request to an answer and the next state. What one step keeps every history keeps, also where
it ties the state to all that was asked and answered before, and machines whose steps agree through
a view of the states have histories that agree through it.
-/

namespace Confinement

variable {σ τ ι κ ω : Type}

/-- The answer to each request with the state after it. -/
def history (step : σ → ι → ω × σ) (state : σ) : List ι → List (ω × σ)
  | [] => []
  | request :: requests =>
      step state request :: history step (step state request).2 requests

/-- The states a history visits, the start among them. -/
def visited (step : σ → ι → ω × σ) (start : σ) (requests : List ι) : List σ :=
  start :: (history step start requests).map (·.2)

theorem visited_cons (step : σ → ι → ω × σ) (start : σ) (request : ι) (requests : List ι) :
    visited step start (request :: requests) =
      start :: visited step (step start request).2 requests :=
  rfl

section Invariant

variable (Holds : σ → Prop) (Allowed : ι → Prop) {step : σ → ι → ω × σ} {start : σ}
  {requests : List ι}

theorem visited_invariant
    (keeps : ∀ state request, Holds state → Allowed request → Holds (step state request).2)
    (initial : Holds start) (allowed : ∀ request ∈ requests, Allowed request) :
    ∀ state ∈ visited step start requests, Holds state := by
  induction requests generalizing start with
  | nil =>
      intro state member
      rw [List.mem_singleton.mp member]
      exact initial
  | cons request requests ih =>
      intro state member
      rw [visited_cons] at member
      rcases List.mem_cons.mp member with same | later
      · rw [same]
        exact initial
      · exact ih (keeps start request initial (allowed request List.mem_cons_self))
          (fun other among => allowed other (List.mem_cons_of_mem request among)) state later

/-- A relation between each state and the next holds between all earlier and later states, if it is
transitive. The invariant may be assumed of the earlier state. -/
theorem visited_pairwise (Related : σ → σ → Prop)
    (trans : ∀ {first second third}, Related first second → Related second third →
      Related first third)
    (keeps : ∀ state request, Holds state → Allowed request → Holds (step state request).2)
    (related : ∀ state request, Holds state → Allowed request →
      Related state (step state request).2)
    (initial : Holds start) (allowed : ∀ request ∈ requests, Allowed request) :
    (visited step start requests).Pairwise Related := by
  induction requests generalizing start with
  | nil => exact List.pairwise_singleton Related start
  | cons request requests ih =>
      have head := allowed request List.mem_cons_self
      have tail := fun other among => allowed other (List.mem_cons_of_mem request among)
      have next := keeps start request initial head
      have first := related start request initial head
      rw [visited_cons, List.pairwise_cons]
      refine ⟨?_, ih next tail⟩
      intro state member
      -- The start is related to the next state and, step by step, to every state visited after it.
      have after : Related start state ∧ Holds state :=
        visited_invariant (fun state => Related start state ∧ Holds state) Allowed
          (fun state request held permitted =>
            ⟨trans held.1 (related state request held.2 permitted),
              keeps state request held.2 permitted⟩)
          ⟨first, next⟩ tail state member
      exact after.1

/-- Two machines give the same answers and, through a view, visit the same states, if they do so in
one step from every state with the invariant. -/
theorem history_view {step' : τ → κ → ω × τ} (view : σ → τ) (translate : ι → κ)
    (keeps : ∀ state request, Holds state → Allowed request → Holds (step state request).2)
    (agrees : ∀ state request, Holds state → Allowed request →
      step' (view state) (translate request) = Prod.map id view (step state request))
    (initial : Holds start) (allowed : ∀ request ∈ requests, Allowed request) :
    history step' (view start) (requests.map translate) =
      (history step start requests).map (Prod.map id view) := by
  induction requests generalizing start with
  | nil => rfl
  | cons request requests ih =>
      have head := allowed request List.mem_cons_self
      have tail := fun other among => allowed other (List.mem_cons_of_mem request among)
      rw [List.map_cons, history, history, List.map_cons, agrees start request initial head]
      exact congrArg _ (ih (keeps start request initial head) tail)

end Invariant

/-! What was said up to a state. -/

/-- Each request with the answer it got. -/
def transcript (step : σ → ι → ω × σ) (start : σ) : List ι → List (ι × ω)
  | [] => []
  | request :: requests =>
      (request, (step start request).1) :: transcript step (step start request).2 requests

/-- The state that a history ends in. -/
def final (step : σ → ι → ω × σ) (start : σ) : List ι → σ
  | [] => start
  | request :: requests => final step (step start request).2 requests

section Transcript

variable {step : σ → ι → ω × σ} {start : σ} {requests : List ι}

/-- What ties a state to the transcript so far holds at the end of every history, if it holds at the
start and every step with its line of the transcript keeps it. -/
theorem transcript_invariant (Holds : List (ι × ω) → σ → Prop) (initial : Holds [] start)
    (keeps : ∀ past state request, Holds past state →
      Holds (past ++ [(request, (step state request).1)]) (step state request).2) :
    Holds (transcript step start requests) (final step start requests) := by
  have continued (past : List (ι × ω)) (held : Holds past start) :
      Holds (past ++ transcript step start requests) (final step start requests) := by
    clear initial
    induction requests generalizing start past with
    | nil => simpa only [transcript, final, List.append_nil] using held
    | cons request requests ih =>
        have rest := ih _ (keeps past start request held)
        rwa [List.append_assoc, List.singleton_append] at rest
  exact continued [] initial

/-- Every line of a transcript is what some state says to a request. -/
theorem mem_transcript {entry : ι × ω} (member : entry ∈ transcript step start requests) :
    ∃ state, entry.2 = (step state entry.1).1 := by
  induction requests generalizing start with
  | nil => cases member
  | cons request requests ih =>
      rcases List.mem_cons.mp member with rfl | later
      · exact ⟨start, rfl⟩
      · exact ih later

theorem request_mem_of_mem_transcript {entry : ι × ω}
    (member : entry ∈ transcript step start requests) : entry.1 ∈ requests := by
  induction requests generalizing start with
  | nil => cases member
  | cons request requests ih =>
      rcases List.mem_cons.mp member with rfl | later
      · exact List.mem_cons_self
      · exact List.mem_cons_of_mem request (ih later)

theorem final_append (more : List ι) :
    final step start (requests ++ more) = final step (final step start requests) more := by
  induction requests generalizing start with
  | nil => rfl
  | cons request requests ih => exact ih

theorem transcript_append (more : List ι) :
    transcript step start (requests ++ more) =
      transcript step start requests ++ transcript step (final step start requests) more := by
  induction requests generalizing start with
  | nil => rfl
  | cons request requests ih => exact congrArg (List.cons _) ih

end Transcript

end Confinement
