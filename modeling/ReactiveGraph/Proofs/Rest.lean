import ReactiveGraph.Proofs.Silence

namespace ReactiveGraph

/-!
# Coming to rest

Settling a graph ends if the passes bring no new inputs.  Each waiting input
takes one pass, and after the last of them lags can only drive as many as the
limit allows.  If passes do bring inputs or go on for ever, there is nothing
to be said of when settling ends, but all the more of what it then has come
to: either the graph is at rest, and settling it once more does nothing, or
one step has failed, and those before it have each run one pass.
-/

variable {α σ : Type}

/-- Whether a step that fails for this reason has not run a pass. -/
def GraphError.stopsShort : GraphError → Bool
  | wiring _ => true
  | feedbackLimit _ => true
  | _ => false

namespace Graph

theorem Reachable.within {graph : Graph α σ} (reachable : graph.Reachable) :
    graph.feedbackPasses ≤ graph.config.maxFeedbackPasses.toNat := by
  apply reachable.invariant
    (P := fun graph => graph.feedbackPasses ≤ graph.config.maxFeedbackPasses.toNat)
  · exact fun config => Nat.zero_le _
  · intro operation other within
    have counts := counts_perform operation other
    rw [counts.config]
    exact counts.bounded within

theorem passCount_of_true {graph : Graph α σ} (ran : graph.step.result = .ok true) :
    graph.step.state.passCount = graph.passCount + 1 := by
  rcases step_true ran with ⟨closed, answer, _, state, _⟩
  rcases close_frame answer with ⟨order, registry, rfl⟩
  rw [state]
  rfl

theorem resting_step {graph : Graph α σ} (idle : graph.step.result = .ok false) :
    graph.step.state.passCount = graph.passCount ∧ graph.step.state.Resting := by
  rcases graph.step_cases with
    ⟨cause, _, same⟩ | ⟨closed, answer, ⟨empty, unarmed, same⟩ | ⟨_, _, _, same⟩ | ⟨_, same⟩⟩
  · rw [same] at idle
    cases idle
  · rw [same]
    refine ⟨?_, isSealed_close answer, armed_of_isArmed unarmed, empty⟩
    rcases close_frame answer with ⟨order, registry, rfl⟩
    rfl
  · rw [same] at idle
    cases idle
  · rw [same] at idle
    cases ended : closed.nextPass.result with
    | error error =>
        rw [ended] at idle
        cases idle
    | ok =>
        rw [ended] at idle
        cases idle

theorem ran_of_counted {graph : Graph α σ} {ran : Bool} (ok : graph.step.result = .ok ran)
    (counted : graph.step.state.passCount ≠ graph.passCount) : ran = true := by
  cases ran with
  | false => exact absurd (resting_step ok).1 counted
  | true => rfl

/-- A step that fails has run a pass unless it has stopped short of it. -/
theorem passCount_of_error {graph : Graph α σ} {error : GraphError}
    (failed : graph.step.result = .error error) :
    graph.step.state.passCount = graph.passCount + if error.stopsShort then 0 else 1 := by
  rcases step_error failed with
    ⟨cause, rfl, _, same⟩ | ⟨closed, answer, ⟨_, _, _, rfl, same⟩ | ⟨ended, same⟩⟩
  · rw [same]
    rfl
  · rcases close_frame answer with ⟨order, registry, rfl⟩
    rw [same]
    rfl
  · rcases nextPass_fails ended with ⟨unlimited, wired⟩
    have passed : error.stopsShort = false := by
      cases error with
      | wiring cause => exact absurd rfl (wired cause)
      | feedbackLimit limit => exact absurd rfl (unlimited limit)
      | _ => rfl
    rcases close_frame answer with ⟨order, registry, rfl⟩
    rw [same, passed]
    rfl

theorem Reachable.step {graph : Graph α σ} (reachable : graph.Reachable) :
    graph.step.state.Reachable := by
  have once := reachable.run [.step]
  rw [run_cons] at once
  exact once

/-- A step has run a pass, and the queue has lost an input, if there was one,
and gained none. -/
structure Advances (graph : Graph α σ) : Prop where
  counted : graph.step.state.passCount = graph.passCount + 1
  taken : graph.step.events.filterMap Event.consumed? = graph.queue.waiting.head?.toList
  waiting : graph.step.state.queue.waiting = graph.queue.waiting.tail
  config : graph.step.state.config = graph.config
  feedback : graph.step.state.feedbackPasses =
    if graph.queue.waiting.isEmpty then graph.feedbackPasses + 1 else 0
  within : graph.step.state.feedbackPasses ≤ graph.config.maxFeedbackPasses.toNat

theorem Reachable.advances {graph : Graph α σ} (reachable : graph.Reachable)
    (nothing : graph.step.events.filterMap Event.accepted? = [])
    (counted : graph.step.state.passCount ≠ graph.passCount) : graph.Advances := by
  have abandoned := reachable.abandoned counted
  have counts := counts_step graph
  have waiting := abandoned.waiting
  rw [nothing, List.append_nil] at waiting
  refine ⟨abandoned.counted, abandoned.taken, waiting, counts.config, ?_,
    counts.bounded reachable.within⟩
  rcases step_passed counted with ⟨closed, answer, same⟩
  rcases close_frame answer with ⟨order, registry, rfl⟩
  rw [same]
  rfl

/-- How many passes there can be at most if no further input is accepted: one
for each that waits, and then as many as lags may drive in a row. -/
def allowance (graph : Graph α σ) : Nat :=
  if graph.queue.waiting.isEmpty then
    graph.config.maxFeedbackPasses.toNat - graph.feedbackPasses
  else graph.queue.waiting.length + graph.config.maxFeedbackPasses.toNat

theorem Advances.allowance {graph : Graph α σ} (advances : graph.Advances) :
    graph.step.state.allowance < graph.allowance := by
  have within := advances.within
  rw [Graph.allowance, Graph.allowance, advances.config, advances.waiting]
  rw [advances.feedback] at within ⊢
  cases waiting : graph.queue.waiting with
  | nil =>
      simp only [waiting, List.isEmpty_nil, List.tail_nil, if_true] at within ⊢
      omega
  | cons input rest => cases rest <;> simp

/-! ## Settling without new inputs -/

/-- Settling the graph takes a certain number of passes.  Each waiting input
takes one, in order, and then there are no more than lags may drive, where
those before it count as well if no input waits.  Inputs are left only if a
step has failed, and not for the limit. -/
structure Course (graph : Graph α σ) (passes : Nat) (outcome : Outcome α (Graph α σ) Nat) :
    Prop where
  settles : ∀ fuel, passes < fuel → settle fuel graph = some outcome
  counted : outcome.state.passCount = graph.passCount + passes
  bounded : passes ≤ graph.queue.waiting.length + graph.config.maxFeedbackPasses.toNat
  carried : graph.queue.waiting = [] →
    graph.feedbackPasses + passes ≤ graph.config.maxFeedbackPasses.toNat
  taken : ∀ pass, pass < passes →
    (graph.stepped pass).state.step.events.filterMap Event.consumed? =
      graph.queue.waiting[pass]?.toList
  waiting : outcome.state.queue.waiting = graph.queue.waiting.drop passes
  cut : passes < graph.queue.waiting.length →
    ∃ error, outcome.result = .error error ∧ ∀ limit, error ≠ .feedbackLimit limit

theorem settle_failed {graph : Graph α σ} {error : GraphError}
    (failed : graph.step.result = .error error) (fuel : Nat) :
    settle (fuel + 1) graph = some ⟨graph.step.state, graph.step.events, .error error⟩ := by
  rw [settle, failed]

theorem settle_idle {graph : Graph α σ} (idle : graph.step.result = .ok false) (fuel : Nat) :
    settle (fuel + 1) graph = some ⟨graph.step.state, graph.step.events, .ok 0⟩ := by
  rw [settle, idle]

theorem settle_ran {graph : Graph α σ} (ran : graph.step.result = .ok true) {fuel : Nat}
    {rest : Outcome α (Graph α σ) Nat} (later : settle fuel graph.step.state = some rest) :
    settle (fuel + 1) graph =
      some { rest with
        events := graph.step.events ++ rest.events
        result := rest.result.map (· + 1) } := by
  rw [settle, ran]
  simp only [later, Option.map_some]

/-- If the settling ends with the first step, which runs no pass, that is all,
provided that no input waits or that the step has failed. -/
theorem course_stops {graph : Graph α σ} (reachable : graph.Reachable)
    (still : graph.step.state.passCount = graph.passCount) {result : Except GraphError Nat}
    (ends : ∀ fuel, settle (fuel + 1) graph =
      some ⟨graph.step.state, graph.step.events, result⟩)
    (cut : graph.queue.waiting = [] ∨
      ∃ error, result = .error error ∧ ∀ limit, error ≠ .feedbackLimit limit) :
    graph.Course 0 ⟨graph.step.state, graph.step.events, result⟩ where
  settles := by
    intro fuel enough
    cases fuel with
    | zero => exact absurd enough (Nat.lt_irrefl 0)
    | succ fuel => exact ends fuel
  counted := still
  bounded := Nat.zero_le _
  carried _ := reachable.within
  taken := by
    intro pass early
    exact absurd early (Nat.not_lt_zero pass)
  waiting := by
    rcases (step_still still).2 with ⟨order, registry, same | same⟩
    · rw [same]
      rfl
    · rw [same]
      rfl
  cut := by
    intro short
    rcases cut with empty | cut
    · rw [empty] at short
      exact absurd short (Nat.lt_irrefl 0)
    · exact cut

theorem course_still {graph : Graph α σ} (reachable : graph.Reachable)
    (still : graph.step.state.passCount = graph.passCount) :
    ∃ outcome, graph.Course 0 outcome := by
  rcases graph.step_cases with
    ⟨cause, _, same⟩ | ⟨closed, answer, ⟨empty, _, same⟩ | ⟨empty, _, _, same⟩ | ⟨_, same⟩⟩
  · have failed : graph.step.result = .error (.wiring cause) := by rw [same]; rfl
    refine ⟨_, course_stops reachable still (settle_failed failed) (Or.inr ⟨_, rfl, ?_⟩)⟩
    rintro limit ⟨⟩
  · have idle : graph.step.result = .ok false := by rw [same]; rfl
    rcases close_frame answer with ⟨order, registry, rfl⟩
    exact ⟨_, course_stops reachable still (settle_idle idle) (Or.inl empty)⟩
  · have failed : graph.step.result =
        .error (.feedbackLimit closed.config.maxFeedbackPasses.toNat) := by rw [same]; rfl
    rcases close_frame answer with ⟨order, registry, rfl⟩
    exact ⟨_, course_stops reachable still (settle_failed failed) (Or.inl empty)⟩
  · rcases close_frame answer with ⟨order, registry, rfl⟩
    rw [same] at still
    exact absurd still (Nat.succ_ne_self graph.passCount)

theorem Advances.course_failed {graph : Graph α σ} (advances : graph.Advances)
    {error : GraphError} (failed : graph.step.result = .error error) :
    graph.Course 1 ⟨graph.step.state, graph.step.events, .error error⟩ where
  settles := by
    intro fuel enough
    cases fuel with
    | zero => exact absurd enough (Nat.not_lt_zero 1)
    | succ fuel => exact settle_failed failed fuel
  counted := advances.counted
  bounded := by
    have within := advances.within
    rw [advances.feedback] at within
    cases waiting : graph.queue.waiting with
    | nil =>
        simp only [waiting, List.isEmpty_nil, if_true] at within
        omega
    | cons input rest =>
        rw [List.length_cons]
        omega
  carried := by
    intro empty
    have within := advances.within
    rw [advances.feedback, empty] at within
    exact within
  taken := by
    intro pass early
    rw [Nat.lt_one_iff.mp early, ← List.head?_eq_getElem?]
    exact advances.taken
  waiting := by rw [List.drop_one]; exact advances.waiting
  cut := by
    intro _
    refine ⟨error, rfl, ?_⟩
    rintro limit rfl
    have still := passCount_of_error failed
    rw [advances.counted] at still
    exact absurd still (Nat.succ_ne_self graph.passCount)

theorem Advances.course_ran {graph : Graph α σ} (advances : graph.Advances)
    (ran : graph.step.result = .ok true) {passes : Nat} {rest : Outcome α (Graph α σ) Nat}
    (course : graph.step.state.Course passes rest) :
    graph.Course (passes + 1)
      { rest with
        events := graph.step.events ++ rest.events
        result := rest.result.map (· + 1) } where
  settles := by
    intro fuel enough
    cases fuel with
    | zero => exact absurd enough (Nat.not_lt_zero _)
    | succ fuel => exact settle_ran ran (course.settles fuel (Nat.lt_of_succ_lt_succ enough))
  counted := by
    rw [course.counted, advances.counted]
    omega
  bounded := by
    have bounded := course.bounded
    have carried := course.carried
    rw [advances.waiting, advances.config] at bounded
    rw [advances.waiting, advances.config, advances.feedback] at carried
    cases waiting : graph.queue.waiting with
    | nil =>
        simp only [waiting, List.tail_nil, List.isEmpty_nil, if_true] at carried
        have carried := carried trivial
        omega
    | cons input others =>
        simp only [waiting, List.tail_cons] at bounded
        rw [List.length_cons]
        omega
  carried := by
    intro empty
    have carried := course.carried
    rw [advances.waiting, advances.config, advances.feedback, empty] at carried
    have carried := carried rfl
    rw [List.isEmpty_nil, if_pos rfl] at carried
    omega
  taken := by
    intro pass early
    cases pass with
    | zero =>
        rw [← List.head?_eq_getElem?]
        exact advances.taken
    | succ pass =>
        have taken := course.taken pass (Nat.lt_of_succ_lt_succ early)
        rw [advances.waiting, List.getElem?_tail] at taken
        rw [stepped_succ]
        exact taken
  waiting := by
    rw [course.waiting, advances.waiting, List.drop_tail]
  cut := by
    intro short
    have cut := course.cut
    rw [advances.waiting, List.length_tail] at cut
    rcases cut (by omega) with ⟨error, failed, unlimited⟩
    exact ⟨error, by rw [failed]; rfl, unlimited⟩

/-- As long as no input is accepted, settling a graph ends. -/
theorem Reachable.course {graph : Graph α σ} (reachable : graph.Reachable)
    (undisturbed : graph.Undisturbed) : ∃ passes outcome, graph.Course passes outcome := by
  -- The allowance shrinks with every pass.
  induction bound : graph.allowance using Nat.strongRecOn generalizing graph with
  | ind _ ih =>
      by_cases counted : graph.step.state.passCount = graph.passCount
      · exact ⟨0, course_still reachable counted⟩
      · rcases undisturbed.step with ⟨nothing, later⟩
        have advances := reachable.advances nothing counted
        cases result : graph.step.result with
        | error error => exact ⟨1, _, advances.course_failed result⟩
        | ok ran =>
            have ran : graph.step.result = .ok true := by
              rw [result, ran_of_counted result counted]
            rcases ih _ (bound ▸ advances.allowance) reachable.step later rfl with
              ⟨passes, rest, course⟩
            exact ⟨passes + 1, _, advances.course_ran ran course⟩

/-- Settling the graph has come to an end with nothing left to do. -/
structure Settled (graph : Graph α σ) (passes : Nat) (after : Graph α σ) : Prop where
  counted : after.passCount = graph.passCount + passes
  empty : after.queue.waiting = []
  unarmed : ∀ detector lag, after.lag? detector = some lag → lag.armed = none
  idle : after.hasPending = false
  again : ∀ fuel, settle (fuel + 1) after = some (.done after 0)

theorem settle_ok {fuel : Nat} {graph : Graph α σ} {outcome : Outcome α (Graph α σ) Nat}
    {passes : Nat} (settled : settle fuel graph = some outcome)
    (ok : outcome.result = .ok passes) :
    outcome.state.passCount = graph.passCount + passes ∧ outcome.state.Resting := by
  induction fuel generalizing graph outcome passes with
  | zero => cases settled
  | succ fuel ih =>
      rcases settle_cases settled with ⟨_, _, rfl⟩ | ⟨idle, rfl⟩ | ⟨ran, rest, later, rfl⟩
      · cases ok
      · cases ok
        exact resting_step idle
      · cases result : rest.result with
        | error error =>
            simp only [result] at ok
            cases ok
        | ok count =>
            simp only [result] at ok
            cases ok
            rcases ih later result with ⟨counted, resting⟩
            refine ⟨?_, resting⟩
            rw [counted, passCount_of_true ran, Nat.add_assoc, Nat.add_comm 1 count]

theorem Resting.settled {graph after : Graph α σ} (resting : after.Resting) {passes : Nat}
    (counted : after.passCount = graph.passCount + passes) : graph.Settled passes after where
  counted := counted
  empty := resting.empty
  unarmed _ _ := resting.lag_unarmed
  idle := resting.hasPending
  again fuel := by
    have idle := settle_idle (by rw [resting.step]; rfl) fuel
    rw [resting.step] at idle
    exact idle

/-- The steps that succeed have each run a pass, and so has the one that
fails, unless it has stopped short of it. -/
theorem FailsAfter.counted {graph : Graph α σ} {steps : Nat} {error : GraphError}
    (fails : graph.FailsAfter steps error) :
    (graph.stepped (steps + 1)).state.passCount =
      graph.passCount + steps + if error.stopsShort then 0 else 1 := by
  induction steps generalizing graph with
  | zero =>
      rw [stepped_succ]
      exact passCount_of_error fails.failed
  | succ steps ih =>
      rcases fails.succ with ⟨ran, later⟩
      have counted := ih later
      rw [passCount_of_true ran] at counted
      rw [graph.stepped_succ (steps + 1), Outcome.behind, counted]
      omega

/-- What can be said of settling a graph that has come about by the given
operations.  If only silent detectors have been added, no pass brings an
input, and then settling ends.  If it ends well, it has counted its passes,
and nothing is left to do.  If it fails, there have been as many passes as
steps that succeeded, and one more if it is a pass that has failed. -/
structure ComesToRest (operations : List (Operation α σ)) (graph : Graph α σ) : Prop where
  undisturbed : (∀ detector, .add detector ∈ operations → detector.behaviour.Silent) →
    graph.Undisturbed
  terminates : graph.Undisturbed → ∃ passes outcome, graph.Course passes outcome
  settled : ∀ fuel outcome passes, settle fuel graph = some outcome →
    outcome.result = .ok passes → graph.Settled passes outcome.state
  failed : ∀ fuel outcome error, settle fuel graph = some outcome →
    outcome.result = .error error → ∃ passes, graph.FailsAfter passes error ∧
      outcome.state.passCount = graph.passCount + passes + if error.stopsShort then 0 else 1

/-- Every graph comes to rest, unless its passes feed it. -/
theorem comes_to_rest (config : Config) (operations : List (Operation α σ)) :
    ComesToRest operations (run operations (ofConfig config)).state where
  undisturbed := by
    intro joins
    have blank : (ofConfig config : Graph α σ).Silent := fun _ member =>
      (List.not_mem_nil member).elim
    exact undisturbed_of_silent (run_silent blank joins)
  terminates := Reachable.course ⟨config, operations, rfl⟩
  settled := by
    intro fuel outcome passes settled ok
    rcases settle_ok settled ok with ⟨counted, resting⟩
    exact resting.settled counted
  failed := by
    intro fuel outcome error settled failed
    rcases settle_error settled failed with ⟨passes, enough, fails⟩
    refine ⟨passes, fails, ?_⟩
    rw [settle_fails fails enough] at settled
    cases settled
    exact fails.counted

/-- Two inputs take a pass each, a lag drives one more, and its limit ends
the settling. -/
example :
    let graph : Graph Nat Unit := (run [.add (.relay [.lagged (.plain "in")] [.plain "in"]),
      .addLag (.plain "in"), .push ⟨.plain "in", 3⟩, .push ⟨.plain "in", 4⟩]
      (ofConfig { maxFeedbackPasses := 1 })).state
    (settle 4 graph).map (fun outcome => (outcome.result, outcome.state.passCount)) =
      some (.error (.feedbackLimit 1), 3) := by
  decide

end Graph
end ReactiveGraph
