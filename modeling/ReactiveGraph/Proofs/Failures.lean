import ReactiveGraph.Proofs.Freshness
import ReactiveGraph.Proofs.Limit

namespace ReactiveGraph

/-!
# What a failing step leaves behind

A step can fail before it runs a pass, for the wiring or for the limit on
passes that lags drive alone, and then next to nothing has happened.  Or the
pass is abandoned on its way: the input is gone, the others wait, and the
graph goes on from where the pass has stood.  Settling a graph ends with the
first step that fails.
-/

variable {α σ : Type}

namespace Live

theorem lag?_opened {live : Live α σ} {detector : DetectorId} {lag : Lag α}
    (holds : live.lag? detector = some lag) (input : Option (Input α)) :
    (live.opened input).lag? detector = some { lag with armed := none } := by
  rcases lag?_iff.mp holds with ⟨control, found, holds⟩
  refine lag?_iff.mpr ⟨control.reset.released, ?_, ?_⟩
  · rw [controls_opened, List.getElem?_map, found]
    rfl
  · simp [Control.released, Control.reset, holds, Lag.disarm]

end Live

namespace Graph

/-- What a pass leaves behind even if it fails: it counts, its input is gone,
the other inputs wait in order, followed by those that the pass has brought,
and the wiring is that of the closed graph. -/
structure Abandoned (graph : Graph α σ) : Prop where
  counted : graph.step.state.passCount = graph.passCount + 1
  taken : graph.step.events.filterMap Event.consumed? = graph.queue.waiting.head?.toList
  waiting : graph.step.state.queue.waiting =
    graph.queue.waiting.tail ++ graph.step.events.filterMap Event.accepted?
  closed : graph.step.state.isSealed = true
  wiring : graph.close = .ok
    { graph with registry := graph.step.state.registry, order := graph.step.state.order }
  shapes : graph.step.state.shapes = graph.shapes
  idle : graph.step.state.queue.evaluating = false

/-- Nothing but the wiring and the limit keeps a failing step from running a
pass. -/
theorem counted_of_error {graph : Graph α σ} {error : GraphError}
    (failed : graph.step.result = .error error) (wired : ∀ cause, error ≠ .wiring cause)
    (unlimited : ∀ passes, error ≠ .feedbackLimit passes) :
    graph.step.state.passCount ≠ graph.passCount := by
  rcases step_error failed with
    ⟨cause, same, _, _⟩ | ⟨closed, answer, ⟨_, _, _, same, _⟩ | ⟨_, same⟩⟩
  · exact absurd same (wired cause)
  · exact absurd same (unlimited _)
  · rcases close_frame answer with ⟨order, registry, rfl⟩
    rw [same]
    exact Nat.succ_ne_self graph.passCount

theorem Reachable.abandoned {graph : Graph α σ} (reachable : graph.Reachable)
    (counted : graph.step.state.passCount ≠ graph.passCount) : graph.Abandoned := by
  rcases step_passed counted with ⟨closed, answer, same⟩
  rcases step_takes_front reachable.fitting answer with ⟨rest, events, untaken, waiting⟩
  have isSealed := isSealed_close answer
  have shapes := closed.shapes_nextPass
  refine ⟨?_, ?_, ?_, ?_, ?_, ?_, ?_⟩
  · rcases close_frame answer with ⟨order, registry, rfl⟩
    rw [same]
    rfl
  · rw [events, List.filterMap_append, untaken, List.append_nil, List.filterMap_map]
    exact List.filterMap_some
  · have unaccepted : (graph.queue.waiting.head?.toList.map Event.consumed).filterMap
        Event.accepted? = [] := by
      rw [List.filterMap_map]
      exact List.filterMap_eq_nil_iff.mpr fun _ _ => rfl
    rw [waiting, events, List.filterMap_append, unaccepted, List.nil_append]
  · rw [same]
    exact isSealed
  · rcases close_frame answer with ⟨order, registry, rfl⟩
    rw [same, answer]
    rfl
  · rcases close_frame answer with ⟨order, registry, rfl⟩
    rw [same]
    exact shapes
  · rw [same]
    rfl

/-- If the input of a pass has no topic, the lags have delivered and nothing
else has happened. -/
theorem step_unknown {graph : Graph α σ} (coherent : graph.Coherent) {input : Input α}
    (taken : .consumed input ∈ graph.step.events)
    (unknown : graph.registry.hasTopic input.topic = false) :
    graph.step.result = .error (.unknownTopic input.topic.name) ∧
      graph.step.events.filter Event.isCall = [] ∧
        graph.step.state.slots = (graph.opened none).slots ∧
          graph.step.state.board = (graph.opened none).board := by
  have counted : graph.step.state.passCount ≠ graph.passCount := by
    intro still
    rw [(step_still still).1] at taken
    cases taken
  rcases step_passed counted with ⟨closed, answer, same⟩
  have fits : closed.registry.Fits closed.poised.shapes := (coherent.close answer).fits
  have first : closed.queue.waiting.head? = some input := by
    have consumed : input ∈ graph.step.events.filterMap Event.consumed? :=
      List.mem_filterMap.mpr ⟨_, taken, rfl⟩
    rw [same, List.filterMap_append, consumed_nextPass, List.append_nil,
      List.filterMap_map] at consumed
    rcases List.mem_filterMap.mp consumed with ⟨other, member, equal⟩
    cases equal
    exact Option.mem_toList.mp member
  have unknown : closed.registry.hasTopic input.topic = false := by
    rw [registry_close answer]
    exact unknown
  have runs : closed.nextPass =
      Live.pass closed.registry closed.order (some input) closed.poised := by
    rw [nextPass, first]
  rw [same, runs, Live.pass_unknown fits unknown]
  rcases close_frame answer with ⟨order, registry, rfl⟩
  refine ⟨rfl, ?_, rfl, rfl⟩
  rw [List.filter_append, Log.calls_map .consumed fun _ => rfl,
    Log.calls_map (fun given : Input α => .wrote given.topic given.value) fun _ => rfl]
  rfl

/-! ## Settling -/

def stepped (graph : Graph α σ) (steps : Nat) : Outcome α (Graph α σ) Unit :=
  run (List.replicate steps .step) graph

theorem stepped_succ (graph : Graph α σ) (steps : Nat) :
    graph.stepped (steps + 1) = (graph.step.state.stepped steps).behind graph.step.events := by
  rw [stepped, List.replicate_succ, run_cons]
  rfl

/-- Settling ends with a step that fails, with one that finds nothing to do,
or else goes on from where a pass has led. -/
theorem settle_cases {fuel : Nat} {graph : Graph α σ} {outcome : Outcome α (Graph α σ) Nat}
    (settled : settle (fuel + 1) graph = some outcome) :
    (∃ error, graph.step.result = .error error ∧
        outcome = ⟨graph.step.state, graph.step.events, .error error⟩) ∨
      (graph.step.result = .ok false ∧ outcome = ⟨graph.step.state, graph.step.events, .ok 0⟩) ∨
      graph.step.result = .ok true ∧ ∃ rest, settle fuel graph.step.state = some rest ∧
        outcome = { rest with
          events := graph.step.events ++ rest.events
          result := rest.result.map (· + 1) } := by
  rw [settle] at settled
  cases result : graph.step.result with
  | error error =>
      simp only [result] at settled
      cases settled
      exact Or.inl ⟨error, rfl, rfl⟩
  | ok ran =>
      cases ran with
      | false =>
          simp only [result] at settled
          cases settled
          exact Or.inr (Or.inl ⟨rfl, rfl⟩)
      | true =>
          simp only [result] at settled
          rcases Option.map_eq_some_iff.mp settled with ⟨rest, later, rfl⟩
          exact Or.inr (Or.inr ⟨rfl, rest, later, rfl⟩)

/-- The steps succeed one by one, and the next one fails. -/
structure FailsAfter (graph : Graph α σ) (steps : Nat) (error : GraphError) : Prop where
  before : ∀ earlier, earlier < steps → (graph.stepped earlier).state.step.result = .ok true
  failed : (graph.stepped steps).state.step.result = .error error

theorem FailsAfter.succ {graph : Graph α σ} {steps : Nat} {error : GraphError}
    (fails : graph.FailsAfter (steps + 1) error) :
    graph.step.result = .ok true ∧ graph.step.state.FailsAfter steps error := by
  refine ⟨fails.before 0 (Nat.succ_pos steps), ?_, ?_⟩
  · intro earlier bound
    have ok := fails.before (earlier + 1) (Nat.succ_lt_succ bound)
    rw [stepped_succ] at ok
    exact ok
  · have failed := fails.failed
    rw [stepped_succ] at failed
    exact failed

theorem FailsAfter.cons {graph : Graph α σ} {steps : Nat} {error : GraphError}
    (ok : graph.step.result = .ok true) (fails : graph.step.state.FailsAfter steps error) :
    graph.FailsAfter (steps + 1) error where
  before := by
    intro earlier bound
    cases earlier with
    | zero => exact ok
    | succ earlier =>
        rw [stepped_succ]
        exact fails.before earlier (Nat.lt_of_succ_lt_succ bound)
  failed := by
    rw [stepped_succ]
    exact fails.failed

/-- Settling ends with the first step that fails, in the state which that step
has left. -/
theorem settle_fails {graph : Graph α σ} {steps : Nat} {error : GraphError}
    (fails : graph.FailsAfter steps error) {fuel : Nat} (enough : steps < fuel) :
    settle fuel graph =
      some ⟨(graph.stepped (steps + 1)).state, (graph.stepped (steps + 1)).events,
        .error error⟩ := by
  induction steps generalizing graph fuel with
  | zero =>
      cases fuel with
      | zero => exact absurd enough (Nat.lt_irrefl 0)
      | succ fuel =>
          have failed : graph.step.result = .error error := fails.failed
          have none : graph.step.state.stepped 0 = .done graph.step.state () := rfl
          rw [settle, failed, stepped_succ, none]
          simp only [Outcome.behind, Outcome.done, List.append_nil]
  | succ steps ih =>
      cases fuel with
      | zero => exact absurd enough (Nat.not_lt_zero _)
      | succ fuel =>
          rcases fails.succ with ⟨ok, later⟩
          rw [settle, ok]
          simp only [ih later (Nat.lt_of_succ_lt_succ enough), Option.map_some]
          rw [graph.stepped_succ (steps + 1)]
          rfl

theorem settle_error {graph : Graph α σ} {fuel : Nat} {outcome : Outcome α (Graph α σ) Nat}
    {error : GraphError} (settled : settle fuel graph = some outcome)
    (failed : outcome.result = .error error) :
    ∃ steps, steps < fuel ∧ graph.FailsAfter steps error := by
  induction fuel generalizing graph outcome with
  | zero => cases settled
  | succ fuel ih =>
      rcases settle_cases settled with ⟨cause, result, rfl⟩ | ⟨_, rfl⟩ | ⟨result, rest, later, rfl⟩
      · cases failed
        refine ⟨0, Nat.succ_pos fuel, ?_, result⟩
        intro earlier bound
        exact absurd bound (Nat.not_lt_zero earlier)
      · cases failed
      · have lasting : rest.result = .error error := by
          cases ended : rest.result with
          | error other =>
              simp only [ended, Except.map] at failed
              cases failed
              rfl
          | ok count =>
              simp only [ended, Except.map] at failed
              cases failed
        rcases ih later lasting with ⟨steps, bound, fails⟩
        exact ⟨steps + 1, Nat.succ_lt_succ bound, .cons result fails⟩

/-- What a failing step leaves behind, and what settling makes of it.  If the
wiring cannot be closed, nothing has happened.  If the lags have exceeded the
limit, they have been given up, and nothing else has happened.  For any other
reason, it is a pass that has failed; an input without a topic makes it fail
before any detector is called, when the lags have delivered what they were
armed with.  Settling ends with the first step that fails and keeps what the
steps until then have brought about. -/
structure Failing (graph : Graph α σ) : Prop where
  wiring : ∀ cause, graph.step.result = .error (.wiring cause) →
    graph.isSealed = false ∧ graph.step = .fail graph (.wiring cause)
  limit : ∀ passes, graph.step.result = .error (.feedbackLimit passes) →
    graph.step = .fail { graph with slots := graph.slots.map Slot.disarm, feedbackPasses := 0 }
        (.feedbackLimit passes) ∧
      ∀ detector lag, graph.step.state.lag? detector = some lag → lag.armed = none
  other : ∀ error, graph.step.result = .error error → (∀ cause, error ≠ .wiring cause) →
    (∀ passes, error ≠ .feedbackLimit passes) → graph.Abandoned
  unknown : ∀ input, .consumed input ∈ graph.step.events →
    graph.registry.hasTopic input.topic = false →
      graph.step.result = .error (.unknownTopic input.topic.name) ∧
        graph.step.events.filter Event.isCall = [] ∧
          ∀ detector lag, graph.lag? detector = some lag →
            graph.step.state.lag? detector = some { lag with armed := none } ∧
              ∀ value, lag.armed = some value →
                graph.step.state.board.new? (.lagged lag.source) = some value
  settles : ∀ steps error, graph.FailsAfter steps error → ∀ fuel, steps < fuel →
    settle fuel graph =
      some ⟨(graph.stepped (steps + 1)).state, (graph.stepped (steps + 1)).events, .error error⟩
  settlesOnly : ∀ fuel outcome error, settle fuel graph = some outcome →
    outcome.result = .error error → ∃ steps, steps < fuel ∧ graph.FailsAfter steps error

theorem step_wiring {graph : Graph α σ} {cause : WiringError}
    (failed : graph.step.result = .error (.wiring cause)) :
    graph.isSealed = false ∧ graph.step = .fail graph (.wiring cause) := by
  rcases step_error failed with
    ⟨other, _, answer, same⟩ | ⟨closed, _, ⟨_, _, _, wrong, _⟩ | ⟨ended, _⟩⟩
  · refine ⟨?_, same⟩
    cases before : graph.isSealed with
    | false => rfl
    | true =>
        rw [close_sealed before] at answer
        cases answer
  · cases wrong
  · exact absurd rfl ((nextPass_fails ended).2 cause)

/-- Whatever a step fails for, it is known what it leaves behind. -/
theorem failures_traced {graph : Graph α σ} (reachable : graph.Reachable) : graph.Failing := by
  refine ⟨fun _ failed => step_wiring failed, ?_, ?_, ?_, ?_, ?_⟩
  · intro passes failed
    rcases step_limited reachable.coherent failed with ⟨_, _, _, _, _, state⟩
    have still : graph.step.state.passCount = graph.passCount := by
      rw [state]
      rfl
    have silent := (step_still still).1
    refine ⟨?_, ?_⟩
    · rcases step : graph.step with ⟨after, events, result⟩
      rw [step] at state silent failed
      cases state
      cases silent
      cases failed
      rfl
    · intro detector lag holds
      rw [state] at holds
      exact lag?_givenUp holds
  · intro error failed wired unlimited
    exact reachable.abandoned (counted_of_error failed wired unlimited)
  · intro input taken unknown
    rcases step_unknown reachable.coherent taken unknown with ⟨failed, silent, slots, board⟩
    refine ⟨failed, silent, ?_⟩
    intro detector lag holds
    refine ⟨?_, ?_⟩
    · rw [Live.lag?, slots]
      exact Live.lag?_opened holds none
    · intro value armed
      have new := reachable.freshOn detector lag value holds armed
      rw [board, Live.new?_opened reachable.freshOn holds (armed.trans new.symm)]
      · exact new
      · intro given member
        cases member
  · intro steps error fails fuel enough
    exact settle_fails fails enough
  · intro fuel outcome error settled failed
    exact settle_error settled failed

/-- An armed lag, and an input without a topic ahead of another one. -/
def orphan : Graph Nat Unit :=
  (run [.addLag (.plain "in"), .push ⟨.plain "in", 3⟩, .step, .submit ⟨.plain "lost", 5⟩,
    .push ⟨.plain "in", 4⟩] (ofConfig {})).state

/-- The lag's value shows, and the other input still waits. -/
theorem orphan_traced :
    orphan.Reachable ∧ orphan.step.result = .error (.unknownTopic "lost") ∧
      orphan.step.state.board.new? (.lagged (.plain "in")) = some 3 ∧
        orphan.step.state.queue.waiting = [⟨.plain "in", 4⟩] ∧ orphan.Failing :=
  ⟨⟨_, _, rfl⟩, rfl, rfl, rfl, failures_traced ⟨_, _, rfl⟩⟩

end Graph
end ReactiveGraph
