import ReactiveGraph.Proofs.Failures
import ReactiveGraph.Proofs.Newcomers

namespace ReactiveGraph
namespace Graph

/-!
# Sealing

The order of evaluation is computed once, from the registry as it is then,
and trusted from there on.  So nothing that is done to a sealed graph may
change the registry or the order.  An attempt to seal that fails, on the
other hand, leaves no trace, and whoever made it can go on wiring.
-/

variable {α σ : Type}

/-- The registry, with all that it says about topics, detectors and edges,
and the order of evaluation are what they were. -/
structure Fixed (before after : Graph α σ) : Prop where
  registry : after.registry = before.registry
  order : after.order = before.order

theorem Fixed.isSealed {before after : Graph α σ} (fixed : before.Fixed after) :
    after.isSealed = before.isSealed := by
  rw [Graph.isSealed, fixed.registry, Graph.isSealed]

theorem Fixed.trans {first middle last : Graph α σ} (before : first.Fixed middle)
    (after : middle.Fixed last) : first.Fixed last :=
  ⟨after.registry.trans before.registry, after.order.trans before.order⟩

theorem stepSealed_fixed (graph : Graph α σ) : graph.Fixed graph.stepSealed.state := by
  rcases graph.stepSealed_cases with ⟨_, _, idle⟩ | ⟨_, _, _, givenUp⟩ | ⟨_, passes⟩
  · rw [idle]
    exact ⟨rfl, rfl⟩
  · rw [givenUp]
    exact ⟨rfl, rfl⟩
  · rw [passes]
    exact ⟨rfl, rfl⟩

theorem perform_fixed {graph : Graph α σ} (closed : graph.isSealed = true)
    (operation : Operation α σ) : graph.Fixed (perform operation graph).state := by
  rcases perform_sealed closed operation with rfl | ⟨service, same⟩
  · rw [perform, Outcome.regardless, step, close_sealed closed]
    exact graph.stepSealed_fixed
  · rw [same]
    exact ⟨rfl, rfl⟩

theorem run_fixed {graph : Graph α σ} (closed : graph.isSealed = true)
    (operations : List (Operation α σ)) : graph.Fixed (run operations graph).state := by
  apply run_invariant (P := graph.Fixed)
  · intro operation other fixed
    exact fixed.trans (perform_fixed (fixed.isSealed.trans closed) operation)
  · exact ⟨rfl, rfl⟩

theorem settle_run {fuel : Nat} {graph : Graph α σ} {outcome : Outcome α (Graph α σ) Nat}
    (settled : settle fuel graph = some outcome) :
    ∃ operations, outcome.state = (run operations graph).state := by
  induction fuel generalizing graph outcome with
  | zero => cases settled
  | succ fuel ih =>
      have once : graph.step.state = (run [.step] graph).state := by
        rw [run_cons]
        rfl
      rcases settle_cases settled with ⟨_, _, rfl⟩ | ⟨_, rfl⟩ | ⟨_, rest, later, rfl⟩
      · exact ⟨[.step], once⟩
      · exact ⟨[.step], once⟩
      · rcases ih later with ⟨operations, same⟩
        refine ⟨.step :: operations, ?_⟩
        rw [run_cons]
        exact same

theorem settleAfter_run {β : Type} {fuel : Nat} {graph : Graph α σ}
    {first : Outcome α (Graph α σ) β} {outcome : Outcome α (Graph α σ) Nat}
    (settled : settleAfter fuel first = some outcome) (operation : Operation α σ)
    (begun : first.state = (perform operation graph).state) :
    ∃ operations, outcome.state = (run operations graph).state := by
  rw [settleAfter] at settled
  cases result : first.result with
  | error cause =>
      simp only [result] at settled
      cases settled
      refine ⟨[operation], ?_⟩
      rw [run_cons]
      exact begun
  | ok value =>
      simp only [result] at settled
      rcases Option.map_eq_some_iff.mp settled with ⟨rest, later, rfl⟩
      rcases settle_run later with ⟨operations, same⟩
      refine ⟨operation :: operations, ?_⟩
      rw [run_cons, Outcome.behind, ← begun]
      exact same

/-- The graph has been settled, perhaps after it was fed or after a moment
had passed. -/
def Settles (graph : Graph α σ) (outcome : Outcome α (Graph α σ) Nat) : Prop :=
  ∃ fuel, settle fuel graph = some outcome ∨
    (∃ input, feed fuel graph input = some outcome) ∨ ∃ now, tick fuel graph now = some outcome

theorem Settles.run {graph : Graph α σ} {outcome : Outcome α (Graph α σ) Nat}
    (settles : graph.Settles outcome) :
    ∃ operations, outcome.state = (Graph.run operations graph).state := by
  rcases settles with ⟨fuel, settled | ⟨input, fed⟩ | ⟨now, ticked⟩⟩
  · exact settle_run settled
  · exact settleAfter_run fed (.push input) rfl
  · exact settleAfter_run ticked (.fire now) rfl

theorem isSealed_of_refused {graph : Graph α σ} {cause : WiringError}
    (refused : graph.close = .error cause) : graph.isSealed = false := by
  cases before : graph.isSealed with
  | false => rfl
  | true =>
      rw [close_sealed before] at refused
      cases refused

theorem step_refused {graph : Graph α σ} {cause : WiringError}
    (refused : graph.close = .error cause) : graph.step = .fail graph (.wiring cause) := by
  rw [step, refused]

/-- An open graph enters every detector, and whether it stays is up to its
own wiring. -/
theorem Coherent.install_open {graph : Graph α σ} (coherent : graph.Coherent)
    (opened : graph.isSealed = false) (typeName : String) (wiring : DetectorId → Wiring)
    (resident : Resident α σ) :
    ∃ entered, graph.registry.addDetector (shortName typeName) =
        .ok (graph.slots.length, entered) ∧
      (graph.install typeName wiring resident).2 =
        ((wiring graph.slots.length).run graph.slots.length entered []).result.map
          fun _ => graph.slots.length := by
  rw [isSealed] at opened
  rw [Graph.install, ← Live.length_shapes]
  cases added : graph.registry.addDetector (shortName typeName) with
  | error error => simp [Registry.addDetector, opened] at added
  | ok entered =>
      rcases entered with ⟨detector, entered⟩
      rcases coherent.wired added (wiring detector) with ⟨rfl, _⟩
      refine ⟨entered, rfl, ?_⟩
      dsimp only
      cases ((wiring graph.shapes.length).run graph.shapes.length entered []).result <;> rfl

/-- What the seal of a graph stands for, whether or not it has been set.  Once
it is set it stays, and with it the wiring and the order, which is the one
computed from the registry.  If setting it fails, the graph is open and stays
as it is.  As long as the graph is open, topics and detectors are taken in,
and only its own wiring keeps a detector from joining. -/
structure Sealing (graph : Graph α σ) : Prop where
  permanent : graph.isSealed = true → ∀ operations,
    (run operations graph).state.isSealed = true ∧ graph.Fixed (run operations graph).state
  settled : graph.isSealed = true → ∀ outcome, graph.Settles outcome →
    outcome.state.isSealed = true ∧ graph.Fixed outcome.state
  ordered : graph.isSealed = true → VisitOrder.compute graph.registry = .ok graph.order
  refused : ∀ cause, graph.close = .error cause →
    graph.isSealed = false ∧ (perform .close graph).state = graph ∧
      graph.step = .fail graph (.wiring cause)
  refusedStep : ∀ cause, graph.step.result = .error (.wiring cause) →
    graph.close = .error cause
  topics : graph.isSealed = false → ∀ topic, ∃ id, (graph.resolve topic).2 = .ok id
  detectors : graph.isSealed = false → ∀ detector : Detector α σ,
    ∃ entered, graph.registry.addDetector (shortName detector.typeName) =
        .ok (graph.slots.length, entered) ∧
      (graph.add detector).2 =
        ((detector.wiring graph.slots.length).run graph.slots.length entered []).result.map
          fun _ => graph.slots.length
  lags : graph.isSealed = false → ∀ source : Payload,
    ∃ entered, graph.registry.addDetector (shortName source.lagName) =
        .ok (graph.slots.length, entered) ∧
      (graph.addLag source).2 =
        ((Lag.wiring source).run graph.slots.length entered []).result.map
          fun _ => graph.slots.length

/-- Whatever has been done to a graph, its seal can be trusted. -/
theorem sealing_permanent (config : Config) (operations : List (Operation α σ)) :
    (run operations (ofConfig config)).state.Sealing := by
  have reachable : (run operations (ofConfig config)).state.Reachable := ⟨config, operations, rfl⟩
  generalize (run operations (ofConfig config)).state = graph at reachable
  have coherent := reachable.coherent
  refine ⟨?_, ?_, coherent.order, ?_, ?_, ?_, ?_, ?_⟩
  · intro closed operations
    have fixed := run_fixed closed operations
    exact ⟨fixed.isSealed.trans closed, fixed⟩
  · intro closed outcome settles
    rcases settles.run with ⟨operations, same⟩
    rw [same]
    have fixed := run_fixed closed operations
    exact ⟨fixed.isSealed.trans closed, fixed⟩
  · intro cause refused
    refine ⟨isSealed_of_refused refused, ?_, step_refused refused⟩
    rw [perform, refused]
    rfl
  · intro cause failed
    rcases step_error failed with
      ⟨other, same, answer, _⟩ | ⟨_, _, ⟨_, _, _, wrong, _⟩ | ⟨ended, _⟩⟩
    · cases same
      exact answer
    · cases wrong
    · exact absurd rfl ((nextPass_fails ended).2 cause)
  · intro opened topic
    rcases Registry.ensureTopic_open opened topic with ⟨id, _, _, same, _⟩
    exact ⟨id, by rw [resolve, same]⟩
  · intro opened detector
    exact coherent.install_open opened _ _ _
  · intro opened source
    exact coherent.install_open opened _ _ _

/-- Two detectors that feed each other cannot be sealed, and a third one can
still join them. -/
example :
    let graph : Graph Nat Unit := (run [.add (.relay [.plain "in"] [.plain "out"]),
      .add (.relay [.plain "out"] [.plain "in"]), .close, .addLag (.plain "out")]
      (ofConfig {})).state
    graph.isSealed = false ∧ graph.slots.length = 3 := ⟨rfl, rfl⟩

end Graph
end ReactiveGraph
