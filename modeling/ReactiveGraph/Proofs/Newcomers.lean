import ReactiveGraph.Proofs.Coherence

namespace ReactiveGraph
namespace Graph

/-!
# Who joins a graph

A detector joins a graph when its wiring succeeds.  It takes the place behind
those that have joined before it, and keeps that place and what it is: a lag
stays a lag of its topic.  So the history of a graph tells which detectors
the graph has, in the order of construction.
-/

variable {α σ : Type}

/-- The identifiers of the detectors in the order of their slots, each with
the topic that it delays if it is a lag. -/
def roster (graph : Graph α σ) : List (DetectorId × Option Payload) :=
  graph.shapes.zipIdx.map fun place => (place.2, place.1.2)

def newcomer? : Operation α σ → Graph α σ → Option (DetectorId × Option Payload)
  | .add detector, graph => (graph.add detector).2.toOption.map fun id => (id, none)
  | .addLag source, graph => (graph.addLag source).2.toOption.map fun id => (id, some source)
  | _, _ => none

def newcomers : List (Operation α σ) → Graph α σ → List (DetectorId × Option Payload)
  | [], _ => []
  | operation :: rest, graph =>
      (newcomer? operation graph).toList ++ newcomers rest (perform operation graph).state

theorem roster_of_shapes {before after : Graph α σ} (same : after.shapes = before.shapes) :
    after.roster = before.roster := by
  rw [roster, roster, same]

theorem roster_ids (graph : Graph α σ) :
    graph.roster.map Prod.fst = List.range graph.slots.length := by
  rw [roster, List.map_map, ← Live.length_shapes, List.range_eq_range', ← List.zipIdx_map_snd]
  rfl

/-- The wiring has failed and the slots are what they were, or the detector
has joined behind the others. -/
theorem Coherent.install_cases {graph : Graph α σ} (coherent : graph.Coherent) (typeName : String)
    (wiring : DetectorId → Wiring) (resident : Resident α σ) :
    (∃ error, (graph.install typeName wiring resident).2 = .error error ∧
        (graph.install typeName wiring resident).1.slots = graph.slots) ∨
      (graph.install typeName wiring resident).2 = .ok graph.shapes.length ∧ ∃ subscriptions,
        (graph.install typeName wiring resident).1.slots =
          graph.slots ++ [⟨resident, subscriptions, false⟩] := by
  rw [Graph.install]
  cases added : graph.registry.addDetector (shortName typeName) with
  | error error => exact Or.inl ⟨error, rfl, rfl⟩
  | ok entered =>
      rcases entered with ⟨detector, entered⟩
      rcases coherent.wired added (wiring detector) with ⟨rfl, _⟩
      dsimp only
      cases ((wiring graph.shapes.length).run graph.shapes.length entered []).result with
      | error error => exact Or.inl ⟨error, rfl, rfl⟩
      | ok => exact Or.inr ⟨rfl, _, rfl⟩

theorem Coherent.roster_install {graph : Graph α σ} (coherent : graph.Coherent)
    (typeName : String) (wiring : DetectorId → Wiring) (resident : Resident α σ)
    {source? : Option Payload}
    (holds : ∀ subscriptions,
      ({ resident, subscriptions } : Slot α σ).lag?.map Lag.source = source?) :
    (graph.install typeName wiring resident).1.roster =
      graph.roster ++ ((graph.install typeName wiring resident).2.toOption.map
        fun id => (id, source?)).toList := by
  rcases coherent.install_cases typeName wiring resident with
    ⟨error, refused, same⟩ | ⟨joined, subscriptions, same⟩
  · rw [refused, roster, roster, Live.shapes, Live.controls, same]
    exact (List.append_nil _).symm
  · have shapes : (graph.install typeName wiring resident).1.shapes =
        graph.shapes ++ [(subscriptions, source?)] := by
      rw [← holds subscriptions, Live.shapes, Live.controls, same, List.map_append,
        List.map_append]
      rfl
    rw [joined, roster, shapes, List.zipIdx_append, List.map_append, Nat.zero_add]
    rfl

theorem shapes_step (graph : Graph α σ) : graph.step.state.shapes = graph.shapes := by
  rcases graph.step_cases with
    ⟨cause, _, same⟩ | ⟨closed, answer, ⟨_, _, same⟩ | ⟨_, _, _, same⟩ | ⟨_, same⟩⟩
  · rw [same]
    rfl
  · rcases close_frame answer with ⟨order, registry, rfl⟩
    rw [same]
    rfl
  · rcases close_frame answer with ⟨order, registry, rfl⟩
    rw [same]
    exact Live.shapes_disarm rfl
  · have kept := closed.shapes_nextPass
    rcases close_frame answer with ⟨order, registry, rfl⟩
    rw [same]
    exact kept

/-- Whoever joins by an operation comes last, and everyone else keeps its
place. -/
theorem Coherent.roster_perform {graph : Graph α σ} (coherent : graph.Coherent)
    (operation : Operation α σ) :
    (Graph.perform operation graph).state.roster =
      graph.roster ++ (newcomer? operation graph).toList := by
  have alone : ∀ {after : Graph α σ}, after.shapes = graph.shapes →
      after.roster = graph.roster ++ [] := by
    intro after same
    rw [roster_of_shapes same]
    exact (List.append_nil _).symm
  cases operation with
  | add detector => exact coherent.roster_install _ _ _ fun _ => rfl
  | addLag source => exact coherent.roster_install _ _ _ fun _ => rfl
  | step => exact alone graph.shapes_step
  | close =>
      apply alone
      rw [Graph.perform]
      split
      next closed answer =>
        rcases close_frame answer with ⟨order, registry, rfl⟩
        rfl
      next => rfl
  | push input =>
      apply alone
      rw [Graph.perform, Outcome.regardless, Graph.push]
      split <;> rfl
  | resolve topic => exact alone rfl
  | submit input => exact alone rfl
  | fire now => exact alone rfl
  | schedule input delay => exact alone rfl
  | scheduleEvery input period => exact alone rfl
  | cancel handle => exact alone rfl

theorem Coherent.roster_run {graph : Graph α σ} (coherent : graph.Coherent)
    (operations : List (Operation α σ)) :
    (Graph.run operations graph).state.roster = graph.roster ++ newcomers operations graph := by
  induction operations generalizing graph with
  | nil => exact (List.append_nil _).symm
  | cons operation rest ih =>
      rw [run_cons, newcomers, ← List.append_assoc, ← coherent.roster_perform operation]
      exact ih (coherent.perform operation)

/-- A graph has those detectors that have joined it, in the order in which
they did. -/
theorem roster_history (config : Config) (operations : List (Operation α σ)) :
    newcomers operations (ofConfig config) =
      (run operations (ofConfig config)).state.roster :=
  ((coherent_ofConfig config).roster_run operations).symm

end Graph
end ReactiveGraph
