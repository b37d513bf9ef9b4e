import ReactiveGraph.Proofs.Sealing
import ReactiveGraph.Proofs.Topology
import ReactiveGraph.Topology.Dot
import ReactiveGraph.Topology.Format

namespace ReactiveGraph

/-!
# Looking at a graph

A tool may look at a graph at any time.  If the graph is open, the order that
it is shown is found for the occasion, and it is the one that sealing would
fix.  So the picture tells beforehand whether the graph can be sealed, and if
it can, the picture stays what it is from there on, since neither the wiring
nor the order of a sealed graph ever changes.  The graph itself takes no
notice of being looked at.
-/

variable {α σ : Type}

inductive Rendering where
  | topology
  | json
  | dot

inductive Picture where
  | topology (topology : Topology)
  | text (text : String)

def Rendering.picture : Rendering → Topology → Picture
  | topology, shown => .topology shown
  | json, shown => .text shown.render
  | dot, shown => .text shown.dot

/-- What a graph goes through: something is done to it, or someone looks at
it. -/
inductive Encounter (α σ : Type) where
  | operate (operation : Operation α σ)
  | look (rendering : Rendering)

namespace Encounter

def operation? : Encounter α σ → Option (Operation α σ)
  | operate operation => some operation
  | look _ => none

def rendering? : Encounter α σ → Option Rendering
  | operate _ => none
  | look rendering => some rendering

end Encounter

namespace Graph

def look (rendering : Rendering) (graph : Graph α σ) : Outcome α (Graph α σ) Picture :=
  .done graph (rendering.picture graph.topology)

/-- What a graph comes to while it is operated and looked at, with the
pictures that have been handed out. -/
def attend : List (Encounter α σ) → Graph α σ → Outcome α (Graph α σ) (List Picture)
  | [], graph => .done graph []
  | .operate operation :: rest, graph => (perform operation graph).andThen fun _ => attend rest
  | .look rendering :: rest, graph =>
      (look rendering graph).andThen fun picture graph =>
        (attend rest graph).andThen fun pictures graph => .done graph (picture :: pictures)

theorem attend_operate (operation : Operation α σ) (rest : List (Encounter α σ))
    (graph : Graph α σ) :
    attend (.operate operation :: rest) graph =
      (attend rest (perform operation graph).state).behind (perform operation graph).events := by
  rw [attend, Outcome.andThen, perform_ok]

/-- Being looked at makes no difference to what comes of the operations. -/
theorem attend_run (encounters : List (Encounter α σ)) (graph : Graph α σ) :
    ∃ pictures, attend encounters graph =
      ⟨(run (encounters.filterMap Encounter.operation?) graph).state,
        (run (encounters.filterMap Encounter.operation?) graph).events, .ok pictures⟩ := by
  induction encounters generalizing graph with
  | nil => exact ⟨[], rfl⟩
  | cons encounter rest ih =>
      cases encounter with
      | operate operation =>
          have done : (Encounter.operate operation).operation? = some operation := rfl
          rcases ih (perform operation graph).state with ⟨pictures, same⟩
          refine ⟨pictures, ?_⟩
          rw [attend_operate, same, List.filterMap_cons_some done, run_cons]
          rfl
      | look rendering =>
          have nothing : (Encounter.look rendering : Encounter α σ).operation? = none := rfl
          rcases ih graph with ⟨pictures, same⟩
          refine ⟨rendering.picture graph.topology :: pictures, ?_⟩
          rw [attend, look, Outcome.andThen_done, same, List.filterMap_cons_none nothing]
          simp only [Outcome.andThen, Outcome.behind, Outcome.done, List.append_nil]

theorem topology_fixed {before after : Graph α σ} (fixed : before.Fixed after)
    (config : after.config = before.config) : after.topology = before.topology := by
  have order : after.currentOrder? = before.currentOrder? := by
    rw [currentOrder?, currentOrder?, fixed.isSealed, fixed.order, fixed.registry]
  rw [topology, topology, order, config, fixed.registry]

theorem topology_perform {graph : Graph α σ} (closed : graph.isSealed = true)
    (operation : Operation α σ) : (perform operation graph).state.topology = graph.topology :=
  topology_fixed (perform_fixed closed operation) (counts_perform operation graph).config

/-- The graph shows the same picture whatever is done to it, and whenever it
is looked at. -/
structure Shows (graph : Graph α σ) (topology : Topology) : Prop where
  now : graph.topology = topology
  later : ∀ operations, (run operations graph).state.topology = topology
  settled : ∀ outcome, graph.Settles outcome → outcome.state.topology = topology
  attended : ∀ encounters, (attend encounters graph).result =
    .ok ((encounters.filterMap Encounter.rendering?).map fun rendering =>
      rendering.picture topology)

theorem attend_sealed {graph : Graph α σ} (closed : graph.isSealed = true)
    (encounters : List (Encounter α σ)) :
    (attend encounters graph).result =
      .ok ((encounters.filterMap Encounter.rendering?).map fun rendering =>
        rendering.picture graph.topology) := by
  induction encounters generalizing graph with
  | nil => rfl
  | cons encounter rest ih =>
      cases encounter with
      | operate operation =>
          have later := ih ((perform_fixed closed operation).isSealed.trans closed)
          rw [topology_perform closed operation] at later
          rw [attend_operate]
          exact later
      | look rendering =>
          have later := ih closed
          rw [attend, look, Outcome.andThen_done, Outcome.andThen, later]
          rfl

theorem shows_sealed {graph : Graph α σ} (closed : graph.isSealed = true) :
    graph.Shows graph.topology := by
  have later : ∀ operations, (run operations graph).state.topology = graph.topology := by
    intro operations
    have both : (run operations graph).state.isSealed = true ∧
        (run operations graph).state.topology = graph.topology := by
      apply run_invariant (P := fun after => after.isSealed = true ∧
        after.topology = graph.topology)
      · rintro operation other ⟨sealing, same⟩
        exact ⟨(perform_fixed sealing operation).isSealed.trans sealing,
          (topology_perform sealing operation).trans same⟩
      · exact ⟨closed, rfl⟩
    exact both.2
  refine ⟨rfl, later, ?_, attend_sealed closed⟩
  intro outcome settles
  rcases settles.run with ⟨operations, same⟩
  rw [same]
  exact later operations

/-- Sealing does not change the picture. -/
theorem topology_close {graph closed : Graph α σ} (answer : graph.close = .ok closed) :
    closed.topology = graph.topology := by
  cases before : graph.isSealed with
  | true =>
      rw [close_sealed before] at answer
      cases answer
      rfl
  | false =>
      rcases close_open before answer with ⟨order, computed, rfl⟩
      have found : graph.currentOrder? = some order := by
        rw [currentOrder?, before, computed]
        rfl
      rw [topology, topology, found]
      rfl

/-- Where no order is found, a cycle is the reason. -/
theorem close_cases {graph : Graph α σ} (sound : graph.registry.Sound)
    (opened : graph.isSealed = false) :
    (graph.topology.ordered = false ∧ ∃ names, graph.close = .error (.cycle names)) ∨
      graph.topology.ordered = true ∧ ∃ closed, graph.close = .ok closed := by
  have shown : graph.topology.ordered = (VisitOrder.compute graph.registry).toOption.isSome := by
    rw [topology, currentOrder?, opened]
    rfl
  rw [shown, close, opened, sound.compute_eq]
  split
  · exact Or.inr ⟨rfl, _, rfl⟩
  · exact Or.inl ⟨rfl, _, rfl⟩

/-- What there is to be said of pictures of a graph.  An open graph is shown
without an order just if it cannot be sealed for a cycle.  Otherwise it can be
sealed, by itself or by a step, and the picture is that of the sealed graph,
whatever is done to that.  Being looked at does not change the graph, nor what
comes of any operations. -/
structure Viewed (graph : Graph α σ) : Prop where
  unordered_iff : graph.isSealed = false →
    (graph.topology.ordered = false ↔ ∃ names, graph.close = .error (.cycle names))
  ordered : graph.isSealed = false → graph.topology.ordered = true →
    ∃ closed, graph.close = .ok closed ∧ graph.step = closed.step ∧ closed.Shows graph.topology
  untouched : ∀ rendering, (look rendering graph).state = graph ∧
    (look rendering graph).events = []
  unaffected : ∀ encounters,
    (attend encounters graph).state =
        (run (encounters.filterMap Encounter.operation?) graph).state ∧
      (attend encounters graph).events =
        (run (encounters.filterMap Encounter.operation?) graph).events

/-- Whatever has been done to a graph, its picture can be trusted, and it may
be looked at. -/
theorem picture_foresees_seal (config : Config) (operations : List (Operation α σ)) :
    (run operations (ofConfig config)).state.Viewed := by
  have reachable : (run operations (ofConfig config)).state.Reachable := ⟨config, operations, rfl⟩
  generalize (run operations (ofConfig config)).state = graph at reachable
  have sound := reachable.coherent.registry
  refine ⟨?_, ?_, fun _ => ⟨rfl, rfl⟩, ?_⟩
  · intro opened
    rcases close_cases sound opened with ⟨unordered, cyclic⟩ | ⟨ordered, closed, answer⟩
    · exact ⟨fun _ => cyclic, fun _ => unordered⟩
    · constructor
      · intro unordered
        rw [ordered] at unordered
        cases unordered
      · rintro ⟨names, refused⟩
        rw [answer] at refused
        cases refused
  · intro opened ordered
    rcases close_cases sound opened with ⟨unordered, _⟩ | ⟨_, closed, answer⟩
    · rw [unordered] at ordered
      cases ordered
    · have closes : closed.isSealed = true := isSealed_close answer
      refine ⟨closed, answer, ?_, topology_close answer ▸ shows_sealed closes⟩
      rw [step, step, answer, close_sealed closes]
  · intro encounters
    rcases attend_run encounters graph with ⟨pictures, same⟩
    rw [same]
    exact ⟨rfl, rfl⟩

/-- The picture of an open graph is that of the graph which a step has
sealed. -/
example :
    let graph : Graph Nat Unit :=
      (run [.add (.relay [.plain "in"] [.plain "out"])] (ofConfig {})).state
    graph.isSealed = false ∧ graph.step.state.isSealed = true ∧
      graph.step.state.topology = graph.topology := by
  decide +kernel

end Graph
end ReactiveGraph
