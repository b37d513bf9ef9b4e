import ReactiveGraph.Proofs.Coherence
import ReactiveGraph.Proofs.Settling

namespace ReactiveGraph

/-!
# Settled values are delivered exactly once

When a step has run a pass, the topics tell which values are new, and the
log tells who was called.  The calls are those that the topics ask for: no
call is missing, none is repeated, and none saw a value that a later one
replaced.
-/

variable {α σ : Type}

namespace Registry

/-- Whether the second call may come after the first: a detector is handed
nothing once it has completed, and completes before a topic that it publishes
is handed to anyone. -/
def InOrder (registry : Registry) : Event α → Event α → Prop
  | .completed detector, .evaluated other _ _ => detector ≠ other
  | .evaluated _ topic _, .completed detector =>
      ¬registry.isDeclared detector topic .immediate = true
  | _, _ => True

theorem IsWalk.inOrder {registry : Registry} {walk : List Vertex} (isWalk : registry.IsWalk walk)
    (sound : registry.Sound) (board : Board α) :
    (walk.flatMap (registry.due board)).Pairwise registry.InOrder := by
  have calls : ∀ {vertex : Vertex} {event : Event α}, event ∈ registry.due board vertex →
      (∃ topic detector value, vertex = .topic topic ∧ event = .evaluated detector topic value ∧
          detector ∈ registry.subscribers topic) ∨
        ∃ detector, vertex = .detector detector ∧ event = .completed detector := by
    intro vertex event member
    cases vertex with
    | topic topic =>
        rw [due] at member
        cases new : board.new? topic with
        | none =>
            rw [new] at member
            cases member
        | some value =>
            rw [new] at member
            rcases List.mem_map.mp member with ⟨detector, subscribed, rfl⟩
            exact Or.inl ⟨topic, detector, value, rfl, rfl, subscribed⟩
    | detector detector =>
        rw [due] at member
        split at member
        · exact Or.inr ⟨detector, rfl, List.mem_singleton.mp member⟩
        · cases member
  rw [List.pairwise_flatMap]
  constructor
  · intro vertex _
    refine List.Pairwise.imp_of_mem ?_ (List.pairwise_of_forall fun _ _ => trivial)
    intro first second before after _
    rcases calls before with ⟨topic, detector, value, rfl, rfl, _⟩ | ⟨detector, rfl, rfl⟩
    · rcases calls after with ⟨_, _, _, _, rfl, _⟩ | ⟨_, same, _⟩
      · trivial
      · cases same
    · rcases calls after with ⟨_, _, _, same, _, _⟩ | ⟨_, _, rfl⟩
      · cases same
      · trivial
  · refine isWalk.pairwise.imp ?_
    intro earlier later independent first before second after
    rcases calls before with ⟨topic, detector, value, rfl, rfl, listens⟩ | ⟨detector, rfl, rfl⟩
    · rcases calls after with ⟨_, _, _, rfl, rfl, _⟩ | ⟨writer, rfl, rfl⟩
      · trivial
      · intro declared
        exact independent (edge_of_publisher sound declared)
    · rcases calls after with ⟨topic, other, value, rfl, rfl, listens⟩ | ⟨_, rfl, rfl⟩
      · intro same
        exact independent (same ▸ edge_of_subscriber sound listens)
      · trivial

/-- The deliveries of one vertex: a topic's new value goes to each of its
subscribers, in the order of subscription. -/
def deliveries (registry : Registry) (board : Board α) :
    Vertex → List (DetectorId × Payload × α)
  | .topic topic =>
      (board.new? topic).elim [] fun value =>
        (registry.subscribers topic).map fun detector => (detector, topic, value)
  | .detector _ => []

def completions (registry : Registry) (board : Board α) : Vertex → List DetectorId
  | .topic _ => []
  | .detector detector => if registry.hears board detector then [detector] else []

theorem deliveries_due (registry : Registry) (board : Board α) (vertex : Vertex) :
    (registry.due board vertex).filterMap Event.delivery? = registry.deliveries board vertex := by
  cases vertex with
  | topic topic =>
      rw [due, deliveries]
      cases board.new? topic with
      | none => rfl
      | some value =>
          simp only [Option.elim_some, List.filterMap_map]
          rw [← List.filterMap_eq_map]
          rfl
  | detector detector =>
      rw [due, deliveries]
      split <;> rfl

theorem completions_due (registry : Registry) (board : Board α) (vertex : Vertex) :
    (registry.due board vertex).filterMap Event.completion? =
      registry.completions board vertex := by
  cases vertex with
  | topic topic =>
      rw [due, completions]
      cases board.new? topic with
      | none => rfl
      | some value =>
          simp only [Option.elim_some, List.filterMap_map]
          exact List.filterMap_eq_nil_iff.mpr fun _ _ => rfl
  | detector detector =>
      rw [due, completions]
      split <;> rfl

theorem mem_deliveries {registry : Registry} {board : Board α} {vertex : Vertex}
    {detector : DetectorId} {topic : Payload} {value : α} :
    (detector, topic, value) ∈ registry.deliveries board vertex ↔
      vertex = .topic topic ∧ board.new? topic = some value ∧
        detector ∈ registry.subscribers topic := by
  cases vertex with
  | detector other =>
      rw [deliveries]
      exact iff_of_false List.not_mem_nil fun all => by cases all.1
  | topic source =>
      rw [deliveries]
      constructor
      · intro member
        cases new : board.new? source with
        | none =>
            rw [new] at member
            cases member
        | some given =>
            rw [new] at member
            rcases List.mem_map.mp member with ⟨other, subscribed, same⟩
            cases same
            exact ⟨rfl, new, subscribed⟩
      · rintro ⟨same, new, subscribed⟩
        rw [Vertex.topic.inj same, new]
        exact List.mem_map.mpr ⟨detector, subscribed, rfl⟩

theorem mem_completions {registry : Registry} {board : Board α} {vertex : Vertex}
    {detector : DetectorId} :
    detector ∈ registry.completions board vertex ↔
      vertex = .detector detector ∧ registry.hears board detector = true := by
  cases vertex with
  | topic topic =>
      rw [completions]
      exact iff_of_false List.not_mem_nil fun both => by cases both.1
  | detector other =>
      rw [completions]
      constructor
      · intro member
        split at member
        next hears =>
          rw [List.mem_singleton.mp member]
          exact ⟨rfl, hears⟩
        next => cases member
      · rintro ⟨same, hears⟩
        rw [Vertex.detector.inj same, if_pos hears]
        exact List.mem_singleton.mpr rfl

theorem IsWalk.deliveries_nodup {registry : Registry} {walk : List Vertex}
    (isWalk : registry.IsWalk walk) (sound : registry.Sound) (board : Board α) :
    (walk.flatMap (registry.deliveries board)).Nodup := by
  rw [List.nodup_flatMap]
  constructor
  · intro vertex _
    cases vertex with
    | detector detector => exact List.nodup_nil
    | topic topic =>
        rw [deliveries]
        cases board.new? topic with
        | none => exact List.nodup_nil
        | some value =>
            exact (sound.subscribers_nodup topic).map fun _ _ same => (Prod.mk.inj same).1
  · refine isWalk.nodup.imp ?_
    rintro first second different ⟨detector, topic, value⟩ before after
    exact different ((mem_deliveries.mp before).1.trans (mem_deliveries.mp after).1.symm)

theorem IsWalk.completions_nodup {registry : Registry} {walk : List Vertex}
    (isWalk : registry.IsWalk walk) (board : Board α) :
    (walk.flatMap (registry.completions board)).Nodup := by
  rw [List.nodup_flatMap]
  constructor
  · intro vertex _
    cases vertex with
    | topic topic => exact List.nodup_nil
    | detector detector =>
        rw [completions]
        split
        · exact List.nodup_singleton _
        · exact List.nodup_nil
  · refine isWalk.nodup.imp ?_
    intro first second different detector before after
    exact different ((mem_completions.mp before).1.trans (mem_completions.mp after).1.symm)

end Registry

/-! ## What a step delivers -/

/-- The log of a step delivers the new values of the final board exactly once:
topic by topic in the order of the walk, and for each topic in the order of
subscription.  A detector completes once, and just if it was handed anything.
Nothing is handed to it after that, and no topic that it publishes within the
pass is handed to anyone before. -/
structure DeliversOnce (registry : Registry) (walk : List Vertex) (board : Board α)
    (log : List (Event α)) : Prop where
  deliveries : log.filterMap Event.delivery? = walk.flatMap (registry.deliveries board)
  delivered_iff : ∀ detector topic value,
    (detector, topic, value) ∈ log.filterMap Event.delivery? ↔
      board.new? topic = some value ∧ detector ∈ registry.subscribers topic
  deliveries_nodup : (log.filterMap Event.delivery?).Nodup
  completed_iff : ∀ detector,
    detector ∈ log.filterMap Event.completion? ↔
      ∃ topic value, (detector, topic, value) ∈ log.filterMap Event.delivery?
  completions_nodup : (log.filterMap Event.completion?).Nodup
  completed_last : ∀ before detector after, log = before ++ .completed detector :: after →
    ∀ topic value, .evaluated detector topic value ∉ after
  completed_first : ∀ before detector after, log = before ++ .completed detector :: after →
    ∀ topic, registry.isDeclared detector topic .immediate = true →
      ∀ other value, .evaluated other topic value ∉ before

/-- The calls that a walk stands for deliver exactly once. -/
theorem Registry.IsWalk.deliversOnce {registry : Registry} {walk : List Vertex}
    (isWalk : registry.IsWalk walk) (sound : registry.Sound) {board : Board α}
    (settled : board.Sound) {log : List (Event α)}
    (calls : log.filter Event.isCall = walk.flatMap (registry.due board)) :
    DeliversOnce registry walk board log := by
  have deliveries : log.filterMap Event.delivery? = walk.flatMap (registry.deliveries board) := by
    rw [← Log.deliveries_calls, calls, List.filterMap_flatMap]
    congr 1
    funext vertex
    exact registry.deliveries_due board vertex
  have completions :
      log.filterMap Event.completion? = walk.flatMap (registry.completions board) := by
    rw [← Log.completions_calls, calls, List.filterMap_flatMap]
    congr 1
    funext vertex
    exact registry.completions_due board vertex
  have delivered : ∀ detector topic value,
      (detector, topic, value) ∈ log.filterMap Event.delivery? ↔
        board.new? topic = some value ∧ detector ∈ registry.subscribers topic := by
    intro detector topic value
    rw [deliveries, List.mem_flatMap]
    constructor
    · rintro ⟨vertex, _, member⟩
      exact (Registry.mem_deliveries.mp member).2
    · rintro ⟨new, subscribed⟩
      refine ⟨.topic topic, isWalk.topic_mem.mpr ?_,
        Registry.mem_deliveries.mpr ⟨rfl, new, subscribed⟩⟩
      rcases Registry.topic?_of_mem_subscribers subscribed with ⟨entry, found, _⟩
      rw [Registry.hasTopic, found]
      rfl
  have inOrder := isWalk.inOrder sound board
  rw [← calls] at inOrder
  refine ⟨deliveries, delivered, ?_, ?_, ?_, ?_, ?_⟩
  · rw [deliveries]
    exact isWalk.deliveries_nodup sound board
  · intro detector
    rw [completions, List.mem_flatMap]
    constructor
    · rintro ⟨vertex, _, member⟩
      rcases (Registry.hears_iff sound settled).mp (Registry.mem_completions.mp member).2 with
        ⟨topic, subscribed, new⟩
      rcases Option.isSome_iff_exists.mp new with ⟨value, new⟩
      exact ⟨topic, value, (delivered detector topic value).mpr ⟨new, subscribed⟩⟩
    · rintro ⟨topic, value, member⟩
      rcases (delivered detector topic value).mp member with ⟨new, subscribed⟩
      refine ⟨.detector detector, isWalk.detector_mem.mpr (sound.subscriber_known subscribed),
        Registry.mem_completions.mpr ⟨rfl, (Registry.hears_iff sound settled).mpr ?_⟩⟩
      exact ⟨topic, subscribed, by rw [new]; rfl⟩
  · rw [completions]
    exact isWalk.completions_nodup board
  · intro before detector after split topic value member
    rw [split, List.filter_append, List.filter_cons_of_pos rfl] at inOrder
    have later := (List.pairwise_cons.mp (List.pairwise_append.mp inOrder).2.1).1
    exact later _ (List.mem_filter.mpr ⟨member, rfl⟩) rfl
  · intro before detector after split topic declared other value member
    rw [split, List.filter_append, List.filter_cons_of_pos rfl] at inOrder
    have earlier := (List.pairwise_append.mp inOrder).2.2
    exact earlier _ (List.mem_filter.mpr ⟨member, rfl⟩) _ List.mem_cons_self declared

namespace Graph

/-- A step that has run a pass delivers every settled value exactly once. -/
theorem step_delivers_once {graph : Graph α σ} (reachable : graph.Reachable)
    (ran : graph.step.result = .ok true) :
    DeliversOnce graph.step.state.registry graph.step.state.order.walk graph.step.state.board
      graph.step.events := by
  have coherent := reachable.coherent
  rcases coherent.step_settles ran with ⟨midway, calls⟩
  have after : graph.step.state.Coherent := coherent.step
  exact (after.isWalk (isSealed_step ran)).deliversOnce after.registry midway.settled calls

/-- Two detectors fed by one topic and feeding another, with a waiting
input. -/
def diamond : Graph Nat Unit :=
  (run [.add (.relay [.plain "left", .plain "right"] [.plain "out"]),
    .add (.relay [.plain "in"] [.plain "left"]), .add (.relay [.plain "in"] [.plain "right"]),
    .addLag (.plain "out"), .push ⟨.plain "in", 7⟩] (ofConfig {})).state

theorem diamond_delivers_once :
    diamond.Reachable ∧ diamond.step.result = .ok true ∧
      DeliversOnce diamond.step.state.registry diamond.step.state.order.walk
        diamond.step.state.board diamond.step.events :=
  ⟨⟨_, _, rfl⟩, rfl, step_delivers_once ⟨_, _, rfl⟩ rfl⟩

end Graph
end ReactiveGraph
