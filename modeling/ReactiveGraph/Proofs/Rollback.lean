import ReactiveGraph.Proofs.Newcomers
import ReactiveGraph.Proofs.Sealing

namespace ReactiveGraph

/-!
# Taking a detector back

A detector that is being wired has an identifier beyond those of all others.
If its wiring fails, whatever bears that identifier is removed, and since no
other edge does, each topic has again the edges that it had before, in the
same order.  What stays are the topics that were registered on the way.  They
have no edges left and, as no value is written before the graph is sealed, no
value either.  The identifier is free for the next detector.
-/

variable {α σ : Type}

namespace Registry

theorem withoutEdges_eq_self {entry : TopicRecord} {count : Nat} (sound : entry.Sound count) :
    withoutEdges count entry = entry := by
  have publishers : entry.publishers.filter (fun publisher => publisher.1 ≠ count) =
      entry.publishers := by
    apply List.filter_eq_self.mpr
    intro publisher member
    simpa using Nat.ne_of_lt (sound.publishers_known publisher member)
  have subscribers : entry.subscribers.filter (fun subscriber => subscriber ≠ count) =
      entry.subscribers := by
    apply List.filter_eq_self.mpr
    intro subscriber member
    simpa using Nat.ne_of_lt (sound.subscribers_known subscriber member)
  rw [withoutEdges, publishers, subscribers]

/-- However far the wiring of a detector has come, once the detector is taken
back the registry is what it was before, apart from topics without edges and
numbers that are used up. -/
theorem Sound.takeBack_run {registry entered : Registry} (sound : registry.Sound) {name : String}
    {detector : DetectorId} (added : registry.addDetector name = .ok (detector, entered))
    (wiring : Wiring) :
    ∃ created nextSequence,
      (wiring.run detector entered []).registry.takeBack detector =
          { registry with topics := registry.topics ++ created, nextSequence } ∧
        ∀ entry ∈ created, entry.publishers = [] ∧ entry.subscribers = [] := by
  rcases sound.addDetector added with ⟨enteredSound, _, _, _, count, table, _⟩
  have known : detector < entered.detectors.length := by
    rw [count]
    exact Nat.lt_succ_self _
  rcases wiring.run_leaves enteredSound known table with ⟨_, gained, _⟩
  generalize (wiring.run detector entered []).registry = final at gained
  rcases gained with ⟨sealing, detectors, created, topics, blank⟩
  refine ⟨created, final.nextSequence, ?_, blank⟩
  rw [Registry.addDetector] at added
  split at added
  next => cases added
  next =>
    cases added
    have restored : registry.topics.map (withoutEdges registry.detectors.length) =
        registry.topics := by
      calc registry.topics.map (withoutEdges registry.detectors.length)
          = registry.topics.map id := List.map_congr_left fun entry member =>
            withoutEdges_eq_self (sound.entries entry member)
        _ = registry.topics := List.map_id _
    rw [Registry.takeBack, topics, detectors, sealing, restored]
    simp

end Registry

namespace Graph

/-- As long as a graph is open, nothing has been written. -/
theorem Reachable.unwritten {graph : Graph α σ} (reachable : graph.Reachable)
    (opened : graph.isSealed = false) : graph.board = {} := by
  suffices held : graph.isSealed = false → graph.board = {} from held opened
  apply reachable.invariant (P := fun graph => graph.isSealed = false → graph.board = {})
  · exact fun _ _ => rfl
  · intro operation graph held opened
    have before : graph.isSealed = false := by
      cases closed : graph.isSealed with
      | false => rfl
      | true =>
          have kept := (perform_fixed closed operation).isSealed
          rw [opened, closed] at kept
          cases kept
    by_cases still : (perform operation graph).state.passCount = graph.passCount
    · rw [board_perform still]
      exact held before
    · have stepping : operation = .step := step_of_counted still
      subst stepping
      rcases step_passed still with ⟨closed, answer, same⟩
      have state : (perform .step graph).state = closed.rested closed.nextPass.state :=
        congrArg Outcome.state same
      have sealing : (perform .step graph).state.isSealed = true := by
        rw [state]
        exact (isSealed_close answer :)
      exact absurd (opened.symm.trans sealing) Bool.false_ne_true

theorem Coherent.newcomer_last {graph : Graph α σ} (coherent : graph.Coherent)
    {operation : Operation α σ} {joined : DetectorId × Option Payload}
    (joins : newcomer? operation graph = some joined) : joined.1 = graph.slots.length := by
  have roster := congrArg (List.map Prod.fst) (coherent.roster_perform operation)
  rw [joins, Option.toList, List.map_append, roster_ids, roster_ids] at roster
  have count := congrArg List.length roster
  simp only [List.length_append, List.length_map, List.length_range, List.length_singleton] at count
  rw [count, List.range_succ] at roster
  simpa using (List.append_cancel_left roster).symm

theorem Coherent.count_run {graph : Graph α σ} (coherent : graph.Coherent)
    {operations : List (Operation α σ)} (alone : newcomers operations graph = []) :
    (run operations graph).state.slots.length = graph.slots.length := by
  have roster := congrArg (List.map Prod.fst) (coherent.roster_run operations)
  rw [alone, List.append_nil, roster_ids, roster_ids] at roster
  simpa using congrArg List.length roster

/-- If a detector fails to join, the graph is sealed, or the detector was
entered and is taken back. -/
theorem install_failed {graph : Graph α σ} {typeName : String} {wiring : DetectorId → Wiring}
    {resident : Resident α σ} {error : WiringError}
    (failed : (graph.install typeName wiring resident).2 = .error error) :
    graph.isSealed = true ∨ ∃ detector entered,
      graph.registry.addDetector (shortName typeName) = .ok (detector, entered) ∧
        (graph.install typeName wiring resident).1 =
          { graph with
            registry :=
              ((wiring detector).run detector entered []).registry.takeBack detector } := by
  cases closed : graph.isSealed with
  | true => exact Or.inl rfl
  | false =>
      rw [isSealed] at closed
      rw [install] at failed ⊢
      cases added : graph.registry.addDetector (shortName typeName) with
      | error cause => simp [Registry.addDetector, closed] at added
      | ok entered =>
          refine Or.inr ⟨entered.1, entered.2, rfl, ?_⟩
          rw [added] at failed
          cases result : ((wiring entered.1).run entered.1 entered.2 []).result with
          | error cause => simp [result]
          | ok => simp [result] at failed

/-- A detector has failed to join the graph under this name.  Nothing is left
of the attempt but topics without edges and values, behind those that there
were, and numbers that are used up.  A sealed graph has not even begun to wire
it.  The identifier that the detector was given goes to whoever joins the
graph next, no matter how much later. -/
structure Undone (graph : Graph α σ) (name : String) (after : Graph α σ) : Prop where
  restored : ∃ created nextSequence,
    after = { graph with
      registry := { graph.registry with
        topics := graph.registry.topics ++ created
        nextSequence } } ∧
    ((graph.registry.topics ++ created).map TopicRecord.payload).Nodup ∧
    ∀ entry ∈ created, entry.publishers = [] ∧ entry.subscribers = [] ∧
      after.board.current? entry.payload = none ∧ after.board.isFresh entry.payload = false
  untouched : graph.isSealed = true → after = graph
  place : graph.isSealed = false → ∃ id entered,
    graph.registry.addDetector name = .ok (id, entered) ∧
      ∀ operations, newcomers operations after = [] → ∀ operation joined,
        newcomer? operation (run operations after).state = some joined → joined.1 = id

/-- Whatever has been done to a graph and however far the wiring of a detector
has come, if it fails it is undone. -/
theorem failed_wiring_undone (config : Config) (operations : List (Operation α σ))
    (typeName : String) (wiring : DetectorId → Wiring) (resident : Resident α σ)
    {error : WiringError}
    (failed : ((run operations (ofConfig config)).state.install typeName wiring resident).2 =
      .error error) :
    (run operations (ofConfig config)).state.Undone (shortName typeName)
      ((run operations (ofConfig config)).state.install typeName wiring resident).1 := by
  have reachable : (run operations (ofConfig config)).state.Reachable := ⟨config, operations, rfl⟩
  generalize (run operations (ofConfig config)).state = graph at reachable failed
  have coherent := reachable.coherent
  rcases install_failed failed with closed | ⟨detector, entered, added, same⟩
  · rw [install_sealed closed]
    refine ⟨⟨[], graph.registry.nextSequence, ?_, ?_, ?_⟩, fun _ => rfl, ?_⟩
    · rw [List.append_nil]
    · rw [List.append_nil]
      exact coherent.registry.distinct
    · intro _ member
      cases member
    · intro opened
      exact absurd (opened.symm.trans closed) Bool.false_ne_true
  · rcases coherent.wired added (wiring detector) with ⟨rfl, _, _, wired⟩
    have afterCoherent := coherent.takenBack wired
    have blank := reachable.unwritten wired.opened
    rw [same]
    rcases coherent.registry.takeBack_run added (wiring graph.shapes.length) with
      ⟨created, nextSequence, registry, edgeless⟩
    refine ⟨⟨created, nextSequence, ?_, ?_, ?_⟩, ?_, ?_⟩
    · rw [registry]
    · have distinct := afterCoherent.registry.distinct
      rw [registry] at distinct
      exact distinct
    · intro entry member
      rcases edgeless entry member with ⟨publishers, subscribers⟩
      refine ⟨publishers, subscribers, ?_, ?_⟩
      · rw [blank]
        rfl
      · rw [blank]
        rfl
    · intro closed
      exact absurd (wired.opened.symm.trans closed) Bool.false_ne_true
    · intro _
      refine ⟨_, entered, added, ?_⟩
      intro operations alone operation joined joins
      have last := (run_invariant (fun operation _ coherent => coherent.perform operation)
        operations afterCoherent).newcomer_last joins
      rw [afterCoherent.count_run alone] at last
      rw [last, Live.length_shapes]

/-- A detector that subscribes to a topic of others and publishes another one
of theirs, brings a topic of its own into play, is refused once without minding
it and then publishes a topic for the second time. -/
def clumsy : Detector Nat Unit where
  typeName := "Clumsy"
  wiring _ := .ofList
    [⟨.subscribe, .plain "in", false⟩, ⟨.publish, .plain "new", false⟩,
      ⟨.subscribe, .plain "new", true⟩, ⟨.publish, .plain "out", false⟩,
      ⟨.schedule, .plain "out", false⟩]
  behaviour := { onValue := fun _ _ _ _ => .done (), onComplete := fun _ _ => .done () }
  state := ()

/-- The others keep their edges, in the order in which they came. -/
theorem clumsy_undone :
    let graph := (run [.add (.relay [.plain "in"] [.plain "out"]), .addLag (.plain "in")]
      (ofConfig {})).state
    (graph.add clumsy).2 = .error (.duplicatePublisher "Clumsy" "out") ∧
      graph.Undone (shortName "Clumsy") (graph.add clumsy).1 ∧
      (graph.add clumsy).1.registry.topics.map
          (fun entry => (entry.name, entry.publishers, entry.subscribers)) =
        [("in", [], [0, 1]), ("out", [(0, .immediate)], []),
          ("Lagged<in>", [(1, .delayed)], []), ("new", [], [])] := by
  intro graph
  have failed : (graph.add clumsy).2 = .error (.duplicatePublisher "Clumsy" "out") := by
    decide +kernel
  exact ⟨failed, failed_wiring_undone {} _ _ _ _ failed, by decide +kernel⟩

end Graph
end ReactiveGraph
