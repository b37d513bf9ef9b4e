import ReactiveGraph.Proofs.Feedback
import ReactiveGraph.Proofs.Lagging
import ReactiveGraph.Proofs.Publishing

namespace ReactiveGraph

/-!
# Lags hold nothing stale

A lag captures a value in one call and is armed in another, and a pass may be
abandoned before, between or after them.  Wherever it is abandoned, the lags
that are armed are those that the walk has come past, and each is armed with
the new value of its source.  So nothing that a lag has captured outlives a
pass in which the lag did not complete.
-/

variable {α σ : Type}

/-- How a lag stands between two passes: its source and what it is armed
with. -/
def Control.standing (control : Control α) : Option (Payload × Option α) :=
  control.lag?.map fun lag => (lag.source, lag.armed)

theorem Control.standing_handed (control : Control α) (value : α) :
    (control.handed value).standing = control.standing := by
  rcases control with ⟨subscriptions, pending, lag | lag⟩ <;> rfl

/-- The lag was handed the value of its source and has completed after
that. -/
def Log.Captures (log : List (Event α)) (detector : DetectorId) (source : Payload) (value : α) :
    Prop :=
  [.evaluated detector source value, .completed detector].Sublist log

namespace Live

variable {registry : Registry} {walk visited rest : List Vertex}

theorem standing_visit_topic (registry : Registry) (topic : Payload) (live : Live α σ) :
    (visit registry (.topic topic) live).state.controls.map Control.standing =
      live.controls.map Control.standing := by
  have composes := Outcome.composes_keeps (α := α) fun live : Live α σ =>
    live.controls.map Control.standing
  have one : ∀ detector ∈ registry.subscribers topic, ∀ other : Live α σ,
      Outcome.Follows (Outcome.Keeps fun live => live.controls.map Control.standing) other
        (deliver registry topic detector other) := by
    intro detector _ other
    rcases deliver_cases registry topic detector other with
      idle | ⟨slot, value, found, new, listed⟩
    · rw [idle]
      exact composes.done other ()
    · have called : Outcome.Follows
          (Called registry detector (slot.control.handed value) [.evaluated detector topic value])
          other (deliver registry topic detector other) := deliver_called found new listed
      exact controls_set Control.standing found (slot.control.standing_handed value)
        called.controls
  rw [visit]
  split
  · exact composes.each one live
  · rfl

/-- How lags stand is all that matters to a statement about what they are
armed with. -/
theorem lag?_of_standing {before after : Live α σ}
    (same : after.controls.map Control.standing = before.controls.map Control.standing)
    {detector : DetectorId} {lag : Lag α} (holds : after.lag? detector = some lag) :
    ∃ earlier, before.lag? detector = some earlier ∧ earlier.source = lag.source ∧
      earlier.armed = lag.armed := by
  rcases lag?_iff.mp holds with ⟨control, found, holds⟩
  have standing : (after.controls.map Control.standing)[detector]? =
      some (some (lag.source, lag.armed)) := by
    simp [found, Control.standing, holds]
  rw [same, List.getElem?_map] at standing
  rcases Option.map_eq_some_iff.mp standing with ⟨former, was, stood⟩
  rcases Option.map_eq_some_iff.mp stood with ⟨earlier, held, equal⟩
  rcases Prod.mk.inj equal with ⟨source, armed⟩
  exact ⟨earlier, lag?_iff.mpr ⟨former, was, held⟩, source, armed⟩

/-- The pass has ended, one way or the other, once the given vertices had been
visited: the lags among these are armed, no others are, and the calls that the
vertices stand for have been made. -/
structure Stopped (registry : Registry) (visited : List Vertex) (live : Live α σ)
    (log : List (Event α)) : Prop where
  fits : registry.Fits live.shapes
  settled : live.board.Sound
  armed : ∀ detector lag, live.lag? detector = some lag →
    lag.armed = if .detector detector ∈ visited then live.board.new? lag.source else none
  calls : visited.flatMap (registry.due live.board) <+: log.filter Event.isCall

theorem Walked.stopped {live : Live α σ} {log : List (Event α)}
    (walked : Walked registry visited live log) : Stopped registry visited live log where
  fits := walked.midway.fits
  settled := walked.midway.settled
  armed := by
    intro detector lag holds
    rcases lag?_iff.mp holds with ⟨control, found, holds⟩
    exact (walked.midway.booked detector control found).armed lag holds
  calls := ⟨[], (List.append_nil _).trans walked.calls.symm⟩

/-- A walk that stops at a topic has not armed the topic's subscribers. -/
theorem Walked.stopped_topic (sound : registry.Sound) (isWalk : registry.IsWalk walk)
    {topic : Payload} (split : walk = visited ++ .topic topic :: rest) {live : Live α σ}
    {log : List (Event α)} (walked : Walked registry visited live log) :
    Stopped registry visited (Live.visit registry (.topic topic) live).state
      (log ++ (Live.visit registry (.topic topic) live).events) where
  fits := (walked.midway.visit_kept (.topic topic)).1
  settled := (walked.midway.visit_kept (.topic topic)).2
  armed := by
    intro detector lag holds
    rcases lag?_of_standing (standing_visit_topic registry topic live) holds with
      ⟨earlier, held, source, armed⟩
    rw [← source, ← armed, walked.stopped.armed detector earlier held]
    split
    next reached =>
      rcases lag?_iff.mp held with ⟨control, found, holdsLag⟩
      have listens := (onlySource walked.midway.fits found earlier holdsLag earlier.source).mpr rfl
      have passed := source_visited sound isWalk split listens reached
      exact (visit_settled sound isWalk split live (List.mem_append_left _ passed)).symm
    next => rfl
  calls := by
    rw [walked.midway.due_visit sound isWalk split, List.filter_append, ← walked.calls]
    exact List.prefix_append _ _

theorem pass_stops (sound : registry.Sound) {order : VisitOrder}
    (isWalk : registry.IsWalk order.walk) {live : Live α σ} (fits : registry.Fits live.shapes)
    (input : Option (Input α)) :
    ∃ visited rest, order.walk = visited ++ rest ∧
      Stopped registry visited (pass registry order input live).state
        (pass registry order input live).events := by
  have behind : ∀ {visited : List Vertex} {live : Live α σ} {log : List (Event α)}
      (given : List (Input α)), Stopped registry visited live log →
        Stopped registry visited live
          ((given.map fun input => .wrote input.topic input.value) ++ log) := by
    intro visited live log given stopped
    refine ⟨stopped.fits, stopped.settled, stopped.armed, ?_⟩
    have silent := Log.calls_map (fun given : Input α => .wrote given.topic given.value)
      (fun _ => rfl) given
    rw [List.filter_append, silent, List.nil_append]
    exact stopped.calls
  rcases pass_cases order input fits with ⟨given, _, _, same⟩ | ⟨_, same⟩
  · refine ⟨[], order.walk, rfl, ?_⟩
    have stopped := behind live.armed (walked_opened fits none).stopped
    rw [List.append_nil] at stopped
    rw [same]
    exact stopped
  · rw [same]
    have next : ∀ (visited : List Vertex) (vertex : Vertex) (rest : List Vertex)
        (state : Live α σ) (log : List (Event α)), order.walk = visited ++ vertex :: rest →
        Walked registry visited state log → (visit registry vertex state).result = .ok () →
          Walked registry (visited ++ [vertex]) (visit registry vertex state).state
            (log ++ (visit registry vertex state).events) :=
      fun _ _ _ _ _ split before visitOk => before.visit sound isWalk split visitOk
    cases result : (Outcome.each (visit registry) order.walk (live.opened input)).result with
    | ok =>
        have walked := Outcome.each_ok (walked_opened fits input) next result
        exact ⟨order.walk, [], (List.append_nil _).symm, behind _ walked.stopped⟩
    | error error =>
        rcases Outcome.each_error (walked_opened fits input) next result with
          ⟨visited, vertex, rest, state, log, split, walked, _, ended⟩
        rw [ended]
        cases vertex with
        | topic topic =>
            exact ⟨visited, _, split, behind _ (walked.stopped_topic sound isWalk split)⟩
        | detector detector =>
            -- A detector has completed even if what it published is refused.
            have completed := walked.concat sound isWalk split
              (walked.midway.visit_detector sound isWalk split)
            refine ⟨visited ++ [.detector detector], rest, ?_, behind _ completed.stopped⟩
            rw [split, List.append_assoc, List.singleton_append]

/-- Wherever a pass stops, a lag that is armed has captured, in this pass, what
is the new value of its source, and it has completed after that. -/
theorem Stopped.captures (sound : registry.Sound) (isWalk : registry.IsWalk walk)
    (split : walk = visited ++ rest) {live : Live α σ} {log : List (Event α)}
    (stopped : Stopped registry visited live log) {detector : DetectorId} {lag : Lag α} {value : α}
    (holds : live.lag? detector = some lag) (armed : lag.armed = some value) :
    live.board.new? lag.source = some value ∧ Log.Captures log detector lag.source value := by
  have formula := stopped.armed detector lag holds
  rw [armed] at formula
  have reached : .detector detector ∈ visited := by
    by_contra unvisited
    rw [if_neg unvisited] at formula
    cases formula
  rw [if_pos reached] at formula
  refine ⟨formula.symm, ?_⟩
  rcases List.append_of_mem reached with ⟨front, back, rfl⟩
  have here : walk = front ++ .detector detector :: (back ++ rest) := by
    rw [split, List.append_assoc, List.cons_append]
  rcases lag?_iff.mp holds with ⟨control, found, holdsLag⟩
  have listens : detector ∈ registry.subscribers lag.source :=
    (onlySource stopped.fits found lag holdsLag lag.source).mpr rfl
  have passed : .topic lag.source ∈ front :=
    isWalk.earlier sound here (Registry.edge_of_subscriber sound listens)
  have handed : .evaluated detector lag.source value ∈
      front.flatMap (registry.due live.board) := by
    apply List.mem_flatMap.mpr
    refine ⟨.topic lag.source, passed, ?_⟩
    simp [Registry.due, ← formula, listens]
  have hears : registry.hears live.board detector = true := by
    rw [Registry.hears_iff sound stopped.settled]
    exact ⟨lag.source, listens, by rw [← formula]; rfl⟩
  have completed : .completed detector ∈
      (.detector detector :: back).flatMap (registry.due live.board) := by
    apply List.mem_flatMap.mpr
    refine ⟨.detector detector, List.mem_cons_self, ?_⟩
    simp [Registry.due, hears]
  have inOrder : List.Sublist ([.evaluated detector lag.source value] ++ [.completed detector])
      ((front ++ .detector detector :: back).flatMap (registry.due live.board)) := by
    rw [List.flatMap_append]
    exact (List.singleton_sublist.mpr handed).append (List.singleton_sublist.mpr completed)
  exact (inOrder.trans stopped.calls.sublist).trans List.filter_sublist

end Live

/-! ## Operations and histories -/

namespace Graph

/-- Wherever the pass of a step stops, what it leaves armed is new. -/
theorem Coherent.step_captures {graph : Graph α σ} (coherent : graph.Coherent)
    (counted : graph.step.state.passCount ≠ graph.passCount) {detector : DetectorId}
    {lag : Lag α} {value : α} (holds : graph.step.state.lag? detector = some lag)
    (armed : lag.armed = some value) :
    graph.step.state.board.new? lag.source = some value ∧
      Log.Captures graph.step.events detector lag.source value := by
  rcases step_passed counted with ⟨closed, answer, same⟩
  have closedCoherent := coherent.close answer
  have fits : closed.registry.Fits closed.poised.shapes := closedCoherent.fits
  have isWalk := closedCoherent.isWalk (isSealed_close answer)
  rw [same] at holds ⊢
  have inPass : closed.nextPass.state.lag? detector = some lag := holds
  rcases Live.pass_stops closedCoherent.registry isWalk fits closed.queue.waiting.head? with
    ⟨visited, rest, split, stopped⟩
  rcases stopped.captures closedCoherent.registry isWalk split inPass armed with ⟨new, captures⟩
  exact ⟨new, captures.trans (List.sublist_append_right _ _)⟩

theorem lag?_of_still {operation : Operation α σ} {graph : Graph α σ}
    (still : (perform operation graph).state.passCount = graph.passCount) {detector : DetectorId}
    {lag : Lag α} {value : α} (holds : (perform operation graph).state.lag? detector = some lag)
    (armed : lag.armed = some value) : graph.lag? detector = some lag := by
  by_cases stepping : operation = .step
  · subst stepping
    have state : (perform .step graph).state = graph.step.state := rfl
    rw [state] at still holds
    rcases (step_still still).2 with ⟨order, registry, same | same⟩
    · rw [same] at holds
      exact holds
    · rw [same] at holds
      have unarmed := lag?_givenUp holds
      rw [armed] at unarmed
      cases unarmed
  · rcases (graph.perform_unevaluated stepping).slots with ⟨joined, slots, idle⟩
    rw [Live.lag?, slots] at holds
    by_cases old : detector < graph.slots.length
    · rw [List.getElem?_append_left old] at holds
      exact holds
    · rw [List.getElem?_append_right (Nat.le_of_not_lt old)] at holds
      rcases Option.bind_eq_some_iff.mp holds with ⟨slot, found, isLag⟩
      have unarmed := idle slot (List.mem_of_getElem? found)
      rw [Slot.armed?, isLag, Option.bind_some, armed] at unarmed
      cases unarmed

/-- No lag holds a stale value after the operations, which have led from an
empty graph to this one.  Whatever a lag is armed with is the new value of its
source, which it has captured, and completed after, in the last pass so far; a
pass leaves no lag armed that has not completed in it.  What appears on a
lagged topic is the input, or some detector had permission to publish it, or a
lag is armed with it before. -/
structure Punctual (config : Config) (operations : List (Operation α σ)) (graph : Graph α σ) :
    Prop where
  fresh : ∀ detector lag value, graph.lag? detector = some lag → lag.armed = some value →
    graph.board.new? lag.source = some value
  captured : ∀ detector lag value, graph.lag? detector = some lag → lag.armed = some value →
    ∃ front back, operations = front ++ .step :: back ∧
      graph.passCount = (run front (ofConfig config)).state.passCount + 1 ∧
        Log.Captures (run front (ofConfig config)).state.step.events detector lag.source value
  abandoned : graph.step.state.passCount ≠ graph.passCount →
    ∀ detector lag, graph.step.state.lag? detector = some lag →
      .completed detector ∉ graph.step.events → lag.armed = none
  delivered : ∀ source value, .wrote (.lagged source) value ∈ graph.step.events →
    .consumed ⟨.lagged source, value⟩ ∈ graph.step.events ∨
      (∃ publisher, .published publisher (.lagged source) value ∈ graph.step.events ∧
        graph.registry.isDeclared publisher (.lagged source) .immediate = true) ∨
      ∃ detector lag, graph.lag? detector = some lag ∧ lag.source = source ∧
        lag.armed = some value

/-- Whatever a history comes to, a lag that is armed holds the new value of
its source. -/
theorem Reachable.freshOn {graph : Graph α σ} (reachable : graph.Reachable) :
    graph.FreshOn graph.board := by
  have both : graph.Coherent ∧ graph.FreshOn graph.board := by
    apply reachable.invariant (P := fun graph => graph.Coherent ∧ graph.FreshOn graph.board)
    · intro config
      refine ⟨coherent_ofConfig config, ?_⟩
      intro _ _ _ holds
      cases holds
    · rintro operation graph ⟨coherent, fresh⟩
      refine ⟨coherent.perform operation, ?_⟩
      intro detector lag value holds armed
      by_cases still : (perform operation graph).state.passCount = graph.passCount
      · rw [board_perform still]
        exact fresh detector lag value (lag?_of_still still holds armed) armed
      · have stepping : operation = .step := step_of_counted still
        subst stepping
        exact (coherent.step_captures still holds armed).1
  exact both.2

/-- The last pass of a history has captured whatever the lags are armed
with. -/
theorem captured_run (config : Config) (operations : List (Operation α σ)) {detector : DetectorId}
    {lag : Lag α} {value : α}
    (holds : (run operations (ofConfig config)).state.lag? detector = some lag)
    (armed : lag.armed = some value) :
    ∃ front back, operations = front ++ .step :: back ∧
      (run operations (ofConfig config)).state.passCount =
        (run front (ofConfig config)).state.passCount + 1 ∧
      Log.Captures (run front (ofConfig config)).state.step.events detector lag.source value := by
  induction operations using List.reverseRecOn with
  | nil => cases holds
  | append_singleton operations operation ih =>
      rw [run_concat] at holds ⊢
      by_cases still :
          (perform operation (run operations (ofConfig config)).state).state.passCount =
            (run operations (ofConfig config)).state.passCount
      · rcases ih (lag?_of_still still holds armed) with ⟨front, back, split, count, captures⟩
        refine ⟨front, back ++ [operation], ?_, still.trans count, captures⟩
        rw [split, List.append_assoc, List.cons_append]
      · have stepping : operation = .step := step_of_counted still
        subst stepping
        have reachable : (run operations (ofConfig config)).state.Reachable :=
          ⟨config, operations, rfl⟩
        refine ⟨operations, [], rfl, ?_,
          (reachable.coherent.step_captures still holds armed).2⟩
        rcases step_passed still with ⟨closed, answer, same⟩
        rcases close_frame answer with ⟨order, registry, rfl⟩
        rw [perform, same]
        rfl

/-- Lags are punctual, however many passes have been abandoned and wherever
that was. -/
theorem lags_punctual (config : Config) (operations : List (Operation α σ)) :
    Punctual config operations (run operations (ofConfig config)).state := by
  have reachable : (run operations (ofConfig config)).state.Reachable :=
    ⟨config, operations, rfl⟩
  refine ⟨reachable.freshOn, ?_, ?_, ?_⟩
  · intro detector lag value holds armed
    exact captured_run config operations holds armed
  · intro counted detector lag holds incomplete
    cases armed : lag.armed with
    | none => rfl
    | some value =>
        have captures := (reachable.coherent.step_captures counted holds armed).2
        have completed := captures.subset (List.mem_cons_of_mem _ (List.mem_singleton_self _))
        exact absurd completed incomplete
  · generalize (run operations (ofConfig config)).state = graph at reachable ⊢
    intro source value wrote
    have counted : graph.step.state.passCount ≠ graph.passCount := by
      intro still
      rw [(step_still still).1] at wrote
      cases wrote
    have written : (⟨.lagged source, value⟩ : Input α) ∈
        graph.step.events.filterMap Event.written? := List.mem_filterMap.mpr ⟨_, wrote, rfl⟩
    have offered := (reachable.coherent.passed counted).upTo.subset written
    rw [List.mem_append, List.mem_append] at offered
    rcases offered with (armed | consumed) | granted
    · rcases Live.mem_armed.mp armed with ⟨detector, lag, other, holds, armed, equal⟩
      cases equal
      exact Or.inr (Or.inr ⟨detector, lag, holds, rfl, armed⟩)
    · rcases List.mem_filterMap.mp consumed with ⟨event, member, isConsumed⟩
      rw [Event.consumed?_eq_some_iff.mp isConsumed] at member
      exact Or.inl member
    · rcases List.mem_filterMap.mp granted with ⟨event, member, isGranted⟩
      rcases Registry.granted?_eq_some_iff.mp isGranted with ⟨publisher, rfl, declared⟩
      exact Or.inr (Or.inl ⟨publisher, member, declared⟩)

end Graph
end ReactiveGraph
