import ReactiveGraph.Proofs.Coherence
import ReactiveGraph.Proofs.Fifo

namespace ReactiveGraph

/-!
# What a pass writes

Three sources feed the topics of a pass: the lags that are armed when it
starts, its input, and the running detectors, as far as they declared what
they publish.  A pass that succeeds writes all that these offer, in this
order, and one that fails writes the first part of it.  Nothing but a pass
writes to a topic.
-/

variable {α σ : Type}

/-- The value that a running detector published, if it may publish the topic
within the pass. -/
def Registry.granted? (registry : Registry) (event : Event α) : Option (Input α) :=
  event.published?.bind fun published =>
    if registry.isDeclared published.1 published.2.topic .immediate then some published.2 else none

theorem Registry.granted?_eq_some_iff {registry : Registry} {event : Event α} {input : Input α} :
    registry.granted? event = some input ↔
      ∃ publisher, event = .published publisher input.topic input.value ∧
        registry.isDeclared publisher input.topic .immediate = true := by
  cases event with
  | published publisher topic value =>
      simp only [granted?, Event.published?, Option.bind_some]
      split
      next declared =>
        constructor
        · intro granted
          cases granted
          exact ⟨publisher, rfl, declared⟩
        · rintro ⟨_, same, _⟩
          cases same
          rfl
      next undeclared =>
        constructor
        · intro granted
          cases granted
        · rintro ⟨_, same, declared⟩
          cases same
          exact absurd declared undeclared
  | _ => simp [granted?, Event.published?]

def Registry.grant (registry : Registry) (detector : DetectorId) (inputs : List (Input α)) :
    List (Input α) :=
  inputs.filter fun input => registry.isDeclared detector input.topic .immediate

namespace Log

variable (registry : Registry)

theorem granted_published {log : List (Event α)} {detector : DetectorId} {inputs : List (Input α)}
    (published : log.filterMap Event.published? = inputs.map (Prod.mk detector)) :
    log.filterMap registry.granted? = registry.grant detector inputs := by
  have split : log.filterMap registry.granted? =
      (log.filterMap Event.published?).filterMap fun published =>
        if registry.isDeclared published.1 published.2.topic .immediate then some published.2
        else none := by
    rw [List.filterMap_filterMap]
    rfl
  rw [split, published, List.filterMap_map, Registry.grant, ← List.filterMap_eq_filter]
  rfl

theorem granted_of_unpublished {log : List (Event α)}
    (unpublished : log.filterMap Event.published? = []) :
    log.filterMap registry.granted? = [] := by
  apply List.filterMap_eq_nil_iff.mpr
  intro event member
  have silent := List.filterMap_eq_nil_iff.mp unpublished event member
  simp [Registry.granted?, silent]

end Log

namespace Routine

variable {β : Type}

/-- What a routine publishes is what its outbox gains, in the order of its
calls. -/
theorem published_run (registry : Registry) (detector : DetectorId) (routine : Routine α β)
    (around : Surroundings α) :
    (routine.run registry detector around).around.outbox.published.map (Prod.mk detector) =
      around.outbox.published.map (Prod.mk detector) ++
        (routine.run registry detector around).events.filterMap Event.published? := by
  induction routine generalizing around with
  | done result => simp [run]
  | publish topic value next ih =>
      simp [run, Report.behind, ih, Surroundings.publish, Event.published?]
  | publishLater topic value next ih =>
      simp [run, Report.behind, ih, Surroundings.publishLater, List.filterMap_cons,
        Event.published?]
  | schedule topic value delay next ih =>
      simp only [run, Report.behind, ih, Surroundings.schedule]
      split <;> simp [List.filterMap_cons, Event.published?]
  | scheduleEvery topic value period next ih =>
      simp only [run, Report.behind, ih, Surroundings.schedule]
      split <;> simp [List.filterMap_cons, Event.published?]
  | cancel handle next ih =>
      simp [run, Report.behind, ih, List.filterMap_cons, Event.published?]
  | fire now next ih =>
      have taken : (around.fire now).events.filterMap Event.published? = [] :=
        Log.published_intake (Service.fire_intake around.toService now)
      have outbox : (around.fire now).state.outbox = around.outbox := rfl
      simp [run, Report.behind, ih, taken, outbox, List.filterMap_cons, Event.published?]
  | submit topic value next ih =>
      have taken : (around.submit ⟨topic, value⟩).events.filterMap Event.published? = [] :=
        Log.published_intake (Service.submit_intake around.toService ⟨topic, value⟩)
      have outbox : (around.submit ⟨topic, value⟩).state.outbox = around.outbox := rfl
      simp [run, Report.behind, ih, taken, outbox, List.filterMap_cons, Event.published?]
  | look next ih => simp [run, Report.behind, ih, List.filterMap_cons, Event.published?]

end Routine

namespace Live

/-- The values that a detector published are written one by one, up to the
first that it never declared. -/
structure Published (registry : Registry) (detector : DetectorId) (inputs : List (Input α))
    (outcome : Outcome α (Live α σ) Unit) : Prop where
  unpublished : outcome.events.filterMap Event.published? = []
  upTo : outcome.events.filterMap Event.written? <+: registry.grant detector inputs
  whole : outcome.result = .ok () →
    outcome.events.filterMap Event.written? = registry.grant detector inputs

theorem published_fail {registry : Registry} {detector : DetectorId} {inputs : List (Input α)}
    (live : Live α σ) (error : GraphError) :
    Published registry detector inputs (.fail live error) where
  unpublished := rfl
  upTo := List.nil_prefix
  whole := by
    intro ok
    cases ok

theorem publish_all (registry : Registry) (detector : DetectorId) (inputs : List (Input α))
    (live : Live α σ) :
    Published registry detector inputs (Outcome.each (publish registry detector) inputs live) ∧
      (Outcome.each (publish registry detector) inputs live).state.outbox = live.outbox := by
  induction inputs generalizing live with
  | nil => exact ⟨⟨rfl, List.nil_prefix, fun _ => rfl⟩, rfl⟩
  | cons input rest ih =>
      rw [Outcome.each]
      by_cases declared : registry.isDeclared detector input.topic .immediate = true
      · rcases ih { live with board := live.board.write input.topic input.value } with
          ⟨later, outbox⟩
        have granted : registry.grant detector (input :: rest) =
            input :: registry.grant detector rest := List.filter_cons_of_pos declared
        rw [publish_eq declared]
        refine ⟨⟨?_, ?_, ?_⟩, outbox⟩
        · simpa [Outcome.andThen, Outcome.behind, List.filterMap_cons, Event.published?]
            using later.unpublished
        · simpa [Outcome.andThen, Outcome.behind, List.filterMap_cons, Event.written?, granted]
            using later.upTo
        · intro ok
          simpa [Outcome.andThen, Outcome.behind, List.filterMap_cons, Event.written?, granted]
            using later.whole ok
      · rw [publish_undeclared declared, Outcome.andThen_fail]
        exact ⟨published_fail live _, rfl⟩

/-- What is published for later concerns the queue alone. -/
theorem postpone_all (registry : Registry) (detector : DetectorId) (inputs : List (Input α))
    (live : Live α σ) :
    (Outcome.each (publishLater registry detector) inputs live).state.outbox = live.outbox ∧
      OnlyIntake live (Outcome.each (publishLater registry detector) inputs live).events live := by
  constructor
  · refine (Outcome.composes_keeps fun live : Live α σ => live.outbox).each ?_ live
    intro input _ other
    rw [publishLater]
    split <;> rfl
  · refine composes_intake.each ?_ live
    intro input _ other
    rw [publishLater]
    split
    · exact Service.submit_intake other.toService input
    · exact composes_intake.fail other _

/-- The outbox of a detector is emptied into the topics and the queue. -/
theorem emptyOutbox_published (registry : Registry) (detector : DetectorId) (live : Live α σ) :
    Published registry detector live.outbox.published (emptyOutbox registry detector live) ∧
      ((emptyOutbox registry detector live).result = .ok () →
        (emptyOutbox registry detector live).state.outbox = {}) := by
  rw [emptyOutbox]
  cases rejected : live.outbox.rejected with
  | cons topic rest =>
      refine ⟨published_fail _ _, ?_⟩
      intro ok
      cases ok
  | nil =>
      dsimp only
      rcases publish_all registry detector live.outbox.published
        { live with outbox := { live.outbox with published := [] } } with ⟨published, outbox⟩
      generalize Outcome.each (publish registry detector) live.outbox.published
        { live with outbox := { live.outbox with published := [] } } = first at published outbox ⊢
      cases result : first.result with
      | error error =>
          rw [Outcome.andThen_error result]
          refine ⟨published, ?_⟩
          rw [result]
          intro ok
          cases ok
      | ok =>
          rcases postpone_all registry detector first.state.outbox.later
            { first.state with outbox := { first.state.outbox with later := [] } } with
            ⟨emptied, intake⟩
          have silent := Log.written_inner intake.inner
          have quiet := Log.published_intake intake
          have empty : ({ first.state.outbox with later := [] } : Outbox α) = {} := by
            simp only [outbox, rejected]
          rw [Outcome.andThen, result]
          refine ⟨⟨?_, ?_, fun _ => ?_⟩, fun _ => emptied.trans empty⟩
          · simp [Outcome.behind, published.unpublished, quiet]
          · simpa [Outcome.behind, silent] using published.upTo
          · simpa [Outcome.behind, silent] using published.whole result

/-- An activity writes what is published with permission, all of it if it
succeeds and otherwise the first part.  If it succeeds, the outbox is empty
again. -/
structure Honours (registry : Registry) (outcome : Outcome α (Live α σ) Unit) : Prop where
  upTo : outcome.events.filterMap Event.written? <+: outcome.events.filterMap registry.granted?
  whole : outcome.result = .ok () →
    outcome.events.filterMap Event.written? = outcome.events.filterMap registry.granted? ∧
      outcome.state.outbox = {}

variable {registry : Registry}

theorem honours_done {live : Live α σ} (empty : live.outbox = {}) :
    Honours registry (.done live ()) :=
  ⟨List.nil_prefix, fun _ => ⟨rfl, empty⟩⟩

theorem Honours.behind_call {outcome : Outcome α (Live α σ) Unit}
    (honours : Honours registry outcome) {event : Event α} (call : event.isCall = true) :
    Honours registry (outcome.behind [event]) := by
  have silent : event.written? = none ∧ registry.granted? event = none := by
    cases event <;> first | exact ⟨rfl, rfl⟩ | cases call
  constructor
  · simpa [Outcome.behind, silent] using honours.upTo
  · simpa [Outcome.behind, silent] using honours.whole

theorem Honours.andThen {first : Outcome α (Live α σ) Unit}
    {next : Unit → Live α σ → Outcome α (Live α σ) Unit} (before : Honours registry first)
    (after : first.state.outbox = {} → Honours registry (next () first.state)) :
    Honours registry (first.andThen next) := by
  cases result : first.result with
  | error error =>
      rw [Outcome.andThen_error result]
      exact before
  | ok value =>
      rcases before.whole result with ⟨written, empty⟩
      have later := after empty
      have both : first.andThen next = (next () first.state).behind first.events := by
        rw [Outcome.andThen, result]
      rw [both]
      constructor
      · simpa only [Outcome.behind, List.filterMap_append, written, List.prefix_append_right_inj]
          using later.upTo
      · intro ok
        rcases later.whole ok with ⟨more, emptied⟩
        refine ⟨?_, emptied⟩
        simp only [Outcome.behind, List.filterMap_append, written, more]

/-! ## The walk -/

/-- The property holds of a call that has found an empty outbox, of nothing at
all, and of one thing after another, provided that the first one leaves an
empty outbox if it succeeds. -/
structure CoversWalk (registry : Registry) (P : Outcome α (Live α σ) Unit → Prop) : Prop where
  done : ∀ {live : Live α σ}, live.outbox = {} → P (.done live ())
  andThen : ∀ {first : Outcome α (Live α σ) Unit}
    {next : Unit → Live α σ → Outcome α (Live α σ) Unit}, P first →
      (first.state.outbox = {} → P (next () first.state)) → P (first.andThen next)
  call : ∀ {event : Event α}, event.isCall = true → ∀ detector slot routine {live : Live α σ},
    live.outbox = {} → P ((call registry detector slot routine live).behind [event])

namespace CoversWalk

variable {P : Outcome α (Live α σ) Unit → Prop}

theorem each (covers : CoversWalk registry P) {X : Type}
    {act : X → Live α σ → Outcome α (Live α σ) Unit}
    (one : ∀ item live, live.outbox = {} → P (act item live)) (items : List X)
    {live : Live α σ} (empty : live.outbox = {}) : P (Outcome.each act items live) := by
  induction items generalizing live with
  | nil => exact covers.done empty
  | cons item rest ih => exact covers.andThen (one item live empty) ih

theorem visit (covers : CoversWalk registry P) (vertex : Vertex) {live : Live α σ}
    (empty : live.outbox = {}) : P (visit registry vertex live) := by
  cases vertex with
  | topic topic =>
      rw [Live.visit]
      split
      · refine covers.each ?_ _ empty
        intro detector other empty
        rw [deliver]
        split
        next slot value _ _ =>
          split
          · exact covers.call rfl detector _ _ empty
          · exact covers.done empty
        next => exact covers.done empty
      · exact covers.done empty
  | detector detector =>
      rw [Live.visit, complete]
      split
      next => exact covers.done empty
      next slot _ =>
        split
        · exact covers.call rfl detector _ _ empty
        · exact covers.done empty

theorem walk (covers : CoversWalk registry P) (vertices : List Vertex) {live : Live α σ}
    (empty : live.outbox = {}) : P (Outcome.each (Live.visit registry) vertices live) :=
  covers.each (fun vertex _ => covers.visit vertex) vertices empty

end CoversWalk

theorem call_honours (registry : Registry) (detector : DetectorId) (slot : Slot α σ)
    (routine : Routine α (Resident α σ)) {live : Live α σ} (empty : live.outbox = {}) :
    Honours registry (call registry detector slot routine live) := by
  have published := routine.published_run registry detector live.toSurroundings
  have inner := routine.run_inner registry detector live.toSurroundings
  rw [call]
  generalize routine.run registry detector live.toSurroundings = report at published inner ⊢
  rw [empty, List.map_nil, List.nil_append] at published
  have written := Log.written_inner inner
  have granted := Log.granted_published registry published.symm
  rcases emptyOutbox_published registry detector (live.called detector slot report) with
    ⟨emptying, emptied⟩
  have ungranted := Log.granted_of_unpublished registry emptying.unpublished
  refine ⟨?_, fun ok => ⟨?_, emptied ok⟩⟩
  · simpa [Outcome.behind, written, granted, ungranted] using emptying.upTo
  · simpa [Outcome.behind, written, granted, ungranted] using emptying.whole ok

theorem coversWalk_honours (registry : Registry) :
    CoversWalk registry (Honours (α := α) (σ := σ) registry) where
  done := honours_done
  andThen := Honours.andThen
  call isCall detector slot routine _ empty :=
    (call_honours registry detector slot routine empty).behind_call isCall

/-- A pass writes what the lags deliver, its input and what is published with
permission, or the first part of it. -/
theorem pass_writes {registry : Registry} (order : VisitOrder) (input : Option (Input α))
    {live : Live α σ} (fits : registry.Fits live.shapes) :
    ((pass registry order input live).events.filterMap Event.written? <+:
        live.armed ++ input.toList ++
          (pass registry order input live).events.filterMap registry.granted?) ∧
      ((pass registry order input live).result = .ok () →
        (pass registry order input live).events.filterMap Event.written? =
          live.armed ++ input.toList ++
            (pass registry order input live).events.filterMap registry.granted?) := by
  have written : ∀ inputs : List (Input α),
      (inputs.map fun given => Event.wrote given.topic given.value).filterMap Event.written? =
        inputs := by
    intro inputs
    rw [List.filterMap_map]
    exact List.filterMap_some
  have ungranted : ∀ inputs : List (Input α),
      (inputs.map fun given => Event.wrote given.topic given.value).filterMap registry.granted? =
        [] := by
    intro inputs
    rw [List.filterMap_map]
    exact List.filterMap_eq_nil_iff.mpr fun _ _ => rfl
  rcases pass_cases order input fits with ⟨given, rfl, _, same⟩ | ⟨_, same⟩
  · rw [same]
    refine ⟨?_, ?_⟩
    · simp [written, ungranted]
    · intro ok
      cases ok
  · rw [same]
    have walked : Honours registry
        (Outcome.each (visit registry) order.walk (live.opened input)) :=
      (coversWalk_honours registry).walk order.walk rfl
    simp only [Outcome.behind, List.filterMap_append, written, ungranted, List.nil_append]
    refine ⟨(List.prefix_append_right_inj _).mpr walked.upTo, ?_⟩
    intro ok
    rw [(walked.whole ok).1]

end Live

/-! ## The step -/

/-- The values that are meant for one topic, in order. -/
def Input.valuesFor (topic : Payload) (inputs : List (Input α)) : List α :=
  inputs.filterMap fun input => input.value? topic

namespace Graph

/-- Topics change by what a pass writes to them and by nothing else.  A pass
that succeeds writes to each topic the values that its lags deliver to it, in
the order of the detectors, then its input, and then what was published by
detectors that declared the topic, in the order of their calls; any other pass
writes the first part of these.  The new value of a topic is the last one
written, and a topic to which nothing was written keeps its latest value. -/
structure Confined (graph : Graph α σ) : Prop where
  whole : graph.step.result = .ok true → ∀ topic,
    Input.valuesFor topic (graph.step.events.filterMap Event.written?) =
      Input.valuesFor topic graph.armed ++
        Input.valuesFor topic (graph.step.events.filterMap Event.consumed?) ++
          Input.valuesFor topic (graph.step.events.filterMap graph.registry.granted?)
  upTo : graph.step.state.passCount ≠ graph.passCount → ∀ topic,
    Input.valuesFor topic (graph.step.events.filterMap Event.written?) <+:
      Input.valuesFor topic graph.armed ++
        Input.valuesFor topic (graph.step.events.filterMap Event.consumed?) ++
          Input.valuesFor topic (graph.step.events.filterMap graph.registry.granted?)
  settled : graph.step.state.passCount ≠ graph.passCount → ∀ topic,
    graph.step.state.board.new? topic =
      (Input.valuesFor topic (graph.step.events.filterMap Event.written?)).getLast?
  unwritten : graph.step.state.passCount ≠ graph.passCount → ∀ topic,
    Input.valuesFor topic (graph.step.events.filterMap Event.written?) = [] →
      graph.step.state.board.current? topic = graph.board.current? topic
  elsewhere : ∀ operation, (perform operation graph).state.passCount = graph.passCount →
    (perform operation graph).state.board = graph.board

/-- What the log of a step that runs a pass tells. -/
structure Passed (graph : Graph α σ) : Prop where
  upTo : graph.step.events.filterMap Event.written? <+:
    graph.armed ++ graph.step.events.filterMap Event.consumed? ++
      graph.step.events.filterMap graph.registry.granted?
  whole : graph.step.result = .ok true →
    graph.step.events.filterMap Event.written? =
      graph.armed ++ graph.step.events.filterMap Event.consumed? ++
        graph.step.events.filterMap graph.registry.granted?
  board : graph.step.state.board =
    graph.board.age.writeAll (graph.step.events.filterMap Event.written?)

/-- What a pass leaves in the topics is what it wrote, on top of the latest
values of before. -/
theorem board_step {graph : Graph α σ}
    (counted : graph.step.state.passCount ≠ graph.passCount) :
    graph.step.state.board =
      graph.board.age.writeAll (graph.step.events.filterMap Event.written?) := by
  rcases step_passed counted with ⟨closed, answer, same⟩
  have kept : Outcome.Follows Live.Kept closed.poised.prepare closed.nextPass :=
    Live.pass_kept _ _ _ _
  have before : closed.poised.prepare.board = graph.board.age := by
    rcases close_frame answer with ⟨order, registry, rfl⟩
    rfl
  have unwritten : (closed.queue.waiting.head?.toList.map Event.consumed).filterMap
      Event.written? = [] := by
    rw [List.filterMap_map]
    exact List.filterMap_eq_nil_iff.mpr fun _ _ => rfl
  rw [← before, same, List.filterMap_append, unwritten, List.nil_append]
  exact kept.board

theorem Coherent.passed {graph : Graph α σ} (coherent : graph.Coherent)
    (counted : graph.step.state.passCount ≠ graph.passCount) : graph.Passed := by
  rcases step_passed counted with ⟨closed, answer, same⟩
  have fits : closed.registry.Fits closed.poised.shapes := (coherent.close answer).fits
  have writes := Live.pass_writes closed.order closed.queue.waiting.head? fits
  have granted : closed.registry.granted? (α := α) = graph.registry.granted? := by
    rw [registry_close answer]
    rfl
  have opening : closed.poised.armed = graph.armed := by
    rcases close_frame answer with ⟨order, registry, rfl⟩
    rfl
  have split : ∀ {X : Type} (view : Event α → Option X), graph.step.events.filterMap view =
      (closed.queue.waiting.head?.toList.filterMap fun input => view (.consumed input)) ++
        closed.nextPass.events.filterMap view := by
    intro X view
    rw [same, List.filterMap_append, List.filterMap_map]
    rfl
  have taken : graph.step.events.filterMap Event.consumed? =
      closed.queue.waiting.head?.toList := by
    rw [split, closed.consumed_nextPass, List.append_nil]
    exact List.filterMap_some
  have silent : ∀ {X : Type} (view : Event α → Option X), (∀ input, view (.consumed input) = none) →
      graph.step.events.filterMap view = closed.nextPass.events.filterMap view := by
    intro X view quiet
    rw [split, List.filterMap_eq_nil_iff.mpr fun input _ => quiet input, List.nil_append]
  rw [opening, granted] at writes
  refine ⟨?_, ?_, board_step counted⟩
  · rw [taken, silent _ fun _ => rfl, silent _ fun _ => rfl]
    exact writes.1
  · rw [taken, silent _ fun _ => rfl, silent _ fun _ => rfl]
    intro ran
    apply writes.2
    have result : graph.step.result = closed.nextPass.result.map fun _ => true := by rw [same]
    rw [ran] at result
    cases ended : closed.nextPass.result with
    | ok => exact ended
    | error error =>
        rw [ended] at result
        cases result

/-- Topics change by what a pass writes to them and by nothing else. -/
theorem writes_confined {graph : Graph α σ} (reachable : graph.Reachable) : graph.Confined := by
  refine ⟨?_, ?_, ?_, ?_, fun _ still => board_perform still⟩
  · intro ran topic
    rw [(reachable.coherent.passed (counted_of_true ran)).whole ran]
    simp only [Input.valuesFor, List.filterMap_append]
  · intro counted topic
    have upTo := (reachable.coherent.passed counted).upTo.filterMap fun input => input.value? topic
    simpa only [Input.valuesFor, List.filterMap_append] using upTo
  · intro counted topic
    rw [(reachable.coherent.passed counted).board, Board.new?_writeAll, Board.new?_age,
      Option.or_none]
    rfl
  · intro counted topic unwritten
    rw [Input.valuesFor] at unwritten
    rw [(reachable.coherent.passed counted).board, Board.current?_writeAll, Board.current?_age,
      unwritten]
    rfl

/-- Two detectors that pass different topics on to the same one, one of them
a lagged topic. -/
def race : Graph Nat Unit :=
  (run [.addLag (.plain "in"), .add (.relay [.lagged (.plain "in")] [.plain "out"]),
    .add (.relay [.plain "in"] [.plain "out"]), .push ⟨.plain "in", 3⟩, .step,
    .push ⟨.plain "in", 4⟩] (ofConfig {})).state

/-- Both write, and the later one wins. -/
theorem race_confined :
    race.Reachable ∧ race.armed = [⟨.lagged (.plain "in"), 3⟩] ∧
      Input.valuesFor (.plain "out") (race.step.events.filterMap Event.written?) = [4, 3] ∧
        race.step.state.board.new? (.plain "out") = some 3 ∧ race.Confined :=
  ⟨⟨_, _, rfl⟩, rfl, rfl, rfl, writes_confined ⟨_, _, rfl⟩⟩

end Graph
end ReactiveGraph
