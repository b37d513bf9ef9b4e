import ReactiveGraph.Graph.Evaluation
import ReactiveGraph.Proofs.Registry
import ReactiveGraph.Proofs.Sequencing

namespace ReactiveGraph

/-!
# Histories of a graph

From outside, a graph is built, fed, timed and stepped, in any order.  An
operation that fails leaves behind what it has brought about, and the history
goes on.  The states that a graph can be in are those that some history of an
empty graph ends with.
-/

/-- One thing that can be done to a graph from outside. -/
inductive Operation (α σ : Type) where
  | add (detector : Detector α σ)
  | addLag (source : Payload)
  | resolve (topic : Payload)
  | close
  | push (input : Input α)
  | submit (input : Input α)
  | fire (now : Time)
  | schedule (input : Input α) (delay : Time)
  | scheduleEvery (input : Input α) (period : Time)
  | cancel (handle : Handle)
  | step

/-- A detector that publishes every value it is handed to all of its
targets. -/
def Detector.relay {α : Type} (sources targets : List Payload) : Detector α Unit where
  typeName := "Relay"
  wiring _ := .ofList (sources.map (⟨.subscribe, ·, false⟩) ++ targets.map (⟨.publish, ·, false⟩))
  behaviour :=
    { onValue := fun _ _ value _ =>
        targets.foldr (fun topic next => .publish topic value next) (.done ())
      onComplete := fun _ _ => .done () }
  state := ()

def Outcome.regardless {α S β : Type} (outcome : Outcome α S β) : Outcome α S Unit :=
  ⟨outcome.state, outcome.events, .ok ()⟩

namespace Graph

variable {α σ : Type}

def perform : Operation α σ → Graph α σ → Outcome α (Graph α σ) Unit
  | .add detector, graph => .done (graph.add detector).1 ()
  | .addLag source, graph => .done (graph.addLag source).1 ()
  | .resolve topic, graph => .done (graph.resolve topic).1 ()
  | .close, graph =>
      match graph.close with
      | .ok closed => .done closed ()
      | .error _ => .done graph ()
  | .push input, graph => (graph.push input).regardless
  | .submit input, graph => (graph.submit input).regardless
  | .fire now, graph => (graph.fire now).regardless
  | .schedule input delay, graph => .done (graph.schedule input delay).2 ()
  | .scheduleEvery input period, graph => .done (graph.scheduleEvery input period).2 ()
  | .cancel handle, graph => .done (graph.cancel handle).2 ()
  | .step, graph => graph.step.regardless

def run (operations : List (Operation α σ)) (graph : Graph α σ) : Outcome α (Graph α σ) Unit :=
  Outcome.each perform operations graph

/-- The graph is the outcome of some history of an empty graph. -/
def Reachable (graph : Graph α σ) : Prop :=
  ∃ config operations, (run operations (ofConfig config)).state = graph

theorem perform_ok (operation : Operation α σ) (graph : Graph α σ) :
    (perform operation graph).result = .ok () := by
  cases operation with
  | close =>
      rw [perform]
      split <;> rfl
  | _ => rfl

theorem run_cons (operation : Operation α σ) (rest : List (Operation α σ)) (graph : Graph α σ) :
    run (operation :: rest) graph =
      (run rest (perform operation graph).state).behind (perform operation graph).events := by
  rw [run, Outcome.each, Outcome.andThen, perform_ok]
  rfl

theorem run_ok (operations : List (Operation α σ)) (graph : Graph α σ) :
    (run operations graph).result = .ok () := by
  induction operations generalizing graph with
  | nil => rfl
  | cons operation rest ih =>
      rw [run_cons]
      exact ih _

theorem run_append (front back : List (Operation α σ)) (graph : Graph α σ) :
    run (front ++ back) graph =
      (run back (run front graph).state).behind (run front graph).events := by
  rw [run, Outcome.each_append, Outcome.andThen]
  have ok : (Outcome.each perform front graph).result = .ok () := run_ok front graph
  rw [ok]
  rfl

theorem run_concat (operations : List (Operation α σ)) (operation : Operation α σ)
    (graph : Graph α σ) :
    run (operations ++ [operation]) graph =
      (perform operation (run operations graph).state).behind (run operations graph).events := by
  have ok := perform_ok operation (run operations graph).state
  have last : run [operation] (run operations graph).state =
      perform operation (run operations graph).state := by
    rw [run_cons]
    rcases once : perform operation (run operations graph).state with ⟨state, events, result⟩
    rw [once] at ok
    cases ok
    simp only [run, Outcome.each, Outcome.done, Outcome.behind, List.append_nil]
  rw [run_append, last]

/-- What every operation keeps up, a history keeps up. -/
theorem run_invariant {P : Graph α σ → Prop}
    (step : ∀ operation graph, P graph → P (perform operation graph).state)
    (operations : List (Operation α σ)) {graph : Graph α σ} (start : P graph) :
    P (run operations graph).state := by
  exact (Outcome.composes_preserves P).each (fun operation _ => step operation) graph start

theorem Reachable.run {graph : Graph α σ} (reachable : graph.Reachable)
    (operations : List (Operation α σ)) : (run operations graph).state.Reachable := by
  rcases reachable with ⟨config, before, rfl⟩
  exact ⟨config, before ++ operations, by rw [run_append]; rfl⟩

/-- What holds of every empty graph and is kept up by every operation holds
of every graph. -/
theorem Reachable.invariant {P : Graph α σ → Prop} (start : ∀ config, P (ofConfig config))
    (step : ∀ operation graph, P graph → P (perform operation graph).state) {graph : Graph α σ}
    (reachable : graph.Reachable) : P graph := by
  rcases reachable with ⟨config, operations, rfl⟩
  exact run_invariant step operations (start config)

/-! ## Sealing -/

theorem close_sealed {graph : Graph α σ} (closed : graph.isSealed = true) :
    graph.close = .ok graph := by
  rw [close, if_pos closed]

/-- Closing an open graph fixes the order of evaluation, if there is one. -/
theorem close_open {graph closed : Graph α σ} (opened : graph.isSealed = false)
    (ok : graph.close = .ok closed) :
    ∃ order, VisitOrder.compute graph.registry = .ok order ∧
      closed = { graph with order, registry := graph.registry.close } := by
  rw [close, if_neg (by rw [opened]; exact Bool.false_ne_true)] at ok
  cases computed : VisitOrder.compute graph.registry with
  | error error =>
      rw [computed] at ok
      cases ok
  | ok order =>
      rw [computed] at ok
      cases ok
      exact ⟨order, rfl, rfl⟩

theorem isSealed_close {graph closed : Graph α σ} (ok : graph.close = .ok closed) :
    closed.isSealed = true := by
  cases before : graph.isSealed with
  | true =>
      rw [close_sealed before] at ok
      cases ok
      exact before
  | false =>
      rcases close_open before ok with ⟨order, _, rfl⟩
      rfl

theorem close_frame {graph closed : Graph α σ} (answer : graph.close = .ok closed) :
    ∃ order registry, closed = { graph with order, registry } := by
  cases before : graph.isSealed with
  | true =>
      rw [close_sealed before] at answer
      cases answer
      exact ⟨_, _, rfl⟩
  | false =>
      rcases close_open before answer with ⟨order, _, rfl⟩
      exact ⟨_, _, rfl⟩

theorem registry_close {graph closed : Graph α σ} (answer : graph.close = .ok closed) :
    closed.registry = graph.registry.close := by
  cases before : graph.isSealed with
  | true =>
      rw [close_sealed before] at answer
      cases answer
      rw [isSealed] at before
      rw [Registry.close, ← before]
  | false =>
      rcases close_open before answer with ⟨order, _, rfl⟩
      rfl

theorem service_close {graph closed : Graph α σ} (answer : graph.close = .ok closed) :
    closed.toService = graph.toService := by
  rcases close_frame answer with ⟨order, registry, rfl⟩
  rfl

/-- Wherever a detector's wiring leads, it changes no more than the registry
and the slots. -/
theorem install_frame (graph : Graph α σ) (typeName : String) (wiring : DetectorId → Wiring)
    (resident : Resident α σ) :
    ∃ registry slots, (graph.install typeName wiring resident).1 =
      { graph with registry, slots } := by
  rw [install]
  cases graph.registry.addDetector (shortName typeName) with
  | error error => exact ⟨_, _, rfl⟩
  | ok entered =>
      dsimp only
      cases ((wiring entered.1).run entered.1 entered.2 []).result with
      | error error => exact ⟨_, _, rfl⟩
      | ok => exact ⟨_, _, rfl⟩

theorem service_install (graph : Graph α σ) (typeName : String) (wiring : DetectorId → Wiring)
    (resident : Resident α σ) :
    (graph.install typeName wiring resident).1.toService = graph.toService := by
  rcases graph.install_frame typeName wiring resident with ⟨registry, slots, same⟩
  rw [same]

theorem install_sealed {graph : Graph α σ} (closed : graph.isSealed = true) (typeName : String)
    (wiring : DetectorId → Wiring) (resident : Resident α σ) :
    (graph.install typeName wiring resident).1 = graph := by
  rw [isSealed] at closed
  rw [install, Registry.addDetector, if_pos closed]

/-- Nothing has been evaluated: the topics and the counts are what they were,
and so are the slots, but for new ones that have nothing to deliver. -/
structure Unevaluated (before after : Graph α σ) : Prop where
  board : after.board = before.board
  config : after.config = before.config
  feedbackPasses : after.feedbackPasses = before.feedbackPasses
  passCount : after.passCount = before.passCount
  slots : ∃ joined, after.slots = before.slots ++ joined ∧ ∀ slot ∈ joined, slot.armed? = none

theorem unevaluated_frame (graph : Graph α σ) (service : Service α) (registry : Registry)
    (order : VisitOrder) :
    graph.Unevaluated { graph with toService := service, registry, order } where
  board := rfl
  config := rfl
  feedbackPasses := rfl
  passCount := rfl
  slots := ⟨[], (List.append_nil _).symm, fun _ member => (List.not_mem_nil member).elim⟩

theorem unevaluated_install (graph : Graph α σ) (typeName : String)
    (wiring : DetectorId → Wiring) {resident : Resident α σ}
    (unarmed : ∀ subscriptions, ({ resident, subscriptions } : Slot α σ).armed? = none) :
    graph.Unevaluated (graph.install typeName wiring resident).1 := by
  rw [install]
  cases graph.registry.addDetector (shortName typeName) with
  | error error => exact graph.unevaluated_frame _ _ _
  | ok entered =>
      dsimp only
      cases ((wiring entered.1).run entered.1 entered.2 []).result with
      | error error => exact graph.unevaluated_frame _ _ _
      | ok =>
          refine ⟨rfl, rfl, rfl, rfl, [_], rfl, ?_⟩
          intro slot member
          rw [List.mem_singleton.mp member]
          exact unarmed _

/-- Nothing is evaluated but in steps. -/
theorem perform_unevaluated {operation : Operation α σ} (quiet : operation ≠ .step)
    (graph : Graph α σ) : graph.Unevaluated (perform operation graph).state := by
  cases operation with
  | step => exact absurd rfl quiet
  | add detector => exact graph.unevaluated_install _ _ fun _ => rfl
  | addLag source => exact graph.unevaluated_install _ _ fun _ => rfl
  | resolve topic => exact graph.unevaluated_frame _ _ _
  | close =>
      rw [perform]
      split
      next closed answer =>
        rcases close_frame answer with ⟨order, registry, rfl⟩
        exact graph.unevaluated_frame _ _ _
      next => exact graph.unevaluated_frame _ _ _
  | push input =>
      rw [perform, Outcome.regardless, push]
      split <;> exact graph.unevaluated_frame _ _ _
  | submit input => exact graph.unevaluated_frame _ _ _
  | fire now => exact graph.unevaluated_frame _ _ _
  | schedule input delay => exact graph.unevaluated_frame _ _ _
  | scheduleEvery input period => exact graph.unevaluated_frame _ _ _
  | cancel handle => exact graph.unevaluated_frame _ _ _

theorem step_of_counted {operation : Operation α σ} {graph : Graph α σ}
    (counted : (perform operation graph).state.passCount ≠ graph.passCount) :
    operation = .step := by
  by_contra quiet
  exact counted (graph.perform_unevaluated quiet).passCount

/-- Other than by a step, a sealed graph only changes in its queue and its
timers. -/
theorem perform_sealed {graph : Graph α σ} (closed : graph.isSealed = true)
    (operation : Operation α σ) :
    operation = .step ∨
      ∃ service, (perform operation graph).state = { graph with toService := service } := by
  have same : ∀ {after : Graph α σ}, after = graph →
      ∃ service, after = { graph with toService := service } := by
    rintro _ rfl
    exact ⟨_, rfl⟩
  cases operation with
  | step => exact Or.inl rfl
  | add detector => exact Or.inr (same (install_sealed closed _ _ _))
  | addLag source => exact Or.inr (same (install_sealed closed _ _ _))
  | resolve topic =>
      have registry : (graph.registry.ensureTopic topic).1 = graph.registry :=
        Registry.ensureTopic_sealed closed topic
      refine Or.inr (same ?_)
      rw [perform, Outcome.done, resolve, registry]
  | close =>
      refine Or.inr (same ?_)
      rw [perform, close_sealed closed]
      rfl
  | push input =>
      refine Or.inr ?_
      rw [perform, Outcome.regardless, push]
      split
      · exact ⟨_, rfl⟩
      · exact same rfl
  | submit input => exact Or.inr ⟨_, rfl⟩
  | fire now => exact Or.inr ⟨_, rfl⟩
  | schedule input delay => exact Or.inr ⟨_, rfl⟩
  | scheduleEvery input period => exact Or.inr ⟨_, rfl⟩
  | cancel handle => exact Or.inr ⟨_, rfl⟩

/-- If the graph is sealed, at most the queue and the timetable change. -/
def Serves (before : Graph α σ) (_ : List (Event α)) (after : Graph α σ) : Prop :=
  before.isSealed = true → ∃ service, after = { before with toService := service }

theorem composes_serves : Outcome.Composes (Serves (α := α) (σ := σ)) where
  stay graph := fun _ => ⟨graph.toService, rfl⟩
  append := by
    intro first middle last _ _ before after sealing
    rcases before sealing with ⟨service, rfl⟩
    rcases after sealing with ⟨later, rfl⟩
    exact ⟨later, rfl⟩

/-- A history without steps changes a sealed graph in its queue and its timers
only. -/
theorem run_sealed {operations : List (Operation α σ)} (quiet : .step ∉ operations)
    {graph : Graph α σ} (closed : graph.isSealed = true) :
    ∃ service, (run operations graph).state = { graph with toService := service } := by
  have all : Outcome.Follows Serves graph (run operations graph) := by
    apply composes_serves.each
    intro operation member other sealing
    rcases perform_sealed sealing operation with rfl | served
    · exact absurd member quiet
    · exact served
  exact all closed

/-! ## Steps of a sealed graph -/

/-- The state in which a pass starts: its input, if there is one, has been
taken from the queue. -/
def poised (graph : Graph α σ) : Live α σ :=
  { graph.toLive with
    queue := { graph.queue with waiting := graph.queue.waiting.tail, evaluating := true } }

def nextPass (graph : Graph α σ) : Outcome α (Live α σ) Unit :=
  Live.pass graph.registry graph.order graph.queue.waiting.head? graph.poised

def rested (graph : Graph α σ) (live : Live α σ) : Graph α σ :=
  { graph with
    toLive := { live with queue := { live.queue with evaluating := false } }
    feedbackPasses := if graph.queue.waiting.isEmpty then graph.feedbackPasses + 1 else 0
    passCount := graph.passCount + 1 }

def givenUp (graph : Graph α σ) : Graph α σ :=
  { graph with slots := graph.slots.map Slot.disarm, feedbackPasses := 0 }

/-- A step of a sealed graph finds nothing to do, gives the lags up or runs
one pass. -/
theorem stepSealed_cases (graph : Graph α σ) :
    (graph.queue.waiting = [] ∧ graph.isArmed = false ∧ graph.stepSealed = .done graph false) ∨
      (graph.queue.waiting = [] ∧ graph.isArmed = true ∧
        graph.config.maxFeedbackPasses.toNat < graph.feedbackPasses + 1 ∧
        graph.stepSealed =
          .fail graph.givenUp (.feedbackLimit graph.config.maxFeedbackPasses.toNat)) ∨
      ((graph.queue.waiting = [] → graph.isArmed = true ∧
          graph.feedbackPasses + 1 ≤ graph.config.maxFeedbackPasses.toNat) ∧
        graph.stepSealed =
          ⟨graph.rested graph.nextPass.state,
            graph.queue.waiting.head?.toList.map .consumed ++ graph.nextPass.events,
            graph.nextPass.result.map fun _ => true⟩) := by
  rw [stepSealed, nextPass, poised, rested]
  cases waiting : graph.queue.waiting with
  | cons input rest =>
      refine Or.inr (Or.inr ⟨?_, rfl⟩)
      intro empty
      cases empty
  | nil =>
      have queue : { graph.queue with waiting := [], evaluating := true } =
          { graph.queue with evaluating := true } := by
        rw [← waiting]
      cases armed : graph.isArmed with
      | false => exact Or.inl ⟨rfl, rfl, rfl⟩
      | true =>
          by_cases exhausted : graph.feedbackPasses + 1 > graph.config.maxFeedbackPasses.toNat
          · refine Or.inr (Or.inl ⟨rfl, rfl, exhausted, ?_⟩)
            simp only [if_true, if_pos exhausted]
            rfl
          · refine Or.inr (Or.inr ⟨fun _ => ⟨rfl, Nat.le_of_not_lt exhausted⟩, ?_⟩)
            simp only [if_true, if_neg exhausted, List.tail_nil, queue]
            rfl

theorem stepSealed_idle {graph : Graph α σ} (empty : graph.queue.waiting = [])
    (idle : graph.isArmed = false) : graph.stepSealed = .done graph false := by
  rcases graph.stepSealed_cases with ⟨_, _, same⟩ | ⟨_, armed, _⟩ | ⟨allowed, _⟩
  · exact same
  · exact absurd (idle.symm.trans armed) Bool.false_ne_true
  · exact absurd (idle.symm.trans (allowed empty).1) Bool.false_ne_true

theorem stepSealed_givenUp {graph : Graph α σ} (empty : graph.queue.waiting = [])
    (armed : graph.isArmed = true)
    (exhausted : graph.config.maxFeedbackPasses.toNat < graph.feedbackPasses + 1) :
    graph.stepSealed =
      .fail graph.givenUp (.feedbackLimit graph.config.maxFeedbackPasses.toNat) := by
  rcases graph.stepSealed_cases with ⟨_, idle, _⟩ | ⟨_, _, _, same⟩ | ⟨allowed, _⟩
  · exact absurd (idle.symm.trans armed) Bool.false_ne_true
  · exact same
  · exact absurd (allowed empty).2 (Nat.not_le_of_lt exhausted)

theorem stepSealed_passes {graph : Graph α σ}
    (allowed : graph.queue.waiting = [] → graph.isArmed = true ∧
      graph.feedbackPasses + 1 ≤ graph.config.maxFeedbackPasses.toNat) :
    graph.stepSealed =
      ⟨graph.rested graph.nextPass.state,
        graph.queue.waiting.head?.toList.map .consumed ++ graph.nextPass.events,
        graph.nextPass.result.map fun _ => true⟩ := by
  rcases graph.stepSealed_cases with ⟨empty, idle, _⟩ | ⟨empty, _, exhausted, _⟩ | ⟨_, same⟩
  · exact absurd (idle.symm.trans (allowed empty).1) Bool.false_ne_true
  · exact absurd (allowed empty).2 (Nat.not_le_of_lt exhausted)
  · exact same

/-- A step fails to close the graph, finds nothing to do, gives the lags up or
runs one pass. -/
theorem step_cases (graph : Graph α σ) :
    (∃ cause, graph.close = .error cause ∧ graph.step = .fail graph (.wiring cause)) ∨
      ∃ closed, graph.close = .ok closed ∧
        ((closed.queue.waiting = [] ∧ closed.isArmed = false ∧ graph.step = .done closed false) ∨
          (closed.queue.waiting = [] ∧ closed.isArmed = true ∧
            closed.config.maxFeedbackPasses.toNat < closed.feedbackPasses + 1 ∧
            graph.step =
              .fail closed.givenUp (.feedbackLimit closed.config.maxFeedbackPasses.toNat)) ∨
          ((closed.queue.waiting = [] → closed.isArmed = true ∧
              closed.feedbackPasses + 1 ≤ closed.config.maxFeedbackPasses.toNat) ∧
            graph.step =
              ⟨closed.rested closed.nextPass.state,
                closed.queue.waiting.head?.toList.map .consumed ++ closed.nextPass.events,
                closed.nextPass.result.map fun _ => true⟩)) := by
  rw [step]
  cases answer : graph.close with
  | error cause => exact Or.inl ⟨cause, rfl, rfl⟩
  | ok closed => exact Or.inr ⟨closed, rfl, closed.stepSealed_cases⟩

theorem registry_step (graph : Graph α σ) :
    graph.step.state.registry = graph.registry ∨
      graph.step.state.registry = graph.registry.close := by
  rcases graph.step_cases with
    ⟨cause, _, same⟩ | ⟨closed, answer, ⟨_, _, same⟩ | ⟨_, _, _, same⟩ | ⟨_, same⟩⟩
  · rw [same]
    exact Or.inl rfl
  all_goals
    have registry := registry_close answer
    rw [same]
    exact Or.inr registry

/-- The registry after an operation is what it was, or else what came of
adding a detector, of asking for a topic or of closing. -/
theorem registry_perform {P : Registry → Prop} {graph : Graph α σ} (start : P graph.registry)
    (installs : ∀ typeName wiring resident,
      P (graph.install typeName wiring resident).1.registry)
    (ensures : ∀ topic, P (graph.registry.ensureTopic topic).1) (closes : P graph.registry.close)
    (operation : Operation α σ) : P (perform operation graph).state.registry := by
  cases operation with
  | add detector => exact installs _ _ _
  | addLag source => exact installs _ _ _
  | resolve topic => exact ensures topic
  | close =>
      rw [perform]
      split
      next closed answer =>
        have registry := registry_close answer
        rw [Outcome.done, registry]
        exact closes
      next => exact start
  | step =>
      rw [perform, Outcome.regardless]
      rcases graph.registry_step with same | same
      · rw [same]
        exact start
      · rw [same]
        exact closes
  | push input =>
      rw [perform, Outcome.regardless, push]
      split <;> exact start
  | submit input => exact start
  | fire now => exact start
  | schedule input delay => exact start
  | scheduleEvery input period => exact start
  | cancel handle => exact start

/-- A step that fails has not closed the graph, has given the lags up or has
run a pass that failed. -/
theorem step_error {graph : Graph α σ} {error : GraphError}
    (failed : graph.step.result = .error error) :
    (∃ cause, error = .wiring cause ∧ graph.close = .error cause ∧
        graph.step = .fail graph error) ∨
      ∃ closed, graph.close = .ok closed ∧
        ((closed.queue.waiting = [] ∧ closed.isArmed = true ∧
            closed.config.maxFeedbackPasses.toNat < closed.feedbackPasses + 1 ∧
            error = .feedbackLimit closed.config.maxFeedbackPasses.toNat ∧
            graph.step = .fail closed.givenUp error) ∨
          (closed.nextPass.result = .error error ∧
            graph.step =
              ⟨closed.rested closed.nextPass.state,
                closed.queue.waiting.head?.toList.map .consumed ++ closed.nextPass.events,
                .error error⟩)) := by
  rcases graph.step_cases with
    ⟨cause, answer, same⟩ |
      ⟨closed, answer, ⟨_, _, same⟩ | ⟨empty, armed, exhausted, same⟩ | ⟨_, same⟩⟩
  · rw [same] at failed ⊢
    cases failed
    exact Or.inl ⟨cause, rfl, answer, rfl⟩
  · rw [same] at failed
    cases failed
  · rw [same] at failed ⊢
    cases failed
    exact Or.inr ⟨closed, answer, Or.inl ⟨empty, armed, exhausted, rfl, rfl⟩⟩
  · rw [same] at failed ⊢
    cases ended : closed.nextPass.result with
    | ok =>
        rw [ended] at failed
        cases failed
    | error other =>
        rw [ended] at failed
        cases failed
        exact Or.inr ⟨closed, answer, Or.inr ⟨ended, rfl⟩⟩

/-- A step that counts a pass has closed the graph if need be and run one. -/
theorem step_passed {graph : Graph α σ} (counted : graph.step.state.passCount ≠ graph.passCount) :
    ∃ closed, graph.close = .ok closed ∧
      graph.step =
        ⟨closed.rested closed.nextPass.state,
          closed.queue.waiting.head?.toList.map .consumed ++ closed.nextPass.events,
          closed.nextPass.result.map fun _ => true⟩ := by
  rcases graph.step_cases with
    ⟨cause, _, same⟩ | ⟨closed, answer, ⟨_, _, same⟩ | ⟨_, _, _, same⟩ | ⟨_, same⟩⟩
  · rw [same] at counted
    exact absurd rfl counted
  · rcases close_frame answer with ⟨order, registry, rfl⟩
    rw [same] at counted
    exact absurd rfl counted
  · rcases close_frame answer with ⟨order, registry, rfl⟩
    rw [same] at counted
    exact absurd rfl counted
  · exact ⟨closed, answer, same⟩

/-- A step that counts none has nothing to log.  At most it has closed the
graph and given up its lags. -/
theorem step_still {graph : Graph α σ} (still : graph.step.state.passCount = graph.passCount) :
    graph.step.events = [] ∧ ∃ order registry,
      graph.step.state = { graph with order, registry } ∨
        graph.step.state = ({ graph with order, registry } : Graph α σ).givenUp := by
  rcases graph.step_cases with
    ⟨cause, _, same⟩ | ⟨closed, answer, ⟨_, _, same⟩ | ⟨_, _, _, same⟩ | ⟨_, same⟩⟩
  · rw [same]
    exact ⟨rfl, graph.order, graph.registry, Or.inl rfl⟩
  · rcases close_frame answer with ⟨order, registry, rfl⟩
    rw [same]
    exact ⟨rfl, order, registry, Or.inl rfl⟩
  · rcases close_frame answer with ⟨order, registry, rfl⟩
    rw [same]
    exact ⟨rfl, order, registry, Or.inr rfl⟩
  · rcases close_frame answer with ⟨order, registry, rfl⟩
    rw [same] at still
    exact absurd still (Nat.succ_ne_self graph.passCount)

theorem board_perform {operation : Operation α σ} {graph : Graph α σ}
    (still : (perform operation graph).state.passCount = graph.passCount) :
    (perform operation graph).state.board = graph.board := by
  by_cases stepping : operation = .step
  · subst stepping
    have state : (perform .step graph).state = graph.step.state := rfl
    rw [state] at still ⊢
    rcases (step_still still).2 with ⟨order, registry, same | same⟩
    · rw [same]
    · rw [same]
      rfl
  · exact (graph.perform_unevaluated stepping).board

/-- A step that reports a pass has closed the graph if need be and run a pass
that succeeded. -/
theorem step_true {graph : Graph α σ} (ran : graph.step.result = .ok true) :
    ∃ closed, graph.close = .ok closed ∧ closed.nextPass.result = .ok () ∧
      graph.step.state = closed.rested closed.nextPass.state ∧
      graph.step.events =
        closed.queue.waiting.head?.toList.map .consumed ++ closed.nextPass.events := by
  rcases graph.step_cases with
    ⟨cause, _, same⟩ | ⟨closed, answer, ⟨_, _, same⟩ | ⟨_, _, _, same⟩ | ⟨_, same⟩⟩
  · rw [same] at ran
    cases ran
  · rw [same] at ran
    cases ran
  · rw [same] at ran
    cases ran
  · rw [same] at ran ⊢
    cases ended : closed.nextPass.result with
    | error error =>
        rw [ended] at ran
        cases ran
    | ok => exact ⟨closed, answer, ended, rfl, rfl⟩

theorem counted_of_true {graph : Graph α σ} (ran : graph.step.result = .ok true) :
    graph.step.state.passCount ≠ graph.passCount := by
  rcases step_true ran with ⟨closed, answer, _, state, _⟩
  rcases close_frame answer with ⟨order, registry, rfl⟩
  rw [state]
  exact Nat.succ_ne_self graph.passCount

theorem isSealed_step {graph : Graph α σ} (ran : graph.step.result = .ok true) :
    graph.step.state.isSealed = true := by
  rcases step_true ran with ⟨closed, answer, _, state, _⟩
  have before : closed.isSealed = true := isSealed_close answer
  rw [state]
  exact before

end Graph
end ReactiveGraph
