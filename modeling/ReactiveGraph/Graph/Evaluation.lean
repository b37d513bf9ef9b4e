import ReactiveGraph.Graph.Construction
import ReactiveGraph.Graph.Pass

namespace ReactiveGraph
namespace Graph

/-!
# Feeding and evaluating a graph

One step runs at most one pass: for the input at the front of the queue or,
if none waits, for the lags that are armed.  Passes that only lags drive are
counted, and after too many in a row the lags are given up.  Settling a
graph means stepping until nothing is pending.
-/

variable {α σ : Type}

/-- Put an input into the queue, whether or not it has a topic. -/
def submit (graph : Graph α σ) (input : Input α) : Outcome α (Graph α σ) Unit :=
  (graph.toService.submit input).within fun service => { graph with toService := service }

/-- Put an input into the queue, provided it has a topic. -/
def push (graph : Graph α σ) (input : Input α) : Outcome α (Graph α σ) Unit :=
  if graph.registry.hasTopic input.topic then graph.submit input
  else .fail graph (.unknownTopic input.topic.name)

def markEvaluating (graph : Graph α σ) (evaluating : Bool) : Graph α σ :=
  { graph with queue := { graph.queue with evaluating } }

def pass (graph : Graph α σ) (input : Option (Input α)) : Outcome α (Graph α σ) Bool :=
  let started := { graph.markEvaluating true with passCount := graph.passCount + 1 }
  let outcome := Live.pass started.registry started.order input started.toLive
  let ended := { started with toLive := outcome.state }
  ⟨ended.markEvaluating false, outcome.events, outcome.result.map fun _ => true⟩

/-- Run a pass of a sealed graph for the next input or, if there is none, for
the lags that are armed.  The result tells whether there was anything to
do. -/
def stepSealed (graph : Graph α σ) : Outcome α (Graph α σ) Bool :=
  match graph.queue.waiting with
  | input :: rest =>
      let taken := { graph with queue := { graph.queue with waiting := rest }, feedbackPasses := 0 }
      (taken.pass (some input)).behind [.consumed input]
  | [] =>
      if graph.isArmed then
        let limit := graph.config.maxFeedbackPasses.toNat
        if graph.feedbackPasses + 1 > limit then
          .fail { graph with slots := graph.slots.map Slot.disarm, feedbackPasses := 0 }
            (.feedbackLimit limit)
        else { graph with feedbackPasses := graph.feedbackPasses + 1 }.pass none
      else .done graph false

/-- Seal the graph if need be and run at most one pass. -/
def step (graph : Graph α σ) : Outcome α (Graph α σ) Bool :=
  match graph.close with
  | .error error => .fail graph (.wiring error)
  | .ok closed => closed.stepSealed

/-- Step until nothing is pending and count the passes, or give up once
`fuel` steps were not enough. -/
def settle : (fuel : Nat) → Graph α σ → Option (Outcome α (Graph α σ) Nat)
  | 0, _ => none
  | fuel + 1, graph =>
      let step := graph.step
      match step.result with
      | .error error => some ⟨step.state, step.events, .error error⟩
      | .ok false => some ⟨step.state, step.events, .ok 0⟩
      | .ok true =>
          (settle fuel step.state).map fun rest =>
            { rest with
              events := step.events ++ rest.events
              result := rest.result.map (· + 1) }

def settleAfter {β : Type} (fuel : Nat) (first : Outcome α (Graph α σ) β) :
    Option (Outcome α (Graph α σ) Nat) :=
  match first.result with
  | .error error => some ⟨first.state, first.events, .error error⟩
  | .ok _ => (settle fuel first.state).map (·.behind first.events)

def feed (fuel : Nat) (graph : Graph α σ) (input : Input α) :
    Option (Outcome α (Graph α σ) Nat) :=
  settleAfter fuel (graph.push input)

def fire (graph : Graph α σ) (now : Time) : Outcome α (Graph α σ) Nat :=
  (graph.toService.fire now).within fun service => { graph with toService := service }

def tick (fuel : Nat) (graph : Graph α σ) (now : Time) : Option (Outcome α (Graph α σ) Nat) :=
  settleAfter fuel (graph.fire now)

def schedule (graph : Graph α σ) (input : Input α) (delay : Time) : Handle × Graph α σ :=
  let entered := graph.timers.schedule input delay
  (entered.1, { graph with timers := entered.2 })

def scheduleEvery (graph : Graph α σ) (input : Input α) (period : Time) : Handle × Graph α σ :=
  let entered := graph.timers.scheduleEvery input period
  (entered.1, { graph with timers := entered.2 })

def cancel (graph : Graph α σ) (handle : Handle) : Bool × Graph α σ :=
  let answer := graph.timers.cancel handle
  (answer.1, { graph with timers := answer.2 })

end Graph
end ReactiveGraph
