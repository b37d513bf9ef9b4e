import ReactiveGraph.Board
import ReactiveGraph.Config
import ReactiveGraph.Detector
import ReactiveGraph.Order

namespace ReactiveGraph

/-!
# Graphs

A graph owns its topics and detectors and the queue of inputs.  Detectors are
added one by one; sealing the graph closes the wiring and fixes the order of
evaluation.

To an application a timeout service is an object of its own, which feeds the
queue of a graph from outside.  Here one timetable is built into every graph,
beside its queue; a graph without timeouts has it empty.  A graph with several
services is not described.
-/

/-- The part of a graph that passes change: what surrounds its detectors, the
detectors by their identifiers, and the values of the topics. -/
structure Live (α σ : Type) extends Surroundings α where
  slots : List (Slot α σ) := []
  board : Board α := {}

/-- A reactive graph with topic values of type `α` and detectors with states
of type `σ`.  Its order means something once it is sealed.  `feedbackPasses`
counts the passes in a row that were driven by lags alone, and `passCount` all
passes. -/
structure Graph (α σ : Type) extends Live α σ where
  config : Config := {}
  registry : Registry := {}
  order : VisitOrder := {}
  feedbackPasses : Nat := 0
  passCount : Nat := 0

namespace Live

variable {α σ : Type}

def isArmed (live : Live α σ) : Bool :=
  live.slots.any fun slot => slot.armed?.isSome

end Live

namespace Graph

variable {α σ : Type}

def ofConfig (config : Config) : Graph α σ :=
  { config, queue := { capacity := config.maxPendingInputs.map UInt64.toNat } }

def isSealed (graph : Graph α σ) : Bool :=
  graph.registry.sealed

def order? (graph : Graph α σ) : Option VisitOrder :=
  if graph.isSealed then some graph.order else none

/-- Whether there is anything to run a pass for: a waiting input, or a lag
with a value to deliver. -/
def hasPending (graph : Graph α σ) : Bool :=
  !graph.queue.isEmpty || graph.isArmed

def detectorState? (graph : Graph α σ) (id : DetectorId) : Option σ :=
  (graph.slots[id]?).bind Slot.state?

/-- The state of the first of the application's detectors, in the order of
construction, that satisfies the test. -/
def firstState? (graph : Graph α σ) (test : σ → Bool) : Option σ :=
  graph.slots.findSome? fun slot => slot.state?.filter test

def firstLag? (graph : Graph α σ) (source : Payload) : Option (Lag α) :=
  graph.slots.findSome? fun slot => slot.lag?.filter fun lag => lag.source = source

def isLag (graph : Graph α σ) (id : DetectorId) : Bool :=
  ((graph.slots[id]?).bind Slot.lag?).isSome

end Graph
end ReactiveGraph
