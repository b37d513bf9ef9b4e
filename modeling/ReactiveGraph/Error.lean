import ReactiveGraph.Text.Decimal

namespace ReactiveGraph

/-!
# Errors

A wiring error points at a defect of the graph's static definition.  A graph
error is what feeding or evaluating a graph can meet, wiring errors among
them, since the first evaluation closes the wiring.  An error records its
cause; its wording is given once, by `message`.
-/

inductive Registrand where
  | topic (name : String)
  | detector (name : String)
  | edges (owner : String)
  deriving DecidableEq

namespace Registrand

def describe : Registrand → String
  | topic name => s!"topic {name}"
  | detector name => s!"detector {name}"
  | edges owner => s!"edges of detector {owner}"

end Registrand

/-- A defect in the declarations that make up a graph, or a registration after
the wiring was closed.  A cycle is reported by the names of all that could not
be ordered because of it. -/
inductive WiringError where
  | selfSubscription (detector topic : String)
  | duplicateSubscription (detector topic : String)
  | duplicatePublisher (detector topic : String)
  | cycle (vertices : List String)
  | sealed (refused : Registrand)
  deriving DecidableEq

namespace WiringError

def message : WiringError → String
  | selfSubscription detector topic =>
      s!"detector {detector} both subscribes to and publishes topic {topic}"
  | duplicateSubscription detector topic =>
      s!"detector {detector} subscribes to topic {topic} more than once"
  | duplicatePublisher detector topic =>
      s!"detector {detector} declares publishing of topic {topic} more than once"
  | cycle vertices =>
      "cycle not broken by a lag; unsortable vertices: " ++ ", ".intercalate vertices
  | sealed refused => "graph is sealed; cannot register " ++ refused.describe

end WiringError

/-- What can go wrong while a graph is configured, fed or evaluated.  A
document that cannot be read is refused for a reason that the JSON library
gives. -/
inductive GraphError where
  | wiring (cause : WiringError)
  | unknownTopic (topic : String)
  | undeclaredPublish (detector topic : String)
  | inputQueueFull (capacity : Nat)
  | feedbackLimit (passes : Nat)
  | serialization (reason : String)
  deriving DecidableEq

namespace GraphError

def message : GraphError → String
  | wiring cause => cause.message
  | unknownTopic topic => s!"no topic registered for {topic}"
  | undeclaredPublish detector topic =>
      s!"detector {detector} published undeclared topic {topic}"
  | inputQueueFull capacity =>
      "input queue is full (capacity " ++ Text.decimal capacity ++ ")"
  | feedbackLimit passes =>
      "lag feedback did not settle within " ++ Text.decimal passes ++ " follow-up passes"
  | serialization reason => "serialization error: " ++ reason

end GraphError
end ReactiveGraph
