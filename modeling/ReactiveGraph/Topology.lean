import ReactiveGraph.Graph.Basic

namespace ReactiveGraph

/-!
# Topology

A topology is a picture of a graph for tools: one node for every vertex, in
the order of evaluation, and one arrow for every edge, delayed ones
included.  A graph that is not yet sealed is ordered for the picture only.
If its edges form a cycle, the nodes come in the order of registration.
-/

namespace Topology

/-- What a vertex is to a tool.  A topic is an input if nobody publishes it
within a pass, an output if it is published so but not subscribed to, and
internal if both. -/
inductive Role where
  | inputTopic
  | internalTopic
  | outputTopic
  | detector
  deriving DecidableEq

structure Node where
  rank : Nat
  name : String
  role : Role
  deriving DecidableEq

structure Arrow where
  source : Nat
  target : Nat
  delayed : Bool
  deriving DecidableEq

end Topology

structure Topology where
  name : String
  ordered : Bool
  nodes : List Topology.Node
  arrows : List Topology.Arrow
  deriving DecidableEq

namespace Topology

def find? (topology : Topology) (name : String) : Option Node :=
  topology.nodes.find? fun node => node.name = name

def roleOfTopic (topic : TopicRecord) : Role :=
  if !topic.isFedNow then .inputTopic
  else if topic.subscribers.isEmpty then .outputTopic
  else .internalTopic

def roleOf (registry : Registry) : Vertex → Role
  | .topic payload => (registry.topic? payload).elim .inputTopic roleOfTopic
  | .detector _ => .detector

/-- The edges that leave a vertex, each with a mark if it is delayed.  Those
of a topic lead to its subscribers, those of a detector to the topics it
publishes. -/
def outgoing (registry : Registry) : Vertex → List (Vertex × Bool)
  | .topic payload =>
      (registry.subscribers payload).map fun subscriber => (.detector subscriber, false)
  | .detector detector =>
      registry.topics.flatMap fun topic =>
        (topic.publishers.filter fun publisher => publisher.1 = detector).map
          fun publisher => (.topic topic.payload, publisher.2 = .delayed)

def nodesOf (registry : Registry) (ranked : List Vertex) : List Node :=
  ranked.zipIdx.map fun entry =>
    { rank := entry.2, name := registry.nameOf entry.1, role := roleOf registry entry.1 }

def arrowsOf (registry : Registry) (ranked : List Vertex) : List Arrow :=
  ranked.zipIdx.flatMap fun entry =>
    (outgoing registry entry.1).map fun edge =>
      { source := entry.2, target := ranked.idxOf edge.1, delayed := edge.2 }

end Topology

namespace Graph

variable {α σ : Type}

/-- The order of evaluation, found for the occasion if the graph is not
sealed.  There is none if the edges form a cycle. -/
def currentOrder? (graph : Graph α σ) : Option VisitOrder :=
  if graph.isSealed then some graph.order else (VisitOrder.compute graph.registry).toOption

def topology (graph : Graph α σ) : Topology :=
  let ranked := graph.currentOrder?.elim graph.registry.vertices VisitOrder.walk
  { name := graph.config.name
    ordered := graph.currentOrder?.isSome
    nodes := Topology.nodesOf graph.registry ranked
    arrows := Topology.arrowsOf graph.registry ranked }

end Graph
end ReactiveGraph
