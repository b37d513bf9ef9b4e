import ReactiveGraph.Registry
import ReactiveGraph.Sorting

namespace ReactiveGraph

/-!
# The evaluation order

Topics and detectors are the vertices of a dependency graph.  An edge leads
from an immediate publisher to its topic and from a topic to each of its
subscribers; delayed publishers add none.  The evaluation order places every
vertex behind all it depends on.  Among the vertices that could come next,
the one registered first does, so that detectors which do not depend on each
other keep the order in which they were constructed.
-/

inductive Vertex where
  | topic (payload : Payload)
  | detector (id : DetectorId)
  deriving DecidableEq

/-- The position of a vertex in the order of registration. -/
abbrev VertexId := Nat

namespace Registry

def nameOf (registry : Registry) : Vertex → String
  | .topic payload => payload.name
  | .detector id => registry.detectorName id

/-- All vertices with their sequence numbers, topics first. -/
def numberedVertices (registry : Registry) : List (Nat × Vertex) :=
  registry.topics.map (fun entry => (entry.sequence, .topic entry.payload)) ++
    registry.detectors.zipIdx.map fun entry => (entry.1.sequence, .detector entry.2)

def vertices (registry : Registry) : List Vertex :=
  (Sorting.sort (fun a b => a.1 ≤ b.1) registry.numberedVertices).map Prod.snd

/-- The edges of one topic: its immediate publishers', then its
subscribers'. -/
def edgesOf (entry : TopicRecord) : List (Vertex × Vertex) :=
  (entry.publishers.filter fun publisher => publisher.2 = .immediate).map
      (fun publisher => (.detector publisher.1, .topic entry.payload)) ++
    entry.subscribers.map fun subscriber => (.topic entry.payload, .detector subscriber)

def edges (registry : Registry) : List (Vertex × Vertex) :=
  registry.topics.flatMap edgesOf

end Registry

/-- The order in which a pass visits the vertices of a graph.  They are listed
in the order of registration in `vertices`, and in that of evaluation in
`walk`. -/
structure VisitOrder where
  vertices : List Vertex := []
  edges : List (Vertex × Vertex) := []
  walk : List Vertex := []
  deriving DecidableEq

namespace VisitOrder

def size (order : VisitOrder) : Nat :=
  order.walk.length

def id? (order : VisitOrder) (vertex : Vertex) : Option VertexId :=
  order.vertices.idxOf? vertex

def vertex? (order : VisitOrder) (id : VertexId) : Option Vertex :=
  order.vertices[id]?

/-- The position in the order of evaluation of the vertex with the given
identifier. -/
def rank? (order : VisitOrder) (id : VertexId) : Option Nat :=
  (order.vertex? id).bind fun vertex => order.walk.idxOf? vertex

def ids (order : VisitOrder) : List VertexId :=
  order.walk.filterMap order.id?

def detectors (order : VisitOrder) : List DetectorId :=
  order.walk.filterMap fun
    | .detector id => some id
    | .topic _ => none

/-- The identifiers of the vertices that have to come before the given one,
in the order of the edges. -/
def dependencies (order : VisitOrder) (vertex : Vertex) : List VertexId :=
  (((order.edges.filter fun edge => edge.2 = vertex).map Prod.fst).eraseDups).filterMap order.id?

/-- The identifiers of the vertices that have to come after the given one,
in the order of the edges. -/
def dependents (order : VisitOrder) (vertex : Vertex) : List VertexId :=
  (((order.edges.filter fun edge => edge.1 = vertex).map Prod.snd).eraseDups).filterMap order.id?

/-- How far the sort has come: how many vertices still have to come before
each one, and those that nothing holds back any more, lowest identifier first.
-/
structure Sorter where
  degrees : List Nat
  ready : List VertexId
  deriving DecidableEq

namespace Sorter

/-- One vertex less has to come before this one, which becomes ready with the
last of them. -/
def release (sorter : Sorter) (id : VertexId) : Sorter :=
  let degrees := sorter.degrees.modify id (· - 1)
  if degrees[id]? = some 0 then
    { degrees, ready := Sorting.insert (fun a b => a ≤ b) id sorter.ready }
  else { sorter with degrees }

end Sorter

/-- To begin with, the vertices without dependencies are ready. -/
def sorter (order : VisitOrder) : Sorter :=
  let degrees := order.vertices.map fun vertex => (order.dependencies vertex).length
  { degrees, ready := (List.range degrees.length).filter fun id => degrees[id]? = some 0 }

/-- Take up to `count` vertices, each time the ready one with the lowest
identifier, which releases its dependents. -/
def sort (order : VisitOrder) : (count : Nat) → Sorter → List VertexId
  | 0, _ => []
  | count + 1, sorter =>
      match sorter.ready with
      | [] => []
      | id :: ready =>
          let dependents := (order.vertex? id).elim [] order.dependents
          id :: order.sort count (dependents.foldl Sorter.release { sorter with ready })

/-- The evaluation order of the registered vertices.  If some of them cannot
be sorted, there is a cycle, and these are reported. -/
def compute (registry : Registry) : Except WiringError VisitOrder :=
  let order : VisitOrder := { vertices := registry.vertices, edges := registry.edges }
  let ids := order.sort order.vertices.length order.sorter
  let walk := ids.filterMap order.vertex?
  if ids.length < order.vertices.length then
    let unsorted := order.vertices.filter fun vertex => !walk.contains vertex
    .error (.cycle (unsorted.map registry.nameOf))
  else .ok { order with walk }

end VisitOrder
end ReactiveGraph
