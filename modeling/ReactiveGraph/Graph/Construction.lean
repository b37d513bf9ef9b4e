import ReactiveGraph.Graph.Basic

namespace ReactiveGraph
namespace Graph

/-!
# Building a graph

Detectors join one by one and declare their edges as they do.  A detector
whose wiring fails leaves the graph again, together with its edges; topics
that it was the first to mention stay behind without edges.
-/

variable {α σ : Type}

/-- Give a detector a place in the graph, after its wiring. -/
def install (graph : Graph α σ) (typeName : String) (wiring : DetectorId → Wiring)
    (resident : Resident α σ) : Graph α σ × Except WiringError DetectorId :=
  match graph.registry.addDetector (shortName typeName) with
  | .error error => (graph, .error error)
  | .ok (id, registry) =>
      let report := (wiring id).run id registry []
      match report.result with
      | .error error => ({ graph with registry := report.registry.takeBack id }, .error error)
      | .ok () =>
          ({ graph with
              registry := report.registry
              slots := graph.slots ++ [{ resident, subscriptions := report.subscriptions }] },
            .ok id)

def add (graph : Graph α σ) (detector : Detector α σ) :
    Graph α σ × Except WiringError DetectorId :=
  graph.install detector.typeName detector.wiring (.custom detector.behaviour detector.state)

def addLag (graph : Graph α σ) (source : Payload) :
    Graph α σ × Except WiringError DetectorId :=
  graph.install source.lagName (fun _ => Lag.wiring source) (.lag { source })

def resolve (graph : Graph α σ) (topic : Payload) :
    Graph α σ × Except WiringError TopicId :=
  let answer := graph.registry.ensureTopic topic
  ({ graph with registry := answer.1 }, answer.2)

/-- Close the wiring and fix the order of evaluation.  A sealed graph stays
as it is. -/
def close (graph : Graph α σ) : Except WiringError (Graph α σ) :=
  if graph.isSealed then .ok graph
  else
    match VisitOrder.compute graph.registry with
    | .error error => .error error
    | .ok order => .ok { graph with order, registry := graph.registry.close }

end Graph
end ReactiveGraph
