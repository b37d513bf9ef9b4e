import ReactiveGraph.Json.Parser
import ReactiveGraph.Json.Printer
import ReactiveGraph.Topology

namespace ReactiveGraph
namespace Topology

/-!
# Topologies as JSON

Every field is named, in a fixed order, and every field is required when a
document is read.
-/

namespace Role

def tag : Role → String
  | inputTopic => "input_topic"
  | internalTopic => "internal_topic"
  | outputTopic => "output_topic"
  | detector => "detector"

def ofTag? (tag : String) : Option Role :=
  [inputTopic, internalTopic, outputTopic, detector].find? fun role => role.tag = tag

def ofJson? : Json → Option Role
  | .string letters => (Json.string letters).text?.bind ofTag?
  | .object [(key, .null)] => (Json.string key).text?.bind ofTag?
  | _ => none

end Role

namespace Node

def toJson (node : Node) : Json :=
  .record [("rank", .ofNat node.rank), ("name", .ofText node.name), ("role", .ofText node.role.tag)]

def ofJson? (json : Json) : Option Node := do
  match ← json.fields? ["rank", "name", "role"] with
  | [some rank, some name, some role] =>
      return { rank := ← rank.nat?, name := ← name.text?, role := ← Role.ofJson? role }
  | _ => none

end Node

namespace Arrow

def toJson (arrow : Arrow) : Json :=
  .record [("from", .ofNat arrow.source), ("to", .ofNat arrow.target),
    ("delayed", .bool arrow.delayed)]

def ofJson? (json : Json) : Option Arrow := do
  match ← json.fields? ["from", "to", "delayed"] with
  | [some source, some target, some delayed] =>
      return { source := ← source.nat?, target := ← target.nat?, delayed := ← delayed.bool? }
  | _ => none

end Arrow

def toJson (topology : Topology) : Json :=
  .record [("name", .ofText topology.name), ("ordered", .bool topology.ordered),
    ("vertices", .array (topology.nodes.map Node.toJson)),
    ("edges", .array (topology.arrows.map Arrow.toJson))]

def ofJson? (json : Json) : Option Topology := do
  match ← json.fields? ["name", "ordered", "vertices", "edges"] with
  | [some name, some ordered, some nodes, some arrows] =>
      return {
        name := ← name.text?
        ordered := ← ordered.bool?
        nodes := ← nodes.list? Node.ofJson?
        arrows := ← arrows.list? Arrow.ofJson? }
  | _ => none

def parse (reason : String → String) (text : String) : Except GraphError Topology :=
  Json.decode reason ofJson? text

def render (topology : Topology) : String :=
  String.ofList (topology.toJson.pretty 0)

end Topology
end ReactiveGraph
