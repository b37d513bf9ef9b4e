import ReactiveGraph.Text.Alphanumeric
import ReactiveGraph.Text.Decimal
import ReactiveGraph.Topology

namespace ReactiveGraph
namespace Topology

/-!
# Topologies as Graphviz text

Every node has a statement with its rank and name, in a style that tells its
role, followed by the statements of the arrows that leave it.  Delayed arrows
are dotted and do not constrain the layout.
-/

/-- The identifier of a node: the letters, digits and underscores of its
name. -/
def nodeId (name : String) : String :=
  String.ofList (name.toList.filter fun c => Text.isAlphanumeric c || c = '_')

def nodeStyle : Role → String
  | .inputTopic => "style=filled, shape=box, color=lightblue"
  | .internalTopic => "style=filled, shape=box, color=red"
  | .outputTopic => "style=filled, shape=box, color=limegreen"
  | .detector => "color=blue"

def nodeStatement (node : Node) : String :=
  "    \"" ++ nodeId node.name ++ "\" [label=\"" ++ Text.decimal node.rank ++ ":" ++ node.name ++
    "\", " ++ nodeStyle node.role ++ "];\n"

def arrowStyle (delayed : Bool) : String :=
  if delayed then " [style=dotted, color=red, constraint=false]" else ""

def arrowStatement (source target : Node) (delayed : Bool) : String :=
  "        \"" ++ nodeId source.name ++ "\" -> \"" ++ nodeId target.name ++ "\"" ++
    arrowStyle delayed ++ ";\n"

/-- The statements of the arrows that leave a node for another one of the
picture. -/
def arrowStatements (topology : Topology) (source : Node) : List String :=
  (topology.arrows.filter fun arrow => arrow.source = source.rank).filterMap fun arrow =>
    (topology.nodes.find? fun node => node.rank = arrow.target).map fun target =>
      arrowStatement source target arrow.delayed

def dotHeader : String :=
  "digraph GraphAnalyzer \x7b\n    rankdir = \"LR\";\n    node[fontname=Helvetica];\n" ++
    "    size=\"12,5\";\n\n"

def statements (topology : Topology) : List String :=
  topology.nodes.flatMap fun node => nodeStatement node :: topology.arrowStatements node

def dot (topology : Topology) : String :=
  dotHeader ++ String.join topology.statements ++ "\x7d\n"

end Topology
end ReactiveGraph
