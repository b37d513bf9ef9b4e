import Mathlib.Data.List.Perm.Subperm
import ReactiveGraph.Proofs.Topology
import ReactiveGraph.Topology.Dot

namespace ReactiveGraph

/-!
# Reading a drawing

The text of a topology has one line for each node and one for each arrow.
Whoever reads it knows the nodes by their identifiers, as Graphviz does, and
not by their ranks, which are part of the labels only.  An identifier is what
is left of a name without its punctuation, and a name is what is left of a type
without its modules.  So the topology can be told from the text if that leaves
all names apart, and only then.
-/

namespace Topology

/-- What a line says. -/
inductive Statement where
  | node (id : String)
  | arrow (source target : String) (delayed : Bool)
  deriving DecidableEq

namespace Statement

def node? : Statement → Option String
  | node id => some id
  | arrow .. => none

def arrow? : Statement → Option (String × String × Bool)
  | node _ => none
  | arrow source target delayed => some (source, target, delayed)

end Statement

def untilQuote (text : List Char) : String × List Char :=
  (String.ofList (text.takeWhile (· ≠ '"')), text.dropWhile (· ≠ '"'))

/-- The statement in a line, told by how far it is indented. -/
def statement? : List Char → Option Statement
  | ' ' :: ' ' :: ' ' :: ' ' :: '"' :: text => some (.node (untilQuote text).1)
  | ' ' :: ' ' :: ' ' :: ' ' :: ' ' :: ' ' :: ' ' :: ' ' :: '"' :: text =>
      let source := untilQuote text
      let target := untilQuote (source.2.drop "\" -> \"".length)
      some (.arrow source.1 target.1 (target.2 ≠ ['"', ';']))
  | _ => none

def readLines (text : List Char) : List Statement :=
  (text.splitOn '\n').filterMap statement?

def read (text : String) : List Statement :=
  readLines text.toList

theorem readLines_append {lines : List (List Char)} (whole : ∀ line ∈ lines, '\n' ∉ line)
    (text : List Char) :
    readLines (lines.flatMap (· ++ ['\n']) ++ text) =
      lines.filterMap statement? ++ readLines text := by
  induction lines with
  | nil => rfl
  | cons line rest ih =>
      have unbroken : ∀ c ∈ line, (c == '\n') = false := by
        intro c member
        apply beq_eq_false_iff_ne.mpr
        rintro rfl
        exact whole line List.mem_cons_self member
      have first : (line ++ '\n' :: (rest.flatMap (· ++ ['\n']) ++ text)).splitOn '\n' =
          line :: (rest.flatMap (· ++ ['\n']) ++ text).splitOn '\n' :=
        List.splitOnP_append_cons_of_forall_mem unbroken '\n' rfl _
      have later := ih fun other member => whole other (List.mem_cons_of_mem line member)
      rw [readLines] at later
      rw [List.flatMap_cons, List.append_assoc, List.append_assoc, List.singleton_append, readLines,
        first, List.filterMap_cons, List.filterMap_cons, later]
      cases statement? line <;> rfl

/-- A character in an identifier ends neither the identifier nor the line. -/
theorem not_mem_nodeId (name : String) :
    '"' ∉ (nodeId name).toList ∧ '\n' ∉ (nodeId name).toList := by
  have outside : ∀ c : Char, (Text.isAlphanumeric c || decide (c = '_')) = false →
      c ∉ (nodeId name).toList := by
    intro c other member
    rw [nodeId, String.toList_ofList, List.mem_filter, other] at member
    exact Bool.false_ne_true member.2
  exact ⟨outside _ (by decide +kernel), outside _ (by decide +kernel)⟩

theorem untilQuote_nodeId (name : String) (text : List Char) :
    untilQuote ((nodeId name).toList ++ '"' :: text) = (nodeId name, '"' :: text) := by
  have unquoted : ∀ c ∈ (nodeId name).toList, decide (c ≠ '"') = true := by
    intro c member
    apply decide_eq_true
    rintro rfl
    exact (not_mem_nodeId name).1 member
  rw [untilQuote, List.takeWhile_append_of_pos unquoted, List.dropWhile_append_of_pos unquoted]
  simp

def nodeLine (node : Node) : List Char :=
  ' ' :: ' ' :: ' ' :: ' ' :: '"' :: ((nodeId node.name).toList ++ '"' ::
    (" [label=\"" ++ Text.decimal node.rank ++ ":" ++ node.name ++ "\", " ++
      nodeStyle node.role ++ "];").toList)

def arrowLine (source target : Node) (delayed : Bool) : List Char :=
  ' ' :: ' ' :: ' ' :: ' ' :: ' ' :: ' ' :: ' ' :: ' ' :: '"' :: ((nodeId source.name).toList ++
    '"' :: ' ' :: '-' :: '>' :: ' ' :: '"' :: ((nodeId target.name).toList ++
      '"' :: (arrowStyle delayed ++ ";").toList))

theorem nodeStatement_toList (node : Node) :
    (nodeStatement node).toList = nodeLine node ++ ['\n'] := by
  have opening : "    \"".toList = [' ', ' ', ' ', ' ', '"'] := rfl
  have behind : "\" [label=\"".toList = '"' :: " [label=\"".toList := rfl
  have ending : "];\n".toList = "];".toList ++ ['\n'] := rfl
  simp only [nodeStatement, nodeLine, String.toList_append, opening, behind, ending,
    List.append_assoc, List.cons_append, List.nil_append]

theorem arrowStatement_toList (source target : Node) (delayed : Bool) :
    (arrowStatement source target delayed).toList = arrowLine source target delayed ++ ['\n'] := by
  have opening : "        \"".toList = [' ', ' ', ' ', ' ', ' ', ' ', ' ', ' ', '"'] := rfl
  have between : "\" -> \"".toList = ['"', ' ', '-', '>', ' ', '"'] := rfl
  have behind : "\"".toList = ['"'] := rfl
  have ending : ";\n".toList = ";".toList ++ ['\n'] := rfl
  simp only [arrowStatement, arrowLine, String.toList_append, opening, between, behind, ending,
    List.append_assoc, List.cons_append, List.nil_append]

theorem statement?_nodeLine (node : Node) :
    statement? (nodeLine node) = some (.node (nodeId node.name)) := by
  rw [nodeLine, statement?, untilQuote_nodeId]

theorem statement?_arrowLine (source target : Node) (delayed : Bool) :
    statement? (arrowLine source target delayed) =
      some (.arrow (nodeId source.name) (nodeId target.name) delayed) := by
  have mark : decide ('"' :: (arrowStyle delayed ++ ";").toList ≠ ['"', ';']) = delayed := by
    cases delayed <;> decide +kernel
  have onward : ∀ text : List Char,
      ('"' :: ' ' :: '-' :: '>' :: ' ' :: '"' :: text).drop "\" -> \"".length = text := fun _ => rfl
  rw [arrowLine, statement?, untilQuote_nodeId, onward, untilQuote_nodeId, mark]

theorem not_mem_nodeLine {node : Node} (legible : '\n' ∉ node.name.toList) :
    '\n' ∉ nodeLine node := by
  have digits : '\n' ∉ (Text.decimal node.rank).toList := by
    rw [Text.decimal, String.toList_ofList]
    intro member
    exact absurd (Nat.isDigit_of_mem_toDigits (by decide) (by decide) member) (by decide)
  have style : '\n' ∉ (nodeStyle node.role).toList := by
    cases node.role <;> decide +kernel
  simp only [nodeLine, String.toList_append, List.mem_append, List.mem_cons]
  simp [not_mem_nodeId, legible, digits, style]

theorem not_mem_arrowLine (source target : Node) (delayed : Bool) :
    '\n' ∉ arrowLine source target delayed := by
  have style : '\n' ∉ (arrowStyle delayed).toList := by
    cases delayed <;> decide +kernel
  simp only [arrowLine, String.toList_append, List.mem_append, List.mem_cons]
  simp [not_mem_nodeId, style]

/-! ## The whole text -/

/-- The arrows that leave a node, each with the node to which it leads. -/
def leaving (topology : Topology) (source : Node) : List (Node × Bool) :=
  (topology.arrows.filter fun arrow => arrow.source = source.rank).filterMap fun arrow =>
    (topology.nodes.find? fun node => node.rank = arrow.target).map fun target =>
      (target, arrow.delayed)

def headerLines : List (List Char) :=
  ["digraph GraphAnalyzer \x7b".toList, "    rankdir = \"LR\";".toList,
    "    node[fontname=Helvetica];".toList, "    size=\"12,5\";".toList, []]

def lines (topology : Topology) : List (List Char) :=
  topology.nodes.flatMap fun node =>
    nodeLine node :: (topology.leaving node).map fun edge => arrowLine node edge.1 edge.2

theorem dotHeader_toList : dotHeader.toList = headerLines.flatMap (· ++ ['\n']) := by
  decide +kernel

theorem statements_toList (topology : Topology) :
    (String.join topology.statements).toList = topology.lines.flatMap (· ++ ['\n']) := by
  rw [String.toList_join, statements, lines, List.flatMap_assoc, List.flatMap_assoc]
  apply List.flatMap_congr
  intro node _
  have arrows : topology.arrowStatements node =
      (topology.leaving node).map fun edge => arrowStatement node edge.1 edge.2 := by
    rw [arrowStatements, leaving, List.map_filterMap]
    simp only [Option.map_map]
    rfl
  rw [arrows, List.flatMap_cons, List.flatMap_cons, nodeStatement_toList, List.flatMap_map,
    List.flatMap_map]
  simp only [arrowStatement_toList]

theorem dot_toList (topology : Topology) :
    topology.dot.toList =
      (headerLines ++ topology.lines ++ ["\x7d".toList]).flatMap (· ++ ['\n']) := by
  have ending : "\x7d\n".toList = ["\x7d".toList].flatMap (· ++ ['\n']) := rfl
  rw [dot, String.toList_append, String.toList_append, dotHeader_toList, statements_toList, ending,
    List.flatMap_append, List.flatMap_append]

/-- No name breaks the line it stands on, as the name of no type does. -/
def Legible (topology : Topology) : Prop :=
  ∀ node ∈ topology.nodes, '\n' ∉ node.name.toList

instance (topology : Topology) : Decidable topology.Legible :=
  inferInstanceAs (Decidable (∀ node ∈ topology.nodes, '\n' ∉ node.name.toList))

/-- What the text says: one thing for each node, and behind that one thing for
each arrow that leaves the node. -/
def said (topology : Topology) : List Statement :=
  topology.nodes.flatMap fun node =>
    .node (nodeId node.name) :: (topology.leaving node).map fun edge =>
      .arrow (nodeId node.name) (nodeId edge.1.name) edge.2

theorem read_dot {topology : Topology} (legible : topology.Legible) :
    read topology.dot = topology.said := by
  have header : ∀ line ∈ headerLines, '\n' ∉ line ∧ statement? line = none := by
    decide +kernel
  have whole : ∀ line ∈ headerLines ++ topology.lines ++ ["\x7d".toList], '\n' ∉ line := by
    intro line member
    rcases List.mem_append.mp member with member | last
    · rcases List.mem_append.mp member with first | inside
      · exact (header line first).1
      · rcases List.mem_flatMap.mp inside with ⟨node, present, member⟩
        rcases List.mem_cons.mp member with rfl | leaves
        · exact not_mem_nodeLine (legible node present)
        · rcases List.mem_map.mp leaves with ⟨edge, _, rfl⟩
          exact not_mem_arrowLine node edge.1 edge.2
    · rw [List.mem_singleton.mp last]
      decide +kernel
  have front : headerLines.filterMap statement? = [] :=
    List.filterMap_eq_nil_iff.mpr fun line member => (header line member).2
  have back : ["\x7d".toList].filterMap statement? = [] := by
    decide +kernel
  have inside : topology.lines.filterMap statement? = topology.said := by
    rw [lines, said, List.filterMap_flatMap]
    apply List.flatMap_congr
    intro node _
    rw [List.filterMap_cons_some (statement?_nodeLine node), List.filterMap_map]
    simp only [Function.comp_def, statement?_arrowLine, List.filterMap_eq_map']
  -- The header and the closing brace are lines like the others, but say nothing.
  have nothing : readLines [] = [] := rfl
  rw [read, dot_toList, ← List.append_nil (List.flatMap _ _), readLines_append whole, nothing,
    List.filterMap_append, List.filterMap_append, front, inside, back, List.append_nil,
    List.append_nil, List.nil_append]

/-- The nodes have their positions for ranks, and the arrows lead from one of
them to another. -/
structure Ranked (topology : Topology) : Prop where
  ranks : topology.nodes.map Node.rank = List.range topology.nodes.length
  ends : ∀ arrow ∈ topology.arrows,
    arrow.source < topology.nodes.length ∧ arrow.target < topology.nodes.length

def ids (topology : Topology) : List String :=
  topology.nodes.map fun node => nodeId node.name

def idAt (topology : Topology) (rank : Nat) : String :=
  (topology.nodes[rank]?).elim "" fun node => nodeId node.name

theorem getElem?_ids {topology : Topology} {rank : Nat} (inside : rank < topology.nodes.length) :
    topology.ids[rank]? = some (topology.idAt rank) := by
  rw [ids, List.getElem?_map, idAt, List.getElem?_eq_getElem inside]
  rfl

/-- The arrow, with identifiers in place of ranks. -/
def named (name : Nat → String) (arrow : Arrow) : String × String × Bool :=
  (name arrow.source, name arrow.target, arrow.delayed)

theorem said_nodes (topology : Topology) :
    topology.said.filterMap Statement.node? = topology.ids := by
  rw [said, ids, List.filterMap_flatMap, ← List.flatMap_pure_eq_map]
  apply List.flatMap_congr
  intro node _
  have silent : ((topology.leaving node).map fun edge =>
      Statement.arrow (nodeId node.name) (nodeId edge.1.name) edge.2).filterMap
        Statement.node? = [] := by
    rw [List.filterMap_map]
    exact List.filterMap_eq_nil_iff.mpr fun _ _ => rfl
  rw [List.filterMap_cons, silent]
  rfl

namespace Ranked

variable {topology : Topology}

theorem rank_eq (ranked : topology.Ranked) {position : Nat} {node : Node}
    (here : topology.nodes[position]? = some node) : node.rank = position := by
  have inside := (List.getElem?_eq_some_iff.mp here).1
  have rank : (topology.nodes.map Node.rank)[position]? = some position := by
    rw [ranked.ranks, List.getElem?_range inside]
  rw [List.getElem?_map, here] at rank
  exact Option.some.inj rank

theorem idAt_eq (ranked : topology.Ranked) {node : Node} (member : node ∈ topology.nodes) :
    topology.idAt node.rank = nodeId node.name := by
  rcases List.getElem?_of_mem member with ⟨position, here⟩
  rw [idAt, ranked.rank_eq here, here]
  rfl

theorem find? (ranked : topology.Ranked) {arrow : Arrow} (member : arrow ∈ topology.arrows) :
    ∃ node, topology.nodes.find? (fun node => node.rank = arrow.target) = some node ∧
      nodeId node.name = topology.idAt arrow.target := by
  have here := List.getElem?_eq_getElem (ranked.ends arrow member).2
  cases found : topology.nodes.find? fun node => node.rank = arrow.target with
  | none =>
      have nowhere := List.find?_eq_none.mp found _ (List.mem_of_getElem? here)
      exact absurd (decide_eq_true (ranked.rank_eq here)) nowhere
  | some node =>
      have rank : node.rank = arrow.target := by simpa using List.find?_some found
      refine ⟨node, rfl, ?_⟩
      rw [← rank, ranked.idAt_eq (List.mem_of_find?_eq_some found)]

theorem said_arrows (ranked : topology.Ranked) :
    (topology.said.filterMap Statement.arrow?).Perm
      (topology.arrows.map (named topology.idAt)) := by
  have leaves : ∀ node ∈ topology.nodes,
      (Statement.node (nodeId node.name) :: (topology.leaving node).map fun edge =>
        Statement.arrow (nodeId node.name) (nodeId edge.1.name) edge.2).filterMap
          Statement.arrow? =
        (topology.arrows.filter fun arrow => arrow.source = node.rank).map
          (named topology.idAt) := by
    intro node member
    rw [List.filterMap_cons_none rfl, leaving, List.map_filterMap, List.filterMap_filterMap,
      ← List.filterMap_eq_map]
    apply List.filterMap_congr
    intro arrow leaves
    rcases List.mem_filter.mp leaves with ⟨drawn, source⟩
    have source : arrow.source = node.rank := by simpa using source
    rcases ranked.find? drawn with ⟨target, found, id⟩
    rw [found]
    simp [Statement.arrow?, named, source, ranked.idAt_eq member, id]
  -- They are said source by source, and every arrow has its source among the nodes.
  have covered : ∀ arrow ∈ topology.arrows, arrow.source ∈ topology.nodes.map Node.rank := by
    intro arrow drawn
    rw [ranked.ranks]
    exact List.mem_range.mpr (ranked.ends arrow drawn).1
  have distinct : (topology.nodes.map Node.rank).Nodup := by
    rw [ranked.ranks]
    exact List.nodup_range
  have all := collect_perm distinct Arrow.source (named topology.idAt) covered
  rw [List.flatMap_map] at all
  rw [said, List.filterMap_flatMap, List.flatMap_congr leaves]
  exact all

end Ranked

/-! ## Telling the topology from its text -/

/-- What the text says is a graph like the topology, with the given
identifiers for the ranks.  Different ranks have different ones. -/
structure Recovers (topology : Topology) (said : List Statement) (name : Nat → String) :
    Prop where
  apart : ∀ first second, first < topology.nodes.length → second < topology.nodes.length →
    name first = name second → first = second
  nodes : ∀ id, id ∈ said.filterMap Statement.node? ↔
    ∃ rank, rank < topology.nodes.length ∧ name rank = id
  arrows : (said.filterMap Statement.arrow?).Perm (topology.arrows.map (named name))

/-- No two nodes have the same identifier. -/
def Unambiguous (topology : Topology) : Prop :=
  topology.ids.Nodup

theorem Unambiguous.recovers {topology : Topology} (unambiguous : topology.Unambiguous)
    (ranked : topology.Ranked) : topology.Recovers topology.said topology.idAt where
  apart := by
    intro first second isFirst isSecond same
    apply (List.getElem?_inj ?_ unambiguous).mp
    · rw [getElem?_ids isFirst, getElem?_ids isSecond, same]
    · rwa [ids, List.length_map]
  nodes := by
    intro id
    rw [said_nodes]
    constructor
    · intro member
      rcases List.mem_map.mp member with ⟨node, present, rfl⟩
      rcases List.getElem?_of_mem present with ⟨rank, here⟩
      refine ⟨rank, (List.getElem?_eq_some_iff.mp here).1, ?_⟩
      rw [idAt, here]
      rfl
    · rintro ⟨rank, inside, rfl⟩
      exact List.mem_of_getElem? (getElem?_ids inside)
  arrows := ranked.said_arrows

/-- Names that are told apart need as many identifiers as there are nodes. -/
theorem Recovers.unambiguous {topology : Topology} {name : Nat → String}
    (recovers : topology.Recovers topology.said name) : topology.Unambiguous := by
  have names : ((List.range topology.nodes.length).map name).Nodup := by
    refine List.nodup_range.map_on fun first isFirst second isSecond same => ?_
    exact recovers.apart first second (List.mem_range.mp isFirst) (List.mem_range.mp isSecond) same
  have said : (List.range topology.nodes.length).map name ⊆ topology.ids := by
    intro id member
    rcases List.mem_map.mp member with ⟨rank, inside, rfl⟩
    rw [← said_nodes, recovers.nodes]
    exact ⟨rank, List.mem_range.mp inside, rfl⟩
  have all := (names.subperm said).perm_of_length_le (by simp [ids])
  exact all.nodup_iff.mp names

namespace Depicts

variable {registry : Registry} {shown : List Vertex} {topology : Topology}

theorem ids_eq (depicts : Depicts registry shown topology) :
    topology.ids = shown.map fun vertex => nodeId (registry.nameOf vertex) := by
  apply List.ext_getElem?
  intro position
  rw [ids, List.getElem?_map, List.getElem?_map]
  cases here : shown[position]? with
  | none =>
      have beyond : topology.nodes.length ≤ position := by
        rw [depicts.size]
        exact List.getElem?_eq_none_iff.mp here
      rw [List.getElem?_eq_none beyond]
      rfl
  | some vertex =>
      rcases depicts.nodes position vertex here with ⟨node, found, _, name, _⟩
      rw [found, Option.map_some, Option.map_some, name]

theorem ranked (depicts : Depicts registry shown topology) (sound : registry.Sound) :
    topology.Ranked where
  ranks := by
    apply List.ext_getElem
    · rw [List.length_map, List.length_range]
    · intro position inside _
      rw [List.length_map] at inside
      have here := List.getElem?_eq_getElem (depicts.size ▸ inside)
      rcases depicts.nodes position _ here with ⟨node, found, rank, _⟩
      rw [List.getElem_map, List.getElem_range, (List.getElem?_eq_some_iff.mp found).2, rank]
  ends := by
    intro arrow drawn
    have inside : ∀ vertex ∈ registry.members, shown.idxOf vertex < topology.nodes.length := by
      intro vertex member
      rw [depicts.size]
      exact List.idxOf_lt_length_of_mem (depicts.everyone.mem_iff.mpr member)
    rcases List.mem_flatMap.mp (depicts.arrows.mem_iff.mp drawn) with ⟨entry, member, drawn⟩
    have topic := Registry.topic_mem_members member
    rcases sound.ends member drawn with ⟨detector, known, ⟨source, target⟩ | ⟨source, target⟩⟩
    · rw [source, target]
      exact ⟨inside _ topic, inside _ known⟩
    · rw [source, target]
      exact ⟨inside _ known, inside _ topic⟩

/-- The nodes of a picture are told apart if what is left of the names of the
vertices is. -/
theorem unambiguous_iff (depicts : Depicts registry shown topology) :
    topology.Unambiguous ↔ ∀ first ∈ registry.members, ∀ second ∈ registry.members,
      nodeId (registry.nameOf first) = nodeId (registry.nameOf second) → first = second := by
  have among : ∀ vertex, vertex ∈ shown ↔ vertex ∈ registry.members :=
    fun _ => depicts.everyone.mem_iff
  rw [Unambiguous, depicts.ids_eq, List.nodup_map_iff_inj_on depicts.nodup]
  simp only [among]

end Depicts

end Topology

namespace Graph

variable {α σ : Type}

/-- How much of the graph there is in what its text says: one statement for
each topic, each detector and each arrow.  The graph can be told from them if
no two of its vertices have the same identifier, and only then. -/
structure Drawn (graph : Graph α σ) (said : List Topology.Statement) : Prop where
  nodes : (said.filterMap Topology.Statement.node?).Perm
    (graph.registry.members.map fun vertex => Topology.nodeId (graph.registry.nameOf vertex))
  arrows : (said.filterMap Topology.Statement.arrow?).Perm
    (graph.topology.arrows.map (Topology.named graph.topology.idAt))
  told : (∃ name, graph.topology.Recovers said name) ↔
    ∀ first ∈ graph.registry.members, ∀ second ∈ graph.registry.members,
      Topology.nodeId (graph.registry.nameOf first) =
        Topology.nodeId (graph.registry.nameOf second) → first = second

/-- Whatever has been done to a graph, this is what its text says of it. -/
theorem drawn_dot (config : Config) (operations : List (Operation α σ))
    (legible : (run operations (ofConfig config)).state.topology.Legible) :
    (run operations (ofConfig config)).state.Drawn
      (Topology.read (run operations (ofConfig config)).state.topology.dot) := by
  have reachable : (run operations (ofConfig config)).state.Reachable := ⟨config, operations, rfl⟩
  generalize (run operations (ofConfig config)).state = graph at reachable legible ⊢
  have depicts := reachable.depicts
  have ranked := depicts.ranked reachable.coherent.registry
  rw [Topology.read_dot legible]
  refine ⟨?_, ranked.said_arrows, ?_⟩
  · rw [Topology.said_nodes, depicts.ids_eq]
    exact depicts.everyone.map _
  · rw [← depicts.unambiguous_iff]
    constructor
    · rintro ⟨name, recovers⟩
      exact recovers.unambiguous
    · intro unambiguous
      exact ⟨_, unambiguous.recovers ranked⟩

/-- A relay and a lag behind it can be told from their text. -/
theorem relay_told :
    let operations : List (Operation Nat Unit) :=
      [.add (.relay [.plain "in"] [.plain "out"]), .addLag (.plain "out")]
    let graph := (run operations (ofConfig {})).state
    graph.topology.Legible ∧ graph.Drawn (Topology.read graph.topology.dot) ∧
      ∃ name, graph.topology.Recovers (Topology.read graph.topology.dot) name := by
  intro operations graph
  have legible : graph.topology.Legible := by
    decide +kernel
  have drawn := drawn_dot {} operations legible
  exact ⟨legible, drawn, drawn.told.mpr (by decide +kernel)⟩

/-- Two topics of one name cannot, although they come from different modules. -/
theorem homonyms_merge :
    let operations : List (Operation Nat Unit) :=
      [.resolve (.plain "A"), .resolve (.plain "deep::A")]
    let graph := (run operations (ofConfig {})).state
    (Topology.read graph.topology.dot).filterMap Topology.Statement.node? = ["A", "A"] ∧
      ¬∃ name, graph.topology.Recovers (Topology.read graph.topology.dot) name := by
  intro operations graph
  have legible : graph.topology.Legible := by
    decide +kernel
  have merged : graph.topology.ids = ["A", "A"] := by
    decide +kernel
  rw [Topology.read_dot legible, Topology.said_nodes]
  refine ⟨merged, ?_⟩
  rintro ⟨name, recovers⟩
  have unambiguous := recovers.unambiguous
  rw [Topology.Unambiguous, merged] at unambiguous
  exact absurd unambiguous (by decide)

end Graph
end ReactiveGraph
