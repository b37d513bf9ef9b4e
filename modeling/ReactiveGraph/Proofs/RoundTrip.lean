import ReactiveGraph.Proofs.Drawing
import ReactiveGraph.Proofs.Reading
import ReactiveGraph.Proofs.Records
import ReactiveGraph.Topology.Format

namespace ReactiveGraph

/-!
# Topologies read back

A topology that is written down is read back unchanged, whatever the names in
it.  Only its ranks have to be words of 64 bits.  In the picture of a graph
they are positions, so this is so unless there are more vertices than words.
-/

namespace Topology

theorem Role.ofJson?_tag (role : Role) : Role.ofJson? (.ofText role.tag) = some role := by
  have known : Role.ofTag? role.tag = some role := by
    cases role <;> rfl
  have read := Json.text?_ofText role.tag
  rw [Json.ofText] at read ⊢
  rw [Role.ofJson?, read]
  exact known

theorem Node.ofJson?_toJson {node : Node} (word : node.rank < UInt64.size) :
    Node.ofJson? node.toJson = some node := by
  have fields : node.toJson.fields? ["rank", "name", "role"] =
      some [some (.ofNat node.rank), some (.ofText node.name), some (.ofText node.role.tag)] :=
    Json.fields?_record (by decide) rfl
  rw [Node.ofJson?, fields]
  simp only [Option.bind_eq_bind, Option.bind_some, Json.nat?_ofNat word, Json.text?_ofText,
    Role.ofJson?_tag]
  rfl

theorem Arrow.ofJson?_toJson {arrow : Arrow} (source : arrow.source < UInt64.size)
    (target : arrow.target < UInt64.size) : Arrow.ofJson? arrow.toJson = some arrow := by
  have fields : arrow.toJson.fields? ["from", "to", "delayed"] =
      some [some (.ofNat arrow.source), some (.ofNat arrow.target), some (.bool arrow.delayed)] :=
    Json.fields?_record (by decide) rfl
  rw [Arrow.ofJson?, fields]
  simp only [Option.bind_eq_bind, Option.bind_some, Json.nat?_ofNat source, Json.nat?_ofNat target,
    Json.bool?]
  rfl

/-- The ranks of the topology are words of 64 bits. -/
structure Representable (topology : Topology) : Prop where
  nodes : ∀ node ∈ topology.nodes, node.rank < UInt64.size
  arrows : ∀ arrow ∈ topology.arrows, arrow.source < UInt64.size ∧ arrow.target < UInt64.size

theorem Representable.ofJson?_toJson {topology : Topology}
    (representable : topology.Representable) : ofJson? topology.toJson = some topology := by
  have fields : topology.toJson.fields? ["name", "ordered", "vertices", "edges"] =
      some [some (.ofText topology.name), some (.bool topology.ordered),
        some (.array (topology.nodes.map Node.toJson)),
        some (.array (topology.arrows.map Arrow.toJson))] :=
    Json.fields?_record (by decide) rfl
  have nodes := Json.list?_array fun node member =>
    Node.ofJson?_toJson (representable.nodes node member)
  have arrows := Json.list?_array fun arrow member =>
    Arrow.ofJson?_toJson (representable.arrows arrow member).1 (representable.arrows arrow member).2
  rw [ofJson?, fields]
  simp only [Option.bind_eq_bind, Option.bind_some, Json.text?_ofText, Json.bool?, nodes, arrows]
  rfl

theorem writable_node (node : Node) : Json.Writable node.toJson := by
  refine .record (List.forall_mem_cons.mpr ⟨Json.writable_ofNat _, ?_⟩)
  refine List.forall_mem_cons.mpr ⟨Json.writable_ofText _, ?_⟩
  exact List.forall_mem_singleton.mpr (Json.writable_ofText _)

theorem writable_arrow (arrow : Arrow) : Json.Writable arrow.toJson := by
  refine .record (List.forall_mem_cons.mpr ⟨Json.writable_ofNat _, ?_⟩)
  refine List.forall_mem_cons.mpr ⟨Json.writable_ofNat _, ?_⟩
  exact List.forall_mem_singleton.mpr (Json.writable_bool _)

theorem writable (topology : Topology) : Json.Writable topology.toJson := by
  refine .record (List.forall_mem_cons.mpr ⟨Json.writable_ofText _, ?_⟩)
  refine List.forall_mem_cons.mpr ⟨Json.writable_bool _, ?_⟩
  refine List.forall_mem_cons.mpr ⟨.array (List.forall_mem_map.mpr fun node _ => ?_), ?_⟩
  · exact writable_node node
  · refine List.forall_mem_singleton.mpr (.array (List.forall_mem_map.mpr fun arrow _ => ?_))
    exact writable_arrow arrow

theorem padded_render (topology : Topology) :
    Json.Padded topology.toJson topology.render.toList := by
  rw [render, String.toList_ofList]
  exact ((writable topology).pretty 0).unpadded

theorem Representable.parse_render {topology : Topology} (representable : topology.Representable)
    (reason : String → String) : parse reason topology.render = .ok topology :=
  Json.decode_of_padded reason topology.padded_render representable.ofJson?_toJson

/-- Positions are words of 64 bits if there are no more of them than words. -/
theorem Ranked.representable {topology : Topology} (ranked : topology.Ranked)
    (few : topology.nodes.length ≤ UInt64.size) : topology.Representable where
  nodes := by
    intro node member
    have rank : node.rank ∈ topology.nodes.map Node.rank := List.mem_map_of_mem member
    rw [ranked.ranks, List.mem_range] at rank
    exact Nat.lt_of_lt_of_le rank few
  arrows := by
    intro arrow member
    rcases ranked.ends arrow member with ⟨source, target⟩
    exact ⟨Nat.lt_of_lt_of_le source few, Nat.lt_of_lt_of_le target few⟩

/-- A topology is written in JSON and read back as it was, and so is the picture
of every graph that can come about. -/
theorem reads_back (reason : String → String) :
    (∀ topology : Topology, topology.Representable →
      Json.Padded topology.toJson topology.render.toList ∧
        parse reason topology.render = .ok topology) ∧
      ∀ {α σ : Type} (graph : Graph α σ), graph.Reachable →
        graph.registry.topics.length + graph.registry.detectors.length ≤ UInt64.size →
          parse reason graph.topology.render = .ok graph.topology := by
  refine ⟨fun topology representable => ⟨topology.padded_render, representable.parse_render reason⟩,
    fun graph reachable few => ?_⟩
  have depicts := reachable.depicts
  have size : graph.topology.nodes.length =
      graph.registry.topics.length + graph.registry.detectors.length := by
    rw [depicts.size, depicts.everyone.length_eq, Registry.members, List.length_append,
      List.length_map, List.length_map, List.length_range]
  have ranked := depicts.ranked reachable.coherent.registry
  exact (ranked.representable (size ▸ few)).parse_render reason

/-- Names full of escapes and ranks up to the greatest word are read back, and
so is the picture of a relay that has a lag behind it. -/
theorem odd_names_read_back :
    let topology : Topology :=
      { name := "\"\\\x00\n\u00e9"
        ordered := false
        nodes := [⟨UInt64.size - 1, "/\x1f\x7f", .internalTopic⟩, ⟨0, "", .detector⟩]
        arrows := [⟨UInt64.size - 1, 0, true⟩] }
    let operations : List (Operation Nat Unit) :=
      [.add (.relay [.plain "in"] [.plain "out"]), .addLag (.plain "out")]
    let graph := (Graph.run operations (.ofConfig {})).state
    let reason : String → String := fun _ => ""
    topology.Representable ∧ parse reason topology.render = .ok topology ∧
      graph.topology.nodes.length = 5 ∧
        parse reason graph.topology.render = .ok graph.topology := by
  intro topology operations graph reason
  have representable : topology.Representable :=
    ⟨by decide, by decide⟩
  have reachable : graph.Reachable := ⟨{}, operations, rfl⟩
  refine ⟨representable, ((reads_back reason).1 topology representable).2, by decide +kernel, ?_⟩
  exact (reads_back reason).2 graph reachable (by decide +kernel)

end Topology
end ReactiveGraph
