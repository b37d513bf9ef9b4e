import Mathlib.Data.List.Basic
import ReactiveGraph.Proofs.Cycles

namespace ReactiveGraph

/-!
# The least order

A graph without cycles has many orders in which each vertex comes behind all
that it depends on.  Compare two of them where they first differ.  The
computed one has the first of the waiting vertices there that is ready, and
the other one has one that is ready as well, as all that it depends on has
been placed by both.  So the computed one has the lower identifier.
-/

namespace VisitOrder

/-- No other arrangement of the waiting vertices that respects the edges has
lower numbers. -/
theorem arrange_least {edges : List (Vertex × Vertex)}
    (loopless : ∀ vertex, (vertex, vertex) ∉ edges) {number : Vertex → Nat} {count : Nat}
    {waiting other : List Vertex}
    (rising : waiting.Pairwise fun first second => number first < number second)
    (perm : other.Perm waiting)
    (ordered : other.Pairwise fun earlier later => (later, earlier) ∉ edges) :
    other = (arrange edges count waiting).1 ∨
      List.Lex (· < ·) ((arrange edges count waiting).1.map number) (other.map number) := by
  have longer : ∀ walk : List Vertex, walk = [] ∨ List.Lex (· < ·) [] (walk.map number) := by
    intro walk
    cases walk with
    | nil => exact Or.inl rfl
    | cons head tail => exact Or.inr .nil
  induction count generalizing waiting other with
  | zero => exact longer other
  | succ count ih =>
      rw [arrange]
      cases found : waiting.find? (isReady edges waiting) with
      | none => exact longer other
      | some vertex =>
          rcases List.find?_eq_some_iff_append.mp found with ⟨_, front, back, split, held⟩
          cases other with
          | nil =>
              rw [← perm.nil_eq] at split
              simp at split
          | cons head tail =>
              rcases List.pairwise_cons.mp ordered with ⟨free, ordered⟩
              have ready : isReady edges waiting head = true := by
                rw [isReady_iff]
                intro source edge waits
                rcases List.mem_cons.mp (perm.mem_iff.mpr waits) with same | behind
                · exact loopless head (same ▸ edge)
                · exact free source behind edge
              have notBefore : head ∉ front := fun member => by simpa [ready] using held head member
              have member : head ∈ front ++ vertex :: back :=
                split ▸ perm.mem_iff.mp List.mem_cons_self
              rcases List.mem_cons.mp ((List.mem_append.mp member).resolve_left notBefore) with
                rfl | behind
              · have fewer := (List.cons_perm_iff_perm_erase.mp perm).2
                rcases ih (rising.sublist List.erase_sublist) fewer ordered with same | later
                · exact Or.inl (congrArg (head :: ·) same)
                · exact Or.inr (.cons later)
              · rw [split] at rising
                have below := (List.pairwise_cons.mp (List.pairwise_append.mp rising).2.1).1
                exact Or.inr (.rel (below head behind))

variable {order : VisitOrder}

namespace Proper

theorem filterMap_id? (proper : order.Proper) {walk : List Vertex}
    (known : ∀ vertex ∈ walk, vertex ∈ order.vertices) :
    walk.filterMap order.id? = walk.map fun vertex => order.vertices.idxOf vertex := by
  rw [← List.filterMap_eq_map]
  apply List.filterMap_congr
  intro vertex member
  exact proper.id?_eq_some_iff.mpr (List.getElem?_idxOf (known vertex member))

theorem positions (proper : order.Proper) :
    order.vertices.map (fun vertex => order.vertices.idxOf vertex) =
      List.range order.vertices.length := by
  apply List.ext_getElem
  · simp
  · intro position _ _
    simp [proper.nodup.idxOf_getElem]

theorem ids_named (proper : order.Proper) (known : ∀ vertex ∈ order.walk, vertex ∈ order.vertices) :
    order.ids.map order.vertex? = order.walk.map some := by
  rw [ids, proper.filterMap_id? known, List.map_map]
  apply List.map_congr_left
  intro vertex member
  exact List.getElem?_idxOf (known vertex member)

theorem rank?_eq_some_iff (proper : order.Proper) (nodup : order.walk.Nodup)
    (known : ∀ vertex ∈ order.walk, vertex ∈ order.vertices) {id : VertexId} {position : Nat} :
    order.rank? id = some position ↔ order.ids[position]? = some id := by
  have here : (order.ids[position]?).map order.vertex? = (order.walk[position]?).map some := by
    simpa using congrArg (fun named => named[position]?) (proper.ids_named known)
  rw [rank?, Option.bind_eq_some_iff]
  constructor
  · rintro ⟨vertex, isVertex, visited⟩
    rw [(idxOf?_eq_some_iff nodup).mp visited] at here
    rcases Option.map_eq_some_iff.mp here with ⟨other, isOther, same⟩
    rw [isOther, proper.id_unique same isVertex]
  · intro isId
    rw [isId] at here
    rcases Option.map_eq_some_iff.mp here.symm with ⟨vertex, visited, same⟩
    exact ⟨vertex, same.symm, (idxOf?_eq_some_iff nodup).mpr visited⟩

end Proper
end VisitOrder

namespace Registry

def members (registry : Registry) : List Vertex :=
  registry.topics.map (fun entry => .topic entry.payload) ++
    (List.range registry.detectors.length).map .detector

/-- The walk visits every topic and every detector once, and each of them
behind all that has to come before it.  Delayed publications are free. -/
structure Arranges (registry : Registry) (walk : List Vertex) : Prop where
  everyone : walk.Perm registry.members
  nodup : walk.Nodup
  ordered : ∀ source target, registry.Precedes source target → [source, target].Sublist walk

/-- The order numbers the vertices as they were registered, and evaluates them
in the least of all orders that the edges admit: every other one has the
higher identifier where the two first differ. -/
structure LeastOrder (registry : Registry) (order : VisitOrder) : Prop where
  members : order.vertices.Perm registry.members
  rising : order.vertices.Pairwise fun first second =>
    registry.sequenceOf first < registry.sequenceOf second
  identified : ∀ vertex id, order.id? vertex = some id ↔ order.vertex? id = some vertex
  arranges : registry.Arranges order.walk
  named : order.ids.map order.vertex? = order.walk.map some
  visits : order.ids.Perm (List.range registry.members.length)
  ranked : ∀ id position, order.rank? id = some position ↔ order.ids[position]? = some id
  least : ∀ walk, registry.Arranges walk →
    walk = order.walk ∨ List.Lex (· < ·) order.ids (walk.filterMap order.id?)

variable {registry : Registry}

theorem IsWalk.arranges {walk : List Vertex} (isWalk : registry.IsWalk walk)
    (sound : registry.Sound) : registry.Arranges walk where
  everyone := isWalk.perm.trans registry.vertices_perm
  nodup := isWalk.nodup
  ordered := by
    intro source target precedes
    have edge := sound.mem_edges_iff.mpr precedes
    have member := isWalk.perm.mem_iff.mpr (sound.edge_vertices edge).2
    rcases List.append_of_mem member with ⟨visited, rest, split⟩
    have before := isWalk.earlier sound split edge
    rw [split]
    exact VisitOrder.pair_sublist before

/-- Nothing in an arrangement has to come before what stands ahead of it. -/
theorem Arranges.pairwise {walk : List Vertex} (arranges : registry.Arranges walk)
    (sound : registry.Sound) :
    walk.Pairwise fun earlier later => (later, earlier) ∉ registry.edges := by
  rw [List.pairwise_iff_forall_sublist]
  intro earlier later before edge
  exact pair_asymm arranges.nodup before (arranges.ordered _ _ (sound.mem_edges_iff.mp edge))

theorem Numbered.leastOrder (numbered : registry.Numbered) (sound : registry.Sound)
    {order : VisitOrder} (computed : VisitOrder.compute registry = .ok order) :
    registry.LeastOrder order := by
  have isWalk := VisitOrder.compute_isWalk sound computed
  rcases sound.compute_ok computed with ⟨_, same⟩
  have proper : order.Proper := by
    rw [same]
    exact ⟨sound.proper.nodup, sound.proper.source, sound.proper.target⟩
  have vertices : order.vertices = registry.vertices := by rw [same]
  have perm : order.walk.Perm order.vertices := vertices ▸ isWalk.perm
  have known : ∀ vertex ∈ order.walk, vertex ∈ order.vertices := fun _ => perm.mem_iff.mp
  have members : order.vertices.Perm registry.members := vertices ▸ registry.vertices_perm
  refine ⟨members, vertices ▸ numbered.vertices_rising sound, fun _ _ => proper.id?_eq_some_iff,
    isWalk.arranges sound, proper.ids_named known, ?_,
    fun _ _ => proper.rank?_eq_some_iff isWalk.nodup known, ?_⟩
  · have all : order.vertices.filterMap order.id? = List.range registry.members.length := by
      rw [proper.filterMap_id? fun _ => id, proper.positions, members.length_eq]
    exact all ▸ perm.filterMap order.id?
  · intro walk arranges
    have permOther : walk.Perm order.vertices := arranges.everyone.trans members.symm
    rw [VisitOrder.ids, proper.filterMap_id? known,
      proper.filterMap_id? fun _ => permOther.mem_iff.mp]
    have rising : order.vertices.Pairwise fun first second =>
        order.vertices.idxOf first < order.vertices.idxOf second := by
      rw [← List.pairwise_map, proper.positions]
      exact List.pairwise_lt_range
    have loopless : ∀ vertex, (vertex, vertex) ∉ registry.edges :=
      fun vertex edge => (sound.mem_edges_iff.mp edge).ne rfl
    have placed : order.walk = (VisitOrder.arrange registry.edges registry.vertices.length
        order.vertices).1 := by
      rw [vertices, same]
      rfl
    rw [placed]
    exact VisitOrder.arrange_least loopless rising permOther (arranges.pairwise sound)

end Registry

namespace Graph

variable {α σ : Type}

/-- Whatever has been done to a graph, its vertices are put into the least
order, unless they form a cycle. -/
theorem order_is_least (config : Config) (operations : List (Operation α σ))
    (acyclic : ∀ vertex, ¬(run operations (ofConfig config)).state.registry.OnCycle vertex) :
    ∃ order, VisitOrder.compute (run operations (ofConfig config)).state.registry = .ok order ∧
      (run operations (ofConfig config)).state.registry.LeastOrder order := by
  have reachable : (run operations (ofConfig config)).state.Reachable := ⟨config, operations, rfl⟩
  have sound := reachable.coherent.registry
  have computed := sound.compute_eq
  rw [if_pos (sound.unplaced_eq_nil_iff.mpr acyclic)] at computed
  exact ⟨_, computed, reachable.numbered.leastOrder sound computed⟩

/-- The topic that was registered first comes after all that it depends on.
Taking back a detector has left a gap in the numbers but none in the
identifiers, and the lag holds nothing up. -/
theorem crossing_least :
    (∀ vertex, ¬(run crossing (ofConfig {})).state.registry.OnCycle vertex) ∧
      ∃ order, VisitOrder.compute (run crossing (ofConfig {})).state.registry = .ok order ∧
        order.ids = [3, 4, 2, 1, 0, 5, 6] ∧
        (run crossing (ofConfig {})).state.registry.LeastOrder order := by
  have reachable : (run crossing (ofConfig {})).state.Reachable := ⟨{}, crossing, rfl⟩
  have acyclic : ∀ vertex, ¬(run crossing (ofConfig {})).state.registry.OnCycle vertex :=
    reachable.coherent.registry.unplaced_eq_nil_iff.mp (by decide +kernel)
  have ids : (VisitOrder.compute (run crossing (ofConfig {})).state.registry).toOption.map
      VisitOrder.ids = some [3, 4, 2, 1, 0, 5, 6] := by
    decide +kernel
  rcases order_is_least {} crossing acyclic with ⟨order, computed, least⟩
  rw [computed] at ids
  exact ⟨acyclic, order, computed, Option.some.inj ids, least⟩

end Graph
end ReactiveGraph
