import Mathlib.Data.List.Induction
import ReactiveGraph.Proofs.Arrangement
import ReactiveGraph.Proofs.Registry

namespace ReactiveGraph

/-!
# The walk respects the edges

A walk that `compute` returns visits every registered vertex once, and
whatever has been visited at any point includes everything it depends on.
-/

namespace Registry

/-- The constraining edges lead from immediate publishers to their topics and
from topics to their subscribers. -/
theorem mem_edges {registry : Registry} (sound : registry.Sound) {source target : Vertex} :
    (source, target) ∈ registry.edges ↔
      (∃ detector topic, source = .detector detector ∧ target = .topic topic ∧
          registry.isDeclared detector topic .immediate = true) ∨
        ∃ topic detector, source = .topic topic ∧ target = .detector detector ∧
          detector ∈ registry.subscribers topic := by
  rw [edges, List.mem_flatMap]
  constructor
  · rintro ⟨entry, member, edge⟩
    have found := sound.topic?_payload member
    rcases List.mem_append.mp edge with published | subscribed
    · rcases List.mem_map.mp published with ⟨⟨detector, timing⟩, publisher, same⟩
      rcases List.mem_filter.mp publisher with ⟨publisher, immediate⟩
      rcases Prod.mk.inj same with ⟨rfl, rfl⟩
      have timing : timing = .immediate := by simpa using immediate
      refine Or.inl ⟨detector, entry.payload, rfl, rfl, ?_⟩
      rw [isDeclared_iff, publishers, found]
      exact timing ▸ publisher
    · rcases List.mem_map.mp subscribed with ⟨detector, subscriber, same⟩
      rcases Prod.mk.inj same with ⟨rfl, rfl⟩
      refine Or.inr ⟨entry.payload, detector, rfl, rfl, ?_⟩
      rw [subscribers, found]
      exact subscriber
  · rintro (⟨detector, topic, rfl, rfl, declared⟩ | ⟨topic, detector, rfl, rfl, subscribed⟩)
    · rw [isDeclared_iff, publishers] at declared
      cases found : registry.topic? topic with
      | none =>
          rw [found] at declared
          cases declared
      | some entry =>
          rw [found] at declared
          refine ⟨entry, mem_of_topic? found, List.mem_append_left _ (List.mem_map.mpr ?_)⟩
          exact ⟨(detector, .immediate), List.mem_filter.mpr ⟨declared, rfl⟩,
            by rw [payload_of_topic? found]⟩
    · rcases topic?_of_mem_subscribers subscribed with ⟨entry, found, subscriber⟩
      refine ⟨entry, mem_of_topic? found, List.mem_append_right _ (List.mem_map.mpr ?_)⟩
      exact ⟨detector, subscriber, by rw [payload_of_topic? found]⟩

theorem edge_of_publisher {registry : Registry} (sound : registry.Sound) {detector : DetectorId}
    {topic : Payload} (declared : registry.isDeclared detector topic .immediate = true) :
    (.detector detector, .topic topic) ∈ registry.edges :=
  (mem_edges sound).mpr (Or.inl ⟨detector, topic, rfl, rfl, declared⟩)

theorem edge_of_subscriber {registry : Registry} (sound : registry.Sound) {topic : Payload}
    {detector : DetectorId} (subscribed : detector ∈ registry.subscribers topic) :
    (.topic topic, .detector detector) ∈ registry.edges :=
  (mem_edges sound).mpr (Or.inr ⟨topic, detector, rfl, rfl, subscribed⟩)

theorem vertices_perm (registry : Registry) :
    registry.vertices.Perm (registry.topics.map (fun entry => .topic entry.payload) ++
      (List.range registry.detectors.length).map .detector) := by
  have sorted : registry.vertices.Perm (registry.numberedVertices.map Prod.snd) := by
    rw [vertices, Sorting.sort_eq_insertionSort]
    exact (List.perm_insertionSort _ _).map Prod.snd
  have detectors : (List.range registry.detectors.length).map Vertex.detector =
      registry.detectors.zipIdx.map fun entry => Vertex.detector entry.2 := by
    rw [List.range_eq_range', ← List.zipIdx_map_snd, List.map_map]
    rfl
  have numbered : registry.numberedVertices.map Prod.snd =
      registry.topics.map (fun entry => .topic entry.payload) ++
        (List.range registry.detectors.length).map .detector := by
    rw [numberedVertices, List.map_append, List.map_map, List.map_map, detectors]
    rfl
  exact numbered ▸ sorted

theorem topic_mem_vertices {registry : Registry} {topic : Payload} :
    .topic topic ∈ registry.vertices ↔ registry.hasTopic topic = true := by
  rw [registry.vertices_perm.mem_iff, hasTopic_iff]
  simp

theorem detector_mem_vertices {registry : Registry} {detector : DetectorId} :
    .detector detector ∈ registry.vertices ↔ detector < registry.detectors.length := by
  rw [registry.vertices_perm.mem_iff]
  simp

theorem Sound.vertices_nodup {registry : Registry} (sound : registry.Sound) :
    registry.vertices.Nodup := by
  rw [registry.vertices_perm.nodup_iff, List.nodup_append]
  refine ⟨?_, List.nodup_range.map fun _ _ same => Vertex.detector.inj same, ?_⟩
  · have topics : registry.topics.map (fun entry => Vertex.topic entry.payload) =
        (registry.topics.map TopicRecord.payload).map .topic := by
      rw [List.map_map]
      rfl
    rw [topics]
    exact sound.distinct.map fun _ _ same => Vertex.topic.inj same
  · intro topic inTopics detector inDetectors equal
    rcases List.mem_map.mp inTopics with ⟨entry, _, rfl⟩
    rcases List.mem_map.mp inDetectors with ⟨id, _, rfl⟩
    cases equal

theorem Sound.edge_vertices {registry : Registry} (sound : registry.Sound)
    {source target : Vertex} (edge : (source, target) ∈ registry.edges) :
    source ∈ registry.vertices ∧ target ∈ registry.vertices := by
  rcases (mem_edges sound).mp edge with
    ⟨detector, topic, rfl, rfl, declared⟩ | ⟨topic, detector, rfl, rfl, subscribed⟩
  · exact ⟨detector_mem_vertices.mpr (sound.publisher_known (isDeclared_iff.mp declared)),
      topic_mem_vertices.mpr (hasTopic_of_isDeclared declared)⟩
  · refine ⟨topic_mem_vertices.mpr ?_,
      detector_mem_vertices.mpr (sound.subscriber_known subscribed)⟩
    rcases topic?_of_mem_subscribers subscribed with ⟨entry, found, _⟩
    rw [hasTopic, found]
    rfl

/-- A walk visits every vertex once, and what has been visited at any point
includes everything it depends on. -/
structure IsWalk (registry : Registry) (walk : List Vertex) : Prop where
  perm : walk.Perm registry.vertices
  nodup : walk.Nodup
  closed : ∀ visited rest, walk = visited ++ rest → ∀ source target,
    (source, target) ∈ registry.edges → target ∈ visited → source ∈ visited

end Registry

/-! ## Sorting the vertices -/

namespace Registry

variable {registry : Registry}

/-- The vertices and edges of the registry, with no vertex placed yet. -/
def unsorted (registry : Registry) : VisitOrder :=
  { vertices := registry.vertices, edges := registry.edges }

def sortedIds (registry : Registry) : List VertexId :=
  registry.unsorted.sort registry.vertices.length registry.unsorted.sorter

theorem Sound.proper (sound : registry.Sound) : registry.unsorted.Proper where
  nodup := sound.vertices_nodup
  source edge := (sound.edge_vertices edge).1
  target edge := (sound.edge_vertices edge).2

def placed (registry : Registry) : List Vertex :=
  (VisitOrder.arrange registry.edges registry.vertices.length registry.vertices).1

/-- The vertices that are left over, in the order of registration. -/
def unplaced (registry : Registry) : List Vertex :=
  (VisitOrder.arrange registry.edges registry.vertices.length registry.vertices).2

theorem placed_perm (registry : Registry) :
    (registry.placed ++ registry.unplaced).Perm registry.vertices :=
  VisitOrder.arrange_perm _ _ _

theorem unplaced_sublist (registry : Registry) :
    registry.unplaced.Sublist registry.vertices :=
  VisitOrder.arrange_sublist _ _ _

theorem Sound.placed_nodup (sound : registry.Sound) : registry.placed.Nodup :=
  (registry.placed_perm.nodup_iff.mpr sound.vertices_nodup).of_append_left

theorem Sound.filter_unplaced (sound : registry.Sound) :
    registry.vertices.filter (fun vertex => !registry.placed.contains vertex) =
      registry.unplaced := by
  have nodup := registry.placed_perm.nodup_iff.mpr sound.vertices_nodup
  have apart : ∀ vertex ∈ registry.unplaced, vertex ∉ registry.placed := fun vertex left placed =>
    (List.nodup_append.mp nodup).2.2 vertex placed vertex left rfl
  have kept : registry.unplaced.filter (fun vertex => !registry.placed.contains vertex) =
      registry.unplaced := by
    apply List.filter_eq_self.mpr
    intro vertex left
    simpa using apart vertex left
  have sublist := registry.unplaced_sublist.filter fun vertex => !registry.placed.contains vertex
  rw [kept] at sublist
  have subset : registry.vertices.filter (fun vertex => !registry.placed.contains vertex) ⊆
      registry.unplaced := by
    intro vertex member
    rcases List.mem_filter.mp member with ⟨known, other⟩
    have either := List.mem_append.mp (registry.placed_perm.mem_iff.mpr known)
    exact either.resolve_left (by simpa using other)
  have fewer := List.subperm_of_subset (sound.vertices_nodup.filter _) subset
  exact (sublist.eq_of_length_le fewer.length_le).symm

/-- The sort fails just if a vertex is left over, and reports those that
are. -/
theorem Sound.compute_eq (sound : registry.Sound) :
    VisitOrder.compute registry =
      if registry.unplaced = [] then
        .ok { vertices := registry.vertices, edges := registry.edges, walk := registry.placed }
      else .error (.cycle (registry.unplaced.map registry.nameOf)) := by
  have sorted : registry.sortedIds.map registry.unsorted.vertex? = registry.placed.map some :=
    sound.proper.counts.sort sound.proper _
  have walk : registry.sortedIds.filterMap registry.unsorted.vertex? = registry.placed := by
    have members := congrArg (List.filterMap id) sorted
    simpa [List.filterMap_map] using members
  have length : registry.sortedIds.length = registry.placed.length := by
    simpa using congrArg List.length sorted
  have total := registry.placed_perm.length_eq
  rw [List.length_append] at total
  have short : registry.sortedIds.length < registry.vertices.length ↔ registry.unplaced ≠ [] := by
    rw [← List.length_pos_iff]
    omega
  have result : VisitOrder.compute registry =
      if registry.sortedIds.length < registry.vertices.length then
        .error (.cycle ((registry.vertices.filter fun vertex =>
          !(registry.sortedIds.filterMap registry.unsorted.vertex?).contains vertex).map
            registry.nameOf))
      else .ok { registry.unsorted with
        walk := registry.sortedIds.filterMap registry.unsorted.vertex? } := rfl
  rw [result, walk, sound.filter_unplaced]
  by_cases complete : registry.unplaced = []
  · rw [if_pos complete, if_neg (fun less => short.mp less complete)]
    rfl
  · rw [if_neg complete, if_pos (short.mpr complete)]

theorem Sound.compute_ok (sound : registry.Sound) {order : VisitOrder}
    (computed : VisitOrder.compute registry = .ok order) :
    registry.unplaced = [] ∧ order =
      { vertices := registry.vertices, edges := registry.edges, walk := registry.placed } := by
  rw [sound.compute_eq] at computed
  by_cases complete : registry.unplaced = []
  · rw [if_pos complete] at computed
    exact ⟨complete, (Except.ok.inj computed).symm⟩
  · rw [if_neg complete] at computed
    cases computed

end Registry

namespace VisitOrder

theorem compute_isWalk {registry : Registry} (sound : registry.Sound) {order : VisitOrder}
    (computed : compute registry = .ok order) : registry.IsWalk order.walk := by
  rcases sound.compute_ok computed with ⟨complete, rfl⟩
  refine ⟨?_, sound.placed_nodup, ?_⟩
  · simpa [complete] using registry.placed_perm
  · intro visited rest split source target edge reached
    exact arrange_closed split edge reached (sound.edge_vertices edge).1

end VisitOrder

namespace Registry

variable {registry : Registry} {walk visited rest : List Vertex}

theorem IsWalk.not_mem_visited (isWalk : registry.IsWalk walk) {vertex : Vertex}
    (split : walk = visited ++ vertex :: rest) : vertex ∉ visited := by
  have nodup := isWalk.nodup
  rw [split] at nodup
  intro member
  exact (List.nodup_append.mp nodup).2.2 vertex member vertex List.mem_cons_self rfl

/-- Whatever a vertex depends on is visited before it. -/
theorem IsWalk.earlier (isWalk : registry.IsWalk walk) (sound : registry.Sound)
    {source target : Vertex} (split : walk = visited ++ target :: rest)
    (edge : (source, target) ∈ registry.edges) : source ∈ visited := by
  have through : walk = (visited ++ [target]) ++ rest := by
    rw [split, List.append_assoc, List.singleton_append]
  have member := isWalk.closed _ rest through source target edge
    (List.mem_append_right visited List.mem_cons_self)
  rcases List.mem_append.mp member with before | last
  · exact before
  · rw [List.mem_singleton.mp last] at edge
    rcases (mem_edges sound).mp edge with
      ⟨detector, topic, asDetector, asTopic, _⟩ | ⟨topic, detector, asTopic, asDetector, _⟩
    · cases asDetector.symm.trans asTopic
    · cases asDetector.symm.trans asTopic

theorem IsWalk.later (isWalk : registry.IsWalk walk) (sound : registry.Sound)
    {source target : Vertex} (split : walk = visited ++ source :: rest)
    (edge : (source, target) ∈ registry.edges) : target ∉ visited ++ [source] := by
  have unvisited := isWalk.not_mem_visited split
  intro member
  rcases List.mem_append.mp member with before | last
  · exact unvisited (isWalk.closed visited _ split source target edge before)
  · rw [List.mem_singleton.mp last] at edge
    exact unvisited (isWalk.earlier sound split edge)

theorem IsWalk.beyond (isWalk : registry.IsWalk walk) (sound : registry.Sound)
    {source middle target : Vertex} (split : walk = visited ++ source :: rest)
    (first : (source, middle) ∈ registry.edges) (second : (middle, target) ∈ registry.edges) :
    target ∉ visited ++ [source] := by
  have through : walk = (visited ++ [source]) ++ rest := by
    rw [split, List.append_assoc, List.singleton_append]
  intro member
  exact isWalk.later sound split first (isWalk.closed _ rest through middle target second member)

/-- Nothing on the walk depends on what comes behind it. -/
theorem IsWalk.pairwise (isWalk : registry.IsWalk walk) :
    walk.Pairwise fun earlier later => (later, earlier) ∉ registry.edges := by
  suffices upTo : ∀ visited rest, walk = visited ++ rest →
      visited.Pairwise fun earlier later => (later, earlier) ∉ registry.edges from
    upTo walk [] (List.append_nil walk).symm
  intro visited
  induction visited using List.reverseRecOn with
  | nil =>
      intro _ _
      exact List.Pairwise.nil
  | append_singleton visited vertex ih =>
      intro rest split
      have split : walk = visited ++ vertex :: rest := by
        rw [split, List.append_assoc, List.singleton_append]
      refine List.pairwise_append.mpr ⟨ih _ split, List.pairwise_singleton _ _, ?_⟩
      intro earlier before later last edge
      rw [List.mem_singleton.mp last] at edge
      exact isWalk.not_mem_visited split (isWalk.closed visited _ split _ _ edge before)

theorem IsWalk.topic_mem (isWalk : registry.IsWalk walk) {topic : Payload} :
    .topic topic ∈ walk ↔ registry.hasTopic topic = true :=
  isWalk.perm.mem_iff.trans topic_mem_vertices

theorem IsWalk.detector_mem (isWalk : registry.IsWalk walk) {detector : DetectorId} :
    .detector detector ∈ walk ↔ detector < registry.detectors.length :=
  isWalk.perm.mem_iff.trans detector_mem_vertices

end Registry
end ReactiveGraph
