import Mathlib.Logic.Relation
import ReactiveGraph.Proofs.Newcomers
import ReactiveGraph.Proofs.Numbering

namespace ReactiveGraph

/-!
# Construction order breaks ties

The walk takes up, at each point, the vertex with the lowest number among
those that nothing holds back.  Suppose that a detector and all that is
upstream of it were constructed before some other detector.  Then the topics
in between were numbered before that other detector, too, and as long as the
first one is not placed, some vertex on the way to it is free and has a lower
number than the other detector.  So the other detector has to wait.
-/

namespace VisitOrder

/-- When a vertex is placed, any other one that nothing holds back waits
behind it. -/
theorem arrange_first {edges : List (Vertex × Vertex)} {count : Nat}
    {waiting visited rest : List Vertex} (nodup : waiting.Nodup) {vertex other : Vertex}
    (placed : (arrange edges count waiting).1 = visited ++ vertex :: rest)
    (waits : other ∈ waiting) (unplaced : other ∉ visited)
    (free : ∀ source, (source, other) ∈ edges → source ∈ waiting → source ∈ visited) :
    other = vertex ∨ [vertex, other].Sublist waiting := by
  induction count generalizing waiting visited with
  | zero => simp [arrange] at placed
  | succ count ih =>
      rw [arrange] at placed
      cases found : waiting.find? (isReady edges waiting) with
      | none => simp [found] at placed
      | some first =>
          rw [found] at placed
          cases visited with
          | nil =>
              rcases List.cons.inj placed with ⟨rfl, _⟩
              rcases List.find?_eq_some_iff_append.mp found with ⟨_, front, back, split, held⟩
              have ready : isReady edges waiting other = true :=
                isReady_iff.mpr fun source edge waits =>
                  List.not_mem_nil (free source edge waits)
              have notBefore : other ∉ front := fun member => by
                simpa [ready] using held other member
              rw [split] at waits ⊢
              have later : other ∈ first :: back :=
                (List.mem_append.mp waits).resolve_left notBefore
              rcases List.mem_cons.mp later with same | behind
              · exact Or.inl same
              · exact Or.inr (((List.singleton_sublist.mpr behind).cons_cons first).trans
                  (List.sublist_append_right front _))
          | cons head tail =>
              rcases List.cons.inj placed with ⟨rfl, later⟩
              rw [List.mem_cons, not_or] at unplaced
              rcases unplaced with ⟨different, unplaced⟩
              have still : other ∈ waiting.erase first := (List.mem_erase_of_ne different).mpr waits
              have freed : ∀ source, (source, other) ∈ edges → source ∈ waiting.erase first →
                  source ∈ tail := by
                intro source edge member
                rcases nodup.mem_erase_iff.mp member with ⟨distinct, before⟩
                exact (List.mem_cons.mp (free source edge before)).resolve_left distinct
              exact (ih (nodup.erase first) later still unplaced freed).imp_right fun behind =>
                behind.trans List.erase_sublist

/-- Where a walk takes up a vertex, any other one whose dependencies have all
been visited was registered later. -/
theorem compute_first {registry : Registry} (sound : registry.Sound) {order : VisitOrder}
    (computed : compute registry = .ok order) {visited rest : List Vertex} {vertex other : Vertex}
    (split : order.walk = visited ++ vertex :: rest) (known : other ∈ registry.vertices)
    (unvisited : other ∉ visited)
    (free : ∀ source, (source, other) ∈ registry.edges → source ∈ visited) :
    other = vertex ∨ [vertex, other].Sublist registry.vertices := by
  rcases sound.compute_ok computed with ⟨_, rfl⟩
  exact arrange_first sound.vertices_nodup split known unvisited fun source edge _ =>
    free source edge

def CallsBefore (order : VisitOrder) (first second : DetectorId) : Prop :=
  [first, second].Sublist order.detectors

end VisitOrder

namespace Registry

section

variable {registry : Registry}

/-- The number that a vertex drew when it was registered. -/
def sequenceOf (registry : Registry) : Vertex → Nat
  | .topic topic => (registry.topic? topic).elim 0 TopicRecord.sequence
  | .detector detector => (registry.detectors[detector]?).elim 0 DetectorRecord.sequence

theorem Sound.sequenceOf_eq (sound : registry.Sound) {number : Nat} {vertex : Vertex}
    (numbered : (number, vertex) ∈ registry.numberedVertices) :
    registry.sequenceOf vertex = number := by
  rcases List.mem_append.mp numbered with topic | detector
  · rcases List.mem_map.mp topic with ⟨entry, member, same⟩
    cases same
    rw [sequenceOf, sound.topic?_payload member]
    rfl
  · rcases List.mem_map.mp detector with ⟨⟨record, id⟩, member, same⟩
    cases same
    rw [sequenceOf, List.mk_mem_zipIdx_iff_getElem?.mp member]
    rfl

theorem numbers_numberedVertices (registry : Registry) :
    registry.numberedVertices.map Prod.fst = registry.sequences := by
  rw [numberedVertices, List.map_append, List.map_map, List.map_map, sequences]
  congr 1
  conv_rhs => rw [← List.zipIdx_map_fst 0 registry.detectors, List.map_map]
  rfl

/-- The vertices come in the order of their numbers, which are all
different. -/
theorem Numbered.vertices_rising (numbered : registry.Numbered) (sound : registry.Sound) :
    registry.vertices.Pairwise fun first second =>
      registry.sequenceOf first < registry.sequenceOf second := by
  have perm := List.perm_insertionSort (fun a b => a.1 ≤ b.1) registry.numberedVertices
  have total : Std.Total fun a b : Nat × Vertex => a.1 ≤ b.1 := ⟨fun a b => Nat.le_total a.1 b.1⟩
  have transitive : IsTrans (Nat × Vertex) fun a b => a.1 ≤ b.1 := ⟨fun _ _ _ => Nat.le_trans⟩
  have weakly := List.pairwise_insertionSort (fun a b => a.1 ≤ b.1) registry.numberedVertices
  have distinct := (perm.map Prod.fst).nodup_iff.mpr
    (registry.numbers_numberedVertices ▸ numbered.distinct)
  rw [vertices, Sorting.sort_eq_insertionSort]
  apply List.pairwise_map.mpr
  refine (weakly.and (List.pairwise_map.mp distinct)).imp_of_mem fun inA inB order => ?_
  rw [sound.sequenceOf_eq (perm.mem_iff.mp inA), sound.sequenceOf_eq (perm.mem_iff.mp inB)]
  exact Nat.lt_of_le_of_ne order.1 order.2

end

/-! ## Upstream -/

def Leads (registry : Registry) (source target : Vertex) : Prop :=
  (source, target) ∈ registry.edges

/-- The target can be reached from the source through immediate publications
and subscriptions. -/
def Upstream (registry : Registry) : Vertex → Vertex → Prop :=
  Relation.TransGen registry.Leads

/-- The detector subscribes to a topic that someone publishes within the
pass. -/
def hearsNow (registry : Registry) (detector : DetectorId) : Bool :=
  registry.topics.any fun entry => entry.subscribes detector && entry.isFedNow

/-- No detector is upstream of one whose topics nobody publishes within the
pass. -/
theorem Sound.not_upstream {registry : Registry} (sound : registry.Sound)
    {detector : DetectorId} (deaf : registry.hearsNow detector = false) (other : DetectorId) :
    ¬registry.Upstream (.detector other) (.detector detector) := by
  intro upstream
  rcases Relation.TransGen.tail'_iff.mp upstream with ⟨middle, way, last⟩
  rcases (mem_edges sound).mp last with ⟨_, _, _, wrong, _⟩ | ⟨topic, id, rfl, same, subscribed⟩
  · cases wrong
  · cases same
    rcases Relation.ReflTransGen.cases_tail way with wrong | ⟨publisher, _, feeds⟩
    · cases wrong
    · rcases (mem_edges sound).mp feeds with ⟨id, fed, _, same, declared⟩ | ⟨_, _, _, wrong, _⟩
      · cases same
        rcases topic?_of_mem_subscribers subscribed with ⟨entry, found, subscriber⟩
        have published : (id, Timing.immediate) ∈ entry.publishers := by
          rw [isDeclared_iff, publishers, found] at declared
          exact declared
        have hears : registry.hearsNow detector = true := by
          refine List.any_eq_true.mpr ⟨entry, mem_of_topic? found, ?_⟩
          rw [Bool.and_eq_true, TopicRecord.subscribes, TopicRecord.isFedNow]
          exact ⟨List.contains_iff_mem.mpr subscriber, List.any_eq_true.mpr ⟨_, published, rfl⟩⟩
        exact Bool.false_ne_true (deaf.symm.trans hears)
      · cases wrong

section

variable {registry : Registry} {first second : DetectorId}

/-- If all detectors on the way to the first one come before the second one,
the vertices on the way have lower numbers. -/
theorem Numbered.lower (numbered : registry.Numbered) (sound : registry.Sound)
    (below : ∀ other, Relation.ReflTransGen registry.Leads (.detector other) (.detector first) →
      other < second)
    {record : DetectorRecord} (found : registry.detectors[second]? = some record) {vertex : Vertex}
    (way : Relation.ReflTransGen registry.Leads vertex (.detector first)) :
    registry.sequenceOf vertex < record.sequence := by
  cases vertex with
  | detector other =>
      have before : other < second := below other way
      have known := Nat.lt_trans before (List.getElem?_eq_some_iff.mp found).1
      have placed := List.getElem?_eq_getElem known
      rw [sequenceOf, placed]
      exact numbered.sequence_lt before placed found
  | topic topic =>
      rcases way.cases_head with wrong | ⟨next, leads, way⟩
      · cases wrong
      · rcases (mem_edges sound).mp leads with ⟨_, _, wrong, _⟩ | ⟨_, other, same, rfl, subscribed⟩
        · cases wrong
        · cases same
          rcases topic?_of_mem_subscribers subscribed with ⟨entry, known, subscriber⟩
          rw [sequenceOf, known]
          exact numbered.timely entry (mem_of_topic? known) other subscriber second record
            (below other way) found

/-- If all detectors on the way to the first one come before the second one,
then on the walk the first one does. -/
theorem Numbered.walks_before (numbered : registry.Numbered) (sound : registry.Sound)
    {order : VisitOrder} (computed : VisitOrder.compute registry = .ok order)
    (known : second < registry.detectors.length)
    (below : ∀ other, Relation.ReflTransGen registry.Leads (.detector other) (.detector first) →
      other < second) :
    [.detector first, .detector second].Sublist order.walk := by
  have isWalk := VisitOrder.compute_isWalk sound computed
  have placed := List.getElem?_eq_getElem known
  have before : first < second := below first .refl
  rcases List.append_of_mem (isWalk.detector_mem.mpr known) with ⟨visited, rest, split⟩
  -- Going along the walk, whatever is on the way to the first detector turns
  -- out to have been visited when the second detector is.
  have reached : ∀ front back, order.walk = front ++ back → ∀ vertex ∈ front,
      Relation.ReflTransGen registry.Leads vertex (.detector first) → vertex ∈ visited := by
    intro front
    induction front using List.reverseRecOn with
    | nil =>
        intro _ _ vertex member
        cases member
    | append_singleton front vertex ih =>
        intro back through other member way
        have through : order.walk = front ++ vertex :: back := by
          rw [through, List.append_assoc, List.singleton_append]
        rcases List.mem_append.mp member with inFront | last
        · exact ih _ through other inFront way
        · rw [List.mem_singleton.mp last] at way ⊢
          by_contra unvisited
          have free : ∀ source, (source, vertex) ∈ registry.edges → source ∈ visited := by
            intro source edge
            exact ih _ through source (isWalk.earlier sound through edge) (way.head edge)
          have present : vertex ∈ order.walk := by
            rw [through]
            exact List.mem_append_right _ List.mem_cons_self
          rcases VisitOrder.compute_first sound computed split (isWalk.perm.mem_iff.mp present)
              unvisited free with rfl | behind
          · exact Nat.lt_irrefl _ (below second way)
          · have higher := List.pairwise_iff_forall_sublist.mp
              (numbered.vertices_rising sound) behind
            rw [sequenceOf, placed] at higher
            exact Nat.lt_asymm higher (numbered.lower sound below placed way)
  have visitedFirst : .detector first ∈ visited := by
    have inWalk := isWalk.detector_mem.mpr (Nat.lt_trans before known)
    exact reached order.walk [] (List.append_nil _).symm _ inWalk .refl
  rw [split]
  exact VisitOrder.pair_sublist visitedFirst

end

/-- The walk keeps to the order in which the detectors have joined, as far as
the edges allow.  A detector comes before one that joined later, if so did all
that is upstream of it; those whose topics nobody publishes within the pass
keep the order in which they joined. -/
structure FollowsConstruction (registry : Registry) (joined : List DetectorId)
    (order : VisitOrder) : Prop where
  nodup : order.walk.Nodup
  everyone : order.detectors.Perm joined
  precedes : ∀ first second, [first, second].Sublist joined →
    (∀ other, registry.Upstream (.detector other) (.detector first) →
      [other, second].Sublist joined) →
    [.detector first, .detector second].Sublist order.walk
  sources : order.detectors.filter (fun detector => !registry.hearsNow detector) =
    joined.filter fun detector => !registry.hearsNow detector

theorem pair_sublist_range {first second count : Nat} :
    [first, second].Sublist (List.range count) ↔ first < second ∧ second < count := by
  constructor
  · intro sub
    refine ⟨List.pairwise_iff_forall_sublist.mp List.pairwise_lt_range sub, ?_⟩
    exact List.mem_range.mp (sub.subset (by simp))
  · rintro ⟨before, known⟩
    have split : count = second + (count - second - 1 + 1) := by omega
    rw [split, List.range_add, List.range_succ_eq_map]
    apply (List.singleton_sublist.mpr (List.mem_range.mpr before)).append
    simp

theorem pair_asymm {β : Type} {first second : β} {items : List β} (nodup : items.Nodup)
    (before : [first, second].Sublist items) : ¬[second, first].Sublist items := by
  intro after
  induction items with
  | nil => cases before
  | cons head tail ih =>
      rcases List.nodup_cons.mp nodup with ⟨fresh, nodup⟩
      cases before with
      | cons _ before =>
          cases after with
          | cons _ after => exact ih nodup before after
          | cons_cons _ after => exact fresh (before.subset (by simp))
      | cons_cons _ before =>
          cases after with
          | cons _ after => exact fresh (after.subset (by simp))
          | cons_cons _ after => exact fresh (before.subset (by simp))

theorem IsWalk.detectors_perm {registry : Registry} {order : VisitOrder}
    (isWalk : registry.IsWalk order.walk) :
    order.detectors.Perm (List.range registry.detectors.length) := by
  have perm : order.detectors.Perm _ := (isWalk.perm.trans registry.vertices_perm).filterMap _
  rw [List.filterMap_append, List.filterMap_map, List.filterMap_map] at perm
  simpa [Function.comp_def] using perm

section

variable {registry : Registry} {order : VisitOrder}

theorem Numbered.precedes (numbered : registry.Numbered) (sound : registry.Sound)
    (computed : VisitOrder.compute registry = .ok order) {first second : DetectorId}
    (before : first < second) (known : second < registry.detectors.length)
    (upstream : ∀ other, registry.Upstream (.detector other) (.detector first) →
      other < second) :
    [.detector first, .detector second].Sublist order.walk := by
  apply numbered.walks_before sound computed known
  intro other way
  rcases Relation.reflTransGen_iff_eq_or_transGen.mp way with same | above
  · cases same
    exact before
  · exact upstream other above

/-- Detectors that nothing is upstream of come in the order of their
identifiers. -/
theorem Numbered.sources (numbered : registry.Numbered) (sound : registry.Sound)
    (computed : VisitOrder.compute registry = .ok order) :
    order.detectors.filter (fun detector => !registry.hearsNow detector) =
      (List.range registry.detectors.length).filter fun detector =>
        !registry.hearsNow detector := by
  have perm := (VisitOrder.compute_isWalk sound computed).detectors_perm
  have visited : order.detectors.Pairwise order.CallsBefore :=
    List.pairwise_iff_forall_sublist.mpr fun before => before
  have joined : ((List.range registry.detectors.length).filter fun detector =>
      !registry.hearsNow detector).Pairwise order.CallsBefore := by
    apply List.pairwise_iff_forall_sublist.mpr
    intro first second before
    have deaf : registry.hearsNow first = false := by
      have member : first ∈ [first, second] := List.mem_cons_self
      simpa using (List.mem_filter.mp (before.subset member)).2
    rcases pair_sublist_range.mp (before.trans List.filter_sublist) with ⟨before, known⟩
    have walked : List.Sublist _ order.detectors :=
      (numbered.precedes sound computed before known fun other above =>
        absurd above (sound.not_upstream deaf other)).filterMap _
    exact walked
  -- Both lists have the same members and are arranged by the walk.
  apply List.Perm.eq_of_pairwise ?_ (visited.filter _) joined (perm.filter _)
  intro first second _ _ before after
  exact absurd after (pair_asymm (perm.nodup_iff.mpr List.nodup_range) before)

theorem Numbered.followsConstruction (numbered : registry.Numbered) (sound : registry.Sound)
    (computed : VisitOrder.compute registry = .ok order) :
    registry.FollowsConstruction (List.range registry.detectors.length) order := by
  have isWalk := VisitOrder.compute_isWalk sound computed
  refine ⟨isWalk.nodup, isWalk.detectors_perm, ?_, numbered.sources sound computed⟩
  intro first second joined upstream
  rcases pair_sublist_range.mp joined with ⟨before, known⟩
  exact numbered.precedes sound computed before known fun other above =>
    (pair_sublist_range.mp (upstream other above)).1

end

end Registry

namespace Graph

variable {α σ : Type}

/-- Whatever has been done to a graph, its order of evaluation keeps to the
order of construction, as far as the edges allow. -/
theorem construction_breaks_ties (config : Config) (operations : List (Operation α σ))
    {order : VisitOrder} (ordered : (run operations (ofConfig config)).state.order? = some order) :
    (run operations (ofConfig config)).state.registry.FollowsConstruction
      ((newcomers operations (ofConfig config)).map Prod.fst) order := by
  have reachable : (run operations (ofConfig config)).state.Reachable := ⟨config, operations, rfl⟩
  have coherent := reachable.coherent
  rw [order?] at ordered
  split at ordered
  next closed =>
    cases ordered
    rw [roster_history, roster_ids, ← Live.length_shapes, coherent.fits.count]
    exact reachable.numbered.followsConstruction coherent.registry (coherent.order closed)
  next => cases ordered

/-- The first detector hears of a topic that the second one publishes, and a
third one does not depend on either.  Another one between them fails to
join. -/
def crossing : List (Operation Nat Unit) :=
  [.resolve (.plain "out"), .add (.relay [.plain "mid"] [.plain "out"]),
    .add (.relay [.plain "in"] [.plain "in"]), .add (.relay [.plain "in"] [.plain "mid"]),
    .addLag (.plain "in"), .close]

/-- The first detector has to wait for the second one, but comes before the
third, since all that is upstream of it was constructed before that. -/
theorem crossing_ordered :
    ∃ order, (run crossing (ofConfig {})).state.order? = some order ∧
      order.detectors = [1, 0, 2] ∧
      (run crossing (ofConfig {})).state.registry.FollowsConstruction
        ((newcomers crossing (ofConfig {})).map Prod.fst) order :=
  ⟨_, rfl, by decide +kernel, construction_breaks_ties {} crossing rfl⟩

end Graph
end ReactiveGraph
