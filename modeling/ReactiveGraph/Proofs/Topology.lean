import Mathlib.Data.List.Nodup
import Mathlib.Data.List.Perm.Basic
import ReactiveGraph.Proofs.LeastOrder
import ReactiveGraph.Topology

namespace ReactiveGraph

/-!
# The picture of a graph

A picture shows each topic and each detector once, and between them the edges
that the registry has: those to the subscribers of a topic and those from its
publishers, immediate or delayed.  It collects the edges from where they
begin, vertex by vertex, while the registry keeps all of them with their
topics.  Where there is an order of evaluation, every arrow that is not
delayed points forward.
-/

namespace Topology

theorem flatMap_only {κ β : Type} [DecidableEq κ] {keys : List κ} (nodup : keys.Nodup) {key : κ}
    (member : key ∈ keys) (item : β) :
    (keys.flatMap fun other => if key = other then [item] else []) = [item] := by
  rcases List.append_of_mem member with ⟨front, back, rfl⟩
  rcases List.nodup_append.mp nodup with ⟨_, notBehind, notBefore⟩
  have inFront : (front.flatMap fun other => if key = other then [item] else []) = [] := by
    rw [List.flatMap_eq_nil_iff]
    intro other before
    exact if_neg fun same : key = other =>
      notBefore other before key List.mem_cons_self same.symm
  have inBack : (back.flatMap fun other => if key = other then [item] else []) = [] := by
    rw [List.flatMap_eq_nil_iff]
    intro other behind
    exact if_neg fun same : key = other => (List.nodup_cons.mp notBehind).1 (same ▸ behind)
  rw [List.flatMap_append, List.flatMap_cons, inFront, inBack, if_pos rfl]
  rfl

/-- Items collected key by key are all the items there are. -/
theorem collect_perm {κ α β : Type} [DecidableEq κ] {keys : List κ} (nodup : keys.Nodup)
    (key : α → κ) (form : α → β) {items : List α} (covered : ∀ item ∈ items, key item ∈ keys) :
    (keys.flatMap fun other => (items.filter fun item => key item = other).map form).Perm
      (items.map form) := by
  induction items with
  | nil => simp
  | cons item rest ih =>
      have split : (fun other => ((item :: rest).filter fun item => key item = other).map form) =
          fun other => (if key item = other then [form item] else []) ++
            (rest.filter fun item => key item = other).map form := by
        funext other
        by_cases same : key item = other <;> simp [same]
      rw [split]
      refine (List.flatMap_append_perm keys _ _).symm.trans ?_
      rw [flatMap_only nodup (covered item List.mem_cons_self)]
      exact (ih fun other later => covered other (List.mem_cons_of_mem item later)).cons _

/-- Items may be collected row by row or column by column. -/
theorem flatMap_swap {κ α β : Type} (rows : List κ) (columns : List α) (cell : κ → α → List β) :
    (rows.flatMap fun row => columns.flatMap (cell row)).Perm
      (columns.flatMap fun column => rows.flatMap fun row => cell row column) := by
  induction columns with
  | nil => simp
  | cons column rest ih =>
      simp only [List.flatMap_cons]
      exact (List.flatMap_append_perm rows _ _).symm.trans (ih.append_left _)

end Topology

namespace Registry

/-- What a vertex is to a tool, as its edges tell. -/
inductive Plays (registry : Registry) : Vertex → Topology.Role → Prop where
  | input {topic : Payload}
      (unfed : ∀ detector, (detector, Timing.immediate) ∉ registry.publishers topic) :
      Plays registry (.topic topic) .inputTopic
  | output {topic : Payload} {detector : DetectorId}
      (fed : (detector, Timing.immediate) ∈ registry.publishers topic)
      (unheard : registry.subscribers topic = []) :
      Plays registry (.topic topic) .outputTopic
  | internal {topic : Payload} {detector : DetectorId}
      (fed : (detector, Timing.immediate) ∈ registry.publishers topic)
      (heard : registry.subscribers topic ≠ []) :
      Plays registry (.topic topic) .internalTopic
  | detector (detector : DetectorId) : Plays registry (.detector detector) .detector

theorem plays_roleOf (registry : Registry) (vertex : Vertex) :
    registry.Plays vertex (Topology.roleOf registry vertex) := by
  cases vertex with
  | detector detector => exact .detector detector
  | topic topic =>
      rw [Topology.roleOf]
      cases found : registry.topic? topic with
      | none =>
          refine .input fun detector member => ?_
          rw [publishers, found] at member
          cases member
      | some entry =>
          have publishers : registry.publishers topic = entry.publishers := by
            rw [publishers, found]
            rfl
          have subscribers : registry.subscribers topic = entry.subscribers := by
            rw [subscribers, found]
            rfl
          rw [Option.elim_some, Topology.roleOfTopic]
          cases fedNow : entry.isFedNow with
          | false =>
              refine .input fun detector member => ?_
              rw [TopicRecord.isFedNow, List.any_eq_false] at fedNow
              rw [publishers] at member
              exact fedNow _ member (decide_eq_true rfl)
          | true =>
              rcases List.any_eq_true.mp fedNow with ⟨⟨detector, timing⟩, member, immediate⟩
              have timely : timing = .immediate := of_decide_eq_true immediate
              rw [timely, ← publishers] at member
              cases heard : entry.subscribers with
              | nil => exact .output member (subscribers.trans heard)
              | cons subscriber others =>
                  refine .internal member ?_
                  rw [subscribers, heard]
                  exact List.cons_ne_nil subscriber others

end Registry

namespace Topology

def toSubscriber (rank : Vertex → Nat) (topic : Payload) (subscriber : DetectorId) : Arrow where
  source := rank (.topic topic)
  target := rank (.detector subscriber)
  delayed := false

def fromPublisher (rank : Vertex → Nat) (topic : Payload) (publisher : DetectorId × Timing) :
    Arrow where
  source := rank (.detector publisher.1)
  target := rank (.topic topic)
  delayed := publisher.2 = .delayed

/-- The arrows between a topic and its subscribers and publishers. -/
def arrowsAt (rank : Vertex → Nat) (entry : TopicRecord) : List Arrow :=
  entry.subscribers.map (toSubscriber rank entry.payload) ++
    entry.publishers.map (fromPublisher rank entry.payload)

def arrowsFrom (registry : Registry) (rank : Vertex → Nat) (vertex : Vertex) : List Arrow :=
  (outgoing registry vertex).map fun edge =>
    { source := rank vertex, target := rank edge.1, delayed := edge.2 }

theorem arrowsFrom_detector (registry : Registry) (rank : Vertex → Nat) (detector : DetectorId) :
    arrowsFrom registry rank (.detector detector) =
      registry.topics.flatMap fun entry =>
        (entry.publishers.filter fun publisher => publisher.1 = detector).map
          (fromPublisher rank entry.payload) := by
  rw [arrowsFrom, outgoing, List.map_flatMap]
  apply List.flatMap_congr
  intro entry _
  rw [List.map_map]
  apply List.map_congr_left
  intro publisher member
  have same : publisher.1 = detector := by simpa using (List.mem_filter.mp member).2
  rw [fromPublisher, same]
  rfl

end Topology

namespace Registry

theorem topic_mem_members {registry : Registry} {entry : TopicRecord}
    (member : entry ∈ registry.topics) : .topic entry.payload ∈ registry.members :=
  List.mem_append_left _ (List.mem_map_of_mem member)

theorem detector_mem_members {registry : Registry} {detector : DetectorId}
    (known : detector < registry.detectors.length) : .detector detector ∈ registry.members :=
  List.mem_append_right _ (List.mem_map_of_mem (List.mem_range.mpr known))

/-- The arrows that leave the vertices are those of the topics. -/
theorem Sound.arrows_perm {registry : Registry} (sound : registry.Sound) (rank : Vertex → Nat) :
    (registry.members.flatMap (Topology.arrowsFrom registry rank)).Perm
      (registry.topics.flatMap (Topology.arrowsAt rank)) := by
  have topics : (registry.topics.map fun entry => Vertex.topic entry.payload).flatMap
      (Topology.arrowsFrom registry rank) =
        registry.topics.flatMap fun entry =>
          entry.subscribers.map (Topology.toSubscriber rank entry.payload) := by
    rw [List.flatMap_map]
    apply List.flatMap_congr
    intro entry member
    rw [Topology.arrowsFrom, Topology.outgoing, subscribers, sound.topic?_payload member,
      List.map_map]
    rfl
  have detectors : (((List.range registry.detectors.length).map Vertex.detector).flatMap
      (Topology.arrowsFrom registry rank)).Perm
        (registry.topics.flatMap fun entry =>
          entry.publishers.map (Topology.fromPublisher rank entry.payload)) := by
    rw [List.flatMap_map]
    simp only [Topology.arrowsFrom_detector]
    refine (Topology.flatMap_swap _ _ _).trans (List.Perm.flatMap_left _ fun entry member => ?_)
    exact Topology.collect_perm List.nodup_range Prod.fst _ fun publisher publishes =>
      List.mem_range.mpr ((sound.entries entry member).publishers_known publisher publishes)
  rw [members, List.flatMap_append, topics]
  exact (detectors.append_left _).trans (List.flatMap_append_perm registry.topics _ _)

/-- Each arrow joins the topic and one of the detectors. -/
theorem Sound.ends {registry : Registry} (sound : registry.Sound) {rank : Vertex → Nat}
    {entry : TopicRecord} (member : entry ∈ registry.topics) {arrow : Topology.Arrow}
    (drawn : arrow ∈ Topology.arrowsAt rank entry) :
    ∃ detector, .detector detector ∈ registry.members ∧
      (arrow.source = rank (.topic entry.payload) ∧ arrow.target = rank (.detector detector) ∨
        arrow.source = rank (.detector detector) ∧ arrow.target = rank (.topic entry.payload)) := by
  have entered := sound.entries entry member
  rcases List.mem_append.mp drawn with heard | published
  · rcases List.mem_map.mp heard with ⟨subscriber, subscribed, rfl⟩
    exact ⟨subscriber, detector_mem_members (entered.subscribers_known subscriber subscribed),
      Or.inl ⟨rfl, rfl⟩⟩
  · rcases List.mem_map.mp published with ⟨publisher, publishes, rfl⟩
    exact ⟨publisher.1, detector_mem_members (entered.publishers_known publisher publishes),
      Or.inr ⟨rfl, rfl⟩⟩

/-- The ranks tell the vertices of the registry. -/
def Ranks (registry : Registry) (rank : Vertex → Nat) : Prop :=
  ∀ first ∈ registry.members, ∀ second ∈ registry.members, rank first = rank second →
    first = second

theorem Sound.arrowsAt_nodup {registry : Registry} (sound : registry.Sound) {rank : Vertex → Nat}
    (ranks : registry.Ranks rank) {entry : TopicRecord} (member : entry ∈ registry.topics) :
    (Topology.arrowsAt rank entry).Nodup := by
  have entered := sound.entries entry member
  have told : ∀ detector other, detector < registry.detectors.length →
      other < registry.detectors.length →
        rank (.detector detector) = rank (.detector other) → detector = other :=
    fun _ _ known knownToo same => Vertex.detector.inj
      (ranks _ (detector_mem_members known) _ (detector_mem_members knownToo) same)
  refine List.nodup_append.mpr ⟨?_, ?_, ?_⟩
  · refine entered.subscribers_nodup.map_on fun first isFirst second isSecond same => ?_
    exact told first second (entered.subscribers_known first isFirst)
      (entered.subscribers_known second isSecond) (Topology.Arrow.mk.inj same).2.1
  · -- A detector publishes a topic once, so the arrows differ by where they begin.
    refine List.Nodup.of_map Topology.Arrow.source ?_
    have sources :
        (entry.publishers.map (Topology.fromPublisher rank entry.payload)).map
            Topology.Arrow.source =
          (entry.publishers.map Prod.fst).map fun detector => rank (.detector detector) := by
      rw [List.map_map, List.map_map]
      rfl
    rw [sources]
    refine entered.publishers_nodup.map_on fun first isFirst second isSecond same => ?_
    rcases List.mem_map.mp isFirst with ⟨one, publishes, rfl⟩
    rcases List.mem_map.mp isSecond with ⟨two, publishesToo, rfl⟩
    exact told _ _ (entered.publishers_known one publishes)
      (entered.publishers_known two publishesToo) same
  · intro arrow heard other published same
    rcases List.mem_map.mp heard with ⟨subscriber, _, rfl⟩
    rcases List.mem_map.mp published with ⟨publisher, publishes, rfl⟩
    have known := detector_mem_members (entered.publishers_known publisher publishes)
    cases ranks _ (topic_mem_members member) _ known (Topology.Arrow.mk.inj same).1

/-- No arrow is drawn twice. -/
theorem Sound.arrows_nodup {registry : Registry} (sound : registry.Sound) {rank : Vertex → Nat}
    (ranks : registry.Ranks rank) : (registry.topics.flatMap (Topology.arrowsAt rank)).Nodup := by
  refine List.nodup_flatMap.mpr ⟨fun entry member => sound.arrowsAt_nodup ranks member, ?_⟩
  have apart : registry.topics.Pairwise fun first second => first.payload ≠ second.payload :=
    List.pairwise_map.mp sound.distinct
  refine apart.imp_of_mem fun {first second} isFirst isSecond different => ?_
  intro arrow drawn drawnToo
  have one := topic_mem_members isFirst
  have two := topic_mem_members isSecond
  rcases sound.ends isFirst drawn with ⟨detector, known, ⟨source, target⟩ | ⟨source, target⟩⟩ <;>
    rcases sound.ends isSecond drawnToo with ⟨other, knownToo, ⟨sourceToo, targetToo⟩ |
      ⟨sourceToo, targetToo⟩⟩
  · exact different (Vertex.topic.inj (ranks _ one _ two (source.symm.trans sourceToo)))
  · cases ranks _ one _ knownToo (source.symm.trans sourceToo)
  · cases ranks _ known _ two (source.symm.trans sourceToo)
  · exact different (Vertex.topic.inj (ranks _ one _ two (target.symm.trans targetToo)))

/-- Along an arrangement, only delayed arrows can point backward. -/
theorem Arranges.forward {registry : Registry} {walk : List Vertex}
    (arranges : registry.Arranges walk) (sound : registry.Sound) {arrow : Topology.Arrow}
    (drawn : arrow ∈ registry.topics.flatMap (Topology.arrowsAt walk.idxOf))
    (immediate : arrow.delayed = false) : arrow.source < arrow.target := by
  have rising : walk.Pairwise fun first second => walk.idxOf first < walk.idxOf second := by
    rw [List.pairwise_iff_getElem]
    intro i j _ _ smaller
    rw [arranges.nodup.idxOf_getElem, arranges.nodup.idxOf_getElem]
    exact smaller
  have follows : ∀ source target, registry.Precedes source target →
      walk.idxOf source < walk.idxOf target := fun source target precedes =>
    List.pairwise_iff_forall_sublist.mp rising (arranges.ordered source target precedes)
  rcases List.mem_flatMap.mp drawn with ⟨entry, member, drawn⟩
  have found := sound.topic?_payload member
  rcases List.mem_append.mp drawn with heard | published
  · rcases List.mem_map.mp heard with ⟨subscriber, subscribed, rfl⟩
    apply follows
    apply Precedes.subscription
    rw [subscribers, found]
    exact subscribed
  · rcases List.mem_map.mp published with ⟨⟨publisher, timing⟩, publishes, rfl⟩
    have timely : timing = .immediate := by
      cases timing with
      | immediate => rfl
      | delayed => cases immediate
    rw [timely] at publishes
    apply follows
    apply Precedes.publication
    rw [isDeclared_iff, publishers, found]
    exact publishes

end Registry

/-! ## The picture -/

namespace Topology

theorem zipIdx_ranked {ranked : List Vertex} (nodup : ranked.Nodup) :
    ranked.zipIdx = ranked.map fun vertex => (vertex, ranked.idxOf vertex) := by
  apply List.ext_getElem
  · simp
  · intro position _ _
    simp [nodup.idxOf_getElem]

theorem arrowsOf_eq (registry : Registry) {ranked : List Vertex} (nodup : ranked.Nodup) :
    arrowsOf registry ranked = ranked.flatMap (arrowsFrom registry ranked.idxOf) := by
  rw [arrowsOf, zipIdx_ranked nodup, List.flatMap_map]
  rfl

/-- The picture shows what the registry has, with the vertices in the given
order: every topic and every detector once, and one arrow for each subscriber
and each publisher of a topic.  In a picture with an order of evaluation, only
delayed arrows can point backward; in one without, the vertices come as they
were registered. -/
structure Depicts (registry : Registry) (ranked : List Vertex) (topology : Topology) : Prop where
  everyone : ranked.Perm registry.members
  nodup : ranked.Nodup
  size : topology.nodes.length = ranked.length
  nodes : ∀ position vertex, ranked[position]? = some vertex → ∃ node : Node,
    topology.nodes[position]? = some node ∧ node.rank = position ∧
      node.name = registry.nameOf vertex ∧ registry.Plays vertex node.role
  arrows : topology.arrows.Perm (registry.topics.flatMap (arrowsAt ranked.idxOf))
  distinct : topology.arrows.Nodup
  forward : topology.ordered = true → ∀ arrow ∈ topology.arrows, arrow.delayed = false →
    arrow.source < arrow.target
  registered : topology.ordered = false → ranked.Pairwise fun first second =>
    registry.sequenceOf first < registry.sequenceOf second

end Topology

namespace Graph

variable {α σ : Type}

/-- An order that has been fixed is the one that would be found. -/
theorem Coherent.currentOrder?_eq {graph : Graph α σ} (coherent : graph.Coherent) :
    graph.currentOrder? = (VisitOrder.compute graph.registry).toOption := by
  rw [currentOrder?]
  split
  next closed =>
    rw [coherent.order closed]
    rfl
  next => rfl

def ranked (graph : Graph α σ) : List Vertex :=
  graph.currentOrder?.elim graph.registry.vertices VisitOrder.walk

theorem Reachable.depicts {graph : Graph α σ} (reachable : graph.Reachable) :
    Topology.Depicts graph.registry graph.ranked graph.topology := by
  have coherent := reachable.coherent
  have sound := coherent.registry
  have arranged : ∀ order, graph.currentOrder? = some order →
      graph.registry.Arranges order.walk := by
    intro order found
    rw [coherent.currentOrder?_eq] at found
    cases computed : VisitOrder.compute graph.registry with
    | error error =>
        rw [computed] at found
        cases found
    | ok other =>
        rw [computed] at found
        cases found
        exact (VisitOrder.compute_isWalk sound computed).arranges sound
  have shown : graph.ranked.Perm graph.registry.members ∧ graph.ranked.Nodup := by
    rw [ranked]
    cases found : graph.currentOrder? with
    | none => exact ⟨graph.registry.vertices_perm, sound.vertices_nodup⟩
    | some order => exact ⟨(arranged order found).everyone, (arranged order found).nodup⟩
  rcases shown with ⟨everyone, nodup⟩
  have ranks : graph.registry.Ranks graph.ranked.idxOf := by
    intro first member second _ same
    exact (List.idxOf_inj (everyone.mem_iff.mpr member)).mp same
  have arrows : graph.topology.arrows.Perm
      (graph.registry.topics.flatMap (Topology.arrowsAt graph.ranked.idxOf)) := by
    have drawn : graph.topology.arrows =
        graph.ranked.flatMap (Topology.arrowsFrom graph.registry graph.ranked.idxOf) :=
      Topology.arrowsOf_eq graph.registry nodup
    rw [drawn]
    exact (everyone.flatMap_right _).trans (sound.arrows_perm _)
  refine ⟨everyone, nodup, ?_, ?_, arrows, ?_, ?_, ?_⟩
  · have nodes : graph.topology.nodes = Topology.nodesOf graph.registry graph.ranked := rfl
    rw [nodes, Topology.nodesOf, List.length_map, List.length_zipIdx]
  · intro position vertex here
    have nodes : graph.topology.nodes = Topology.nodesOf graph.registry graph.ranked := rfl
    refine ⟨⟨position, graph.registry.nameOf vertex, Topology.roleOf graph.registry vertex⟩,
      ?_, rfl, rfl, graph.registry.plays_roleOf vertex⟩
    rw [nodes, Topology.nodesOf, List.getElem?_map, List.getElem?_zipIdx, here]
    simp
  · rw [arrows.nodup_iff]
    exact sound.arrows_nodup ranks
  · intro ordered arrow member immediate
    have member := arrows.mem_iff.mp member
    rcases Option.isSome_iff_exists.mp ordered with ⟨order, found⟩
    have walks : graph.ranked = order.walk := by
      rw [ranked, found]
      rfl
    rw [walks] at member
    exact (arranged order found).forward sound member immediate
  · intro unordered
    have none : graph.currentOrder? = none :=
      Option.not_isSome_iff_eq_none.mp (Bool.eq_false_iff.mp unordered)
    rw [ranked, none]
    exact reachable.numbered.vertices_rising sound

/-- Whatever has been done to a graph, its picture shows what it is. -/
theorem topology_depicts (config : Config) (operations : List (Operation α σ)) :
    ∃ ranked, Topology.Depicts (run operations (ofConfig config)).state.registry ranked
      (run operations (ofConfig config)).state.topology :=
  ⟨_, Reachable.depicts ⟨config, operations, rfl⟩⟩

/-- A relay and a lag behind it.  Nobody publishes the lagged topic within a
pass, which makes it an input. -/
example :
    let graph : Graph Nat Unit := (run [.add (.relay [.plain "in"] [.plain "out"]),
      .addLag (.plain "out")] (ofConfig {})).state
    graph.topology.nodes.map Topology.Node.role =
        [.inputTopic, .detector, .internalTopic, .detector, .inputTopic] ∧
      graph.topology.arrows =
        [⟨0, 1, false⟩, ⟨1, 2, false⟩, ⟨2, 3, false⟩, ⟨3, 4, true⟩] := by
  decide +kernel

end Graph
end ReactiveGraph
