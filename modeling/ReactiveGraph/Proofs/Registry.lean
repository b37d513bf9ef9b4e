import Mathlib.Data.List.Nodup
import ReactiveGraph.Registry

namespace ReactiveGraph

/-!
# What the registry holds

The registry is read through four questions: whether a topic is known, who
subscribes to it, who publishes it and whether a detector declared that it
does.  The answers are given here for each operation of the registry, along
with the invariant that registrations keep: every payload type has one topic,
and the edges of a topic do not contradict each other.
-/

/-- The detectors that publish a topic, each with its timing, and those that
subscribe to it, in the order in which they declared so. -/
structure TopicEdges where
  publishers : List (DetectorId × Timing)
  subscribers : List DetectorId

namespace TopicEdges

/-- The edges do not contradict each other: nobody subscribes twice or
publishes twice, whatever the timing, and nobody subscribes to what it
publishes in the same pass. -/
structure Compatible (edges : TopicEdges) : Prop where
  subscribers_nodup : edges.subscribers.Nodup
  publishers_nodup : (edges.publishers.map Prod.fst).Nodup
  apart : ∀ detector ∈ edges.subscribers, (detector, Timing.immediate) ∉ edges.publishers

def add (edges : TopicEdges) (detector : DetectorId) : EdgeRequest → TopicEdges
  | .publisher timing => { edges with publishers := edges.publishers ++ [(detector, timing)] }
  | .subscriber => { edges with subscribers := edges.subscribers ++ [detector] }

def without (edges : TopicEdges) (detector : DetectorId) : TopicEdges where
  publishers := edges.publishers.filter fun publisher => publisher.1 ≠ detector
  subscribers := edges.subscribers.filter fun subscriber => subscriber ≠ detector

theorem compatible_add_publisher {edges : TopicEdges} {detector : DetectorId} {timing : Timing} :
    (edges.add detector (.publisher timing)).Compatible ↔
      edges.Compatible ∧ (timing = .immediate → detector ∉ edges.subscribers) ∧
        detector ∉ edges.publishers.map Prod.fst := by
  constructor
  · intro compatible
    have publishers := compatible.publishers_nodup
    rw [add, List.map_append, List.nodup_append] at publishers
    refine ⟨⟨compatible.subscribers_nodup, publishers.1, ?_⟩, ?_, ?_⟩
    · intro other member published
      exact compatible.apart other member (List.mem_append_left _ published)
    · rintro rfl member
      exact compatible.apart detector member (List.mem_append_right _ (List.mem_singleton_self _))
    · intro member
      exact publishers.2.2 detector member detector (List.mem_singleton_self _) rfl
  · rintro ⟨compatible, apart, fresh⟩
    refine ⟨compatible.subscribers_nodup, ?_, ?_⟩
    · rw [add, List.map_append, List.nodup_append]
      refine ⟨compatible.publishers_nodup, List.nodup_singleton _, ?_⟩
      intro other member added last equal
      have equal : other = detector := equal.trans (List.mem_singleton.mp last)
      exact fresh (equal ▸ member)
    · intro other member published
      rcases List.mem_append.mp published with before | added
      · exact compatible.apart other member before
      · rcases Prod.mk.inj (List.mem_singleton.mp added) with ⟨rfl, rfl⟩
        exact apart rfl member

theorem compatible_add_subscriber {edges : TopicEdges} {detector : DetectorId} :
    (edges.add detector .subscriber).Compatible ↔
      edges.Compatible ∧ (detector, Timing.immediate) ∉ edges.publishers ∧
        detector ∉ edges.subscribers := by
  constructor
  · intro compatible
    have subscribers := compatible.subscribers_nodup
    rw [add, List.nodup_append] at subscribers
    have last : detector ∈ (edges.add detector .subscriber).subscribers :=
      List.mem_append_right _ (List.mem_singleton_self _)
    refine ⟨⟨subscribers.1, compatible.publishers_nodup, ?_⟩, compatible.apart detector last, ?_⟩
    · intro other member
      exact compatible.apart other (List.mem_append_left _ member)
    · intro member
      exact subscribers.2.2 detector member detector (List.mem_singleton_self _) rfl
  · rintro ⟨compatible, apart, fresh⟩
    refine ⟨?_, compatible.publishers_nodup, ?_⟩
    · rw [add, List.nodup_append]
      refine ⟨compatible.subscribers_nodup, List.nodup_singleton _, ?_⟩
      intro other member added last equal
      rw [List.mem_singleton.mp last] at equal
      exact fresh (equal ▸ member)
    · intro other member
      rcases List.mem_append.mp member with before | added
      · exact compatible.apart other before
      · rw [List.mem_singleton.mp added]
        exact apart

theorem Compatible.without {edges : TopicEdges} (compatible : edges.Compatible)
    (detector : DetectorId) : (edges.without detector).Compatible where
  subscribers_nodup := compatible.subscribers_nodup.filter _
  publishers_nodup := (List.filter_sublist.map Prod.fst).nodup compatible.publishers_nodup
  apart := by
    intro other member published
    exact compatible.apart other (List.mem_of_mem_filter member) (List.mem_of_mem_filter published)

end TopicEdges

namespace TopicRecord

def edges (entry : TopicRecord) : TopicEdges :=
  ⟨entry.publishers, entry.subscribers⟩

/-- The edges of a topic do not contradict each other, and they belong to the
first `count` detectors. -/
structure Sound (entry : TopicRecord) (count : Nat) : Prop where
  subscribers_nodup : entry.subscribers.Nodup
  publishers_nodup : (entry.publishers.map Prod.fst).Nodup
  apart : ∀ detector ∈ entry.subscribers, (detector, Timing.immediate) ∉ entry.publishers
  subscribers_known : ∀ detector ∈ entry.subscribers, detector < count
  publishers_known : ∀ publisher ∈ entry.publishers, publisher.1 < count

theorem sound_blank (payload : Payload) (sequence count : Nat) :
    Sound { payload, sequence } count where
  subscribers_nodup := List.nodup_nil
  publishers_nodup := List.nodup_nil
  apart := by intro _ member; cases member
  subscribers_known := by intro _ member; cases member
  publishers_known := by intro _ member; cases member

theorem Sound.compatible {entry : TopicRecord} {count : Nat} (sound : entry.Sound count) :
    entry.edges.Compatible :=
  ⟨sound.subscribers_nodup, sound.publishers_nodup, sound.apart⟩

theorem Sound.mono {entry : TopicRecord} {count larger : Nat} (sound : entry.Sound count)
    (bound : count ≤ larger) : entry.Sound larger :=
  { sound with
    subscribers_known := fun detector member =>
      Nat.lt_of_lt_of_le (sound.subscribers_known detector member) bound
    publishers_known := fun publisher member =>
      Nat.lt_of_lt_of_le (sound.publishers_known publisher member) bound }

/-- A publication is accepted if the detector neither publishes the topic nor
hears of it in the same pass. -/
theorem refusal?_publisher {entry : TopicRecord} {detector : DetectorId} {name : String}
    {timing : Timing} :
    Registry.refusal? entry detector name (.publisher timing) = none ↔
      (timing = .immediate → detector ∉ entry.subscribers) ∧
        detector ∉ entry.publishers.map Prod.fst := by
  have published : entry.publishes detector = true ↔ detector ∈ entry.publishers.map Prod.fst := by
    simp only [publishes, List.any_eq_true, decide_eq_true_eq, List.mem_map]
  have subscribed : entry.subscribes detector = true ↔ detector ∈ entry.subscribers :=
    List.contains_iff_mem
  rw [Registry.refusal?]
  simp only [Bool.and_eq_true, decide_eq_true_eq, subscribed]
  by_cases self : timing = .immediate ∧ detector ∈ entry.subscribers
  · simp [self]
  · rw [if_neg self]
    by_cases repeated : detector ∈ entry.publishers.map Prod.fst
    · rw [if_pos (published.mpr repeated)]
      simp [repeated]
    · rw [if_neg (fun again => repeated (published.mp again))]
      simp only [true_iff]
      exact ⟨fun now member => self ⟨now, member⟩, repeated⟩

/-- A subscription is accepted if the detector neither subscribes to the
topic nor publishes it in the same pass. -/
theorem refusal?_subscriber {entry : TopicRecord} {detector : DetectorId} {name : String} :
    Registry.refusal? entry detector name .subscriber = none ↔
      (detector, Timing.immediate) ∉ entry.publishers ∧ detector ∉ entry.subscribers := by
  have publishes : entry.publishesNow detector = true ↔
      (detector, Timing.immediate) ∈ entry.publishers := List.contains_iff_mem
  have subscribed : entry.subscribes detector = true ↔ detector ∈ entry.subscribers :=
    List.contains_iff_mem
  rw [Registry.refusal?]
  by_cases self : (detector, Timing.immediate) ∈ entry.publishers
  · rw [if_pos (publishes.mpr self)]
    simp [self]
  · rw [if_neg (fun again => self (publishes.mp again))]
    by_cases repeated : detector ∈ entry.subscribers
    · rw [if_pos (subscribed.mpr repeated)]
      simp [repeated]
    · rw [if_neg (fun again => repeated (subscribed.mp again))]
      simp [self, repeated]

theorem edges_withEdge (entry : TopicRecord) (detector : DetectorId) (request : EdgeRequest) :
    (Registry.withEdge entry detector request).edges = entry.edges.add detector request := by
  cases request <;> rfl

theorem refusal?_eq_none_iff {entry : TopicRecord} (compatible : entry.edges.Compatible)
    {detector : DetectorId} {name : String} {request : EdgeRequest} :
    Registry.refusal? entry detector name request = none ↔
      (entry.edges.add detector request).Compatible := by
  cases request with
  | publisher timing =>
      rw [refusal?_publisher, TopicEdges.compatible_add_publisher]
      exact (and_iff_right compatible).symm
  | subscriber =>
      rw [refusal?_subscriber, TopicEdges.compatible_add_subscriber]
      exact (and_iff_right compatible).symm

theorem Sound.withEdge {entry : TopicRecord} {count : Nat} (sound : entry.Sound count)
    {detector : DetectorId} (known : detector < count) {name : String} {request : EdgeRequest}
    (accepted : Registry.refusal? entry detector name request = none) :
    (Registry.withEdge entry detector request).Sound count := by
  have compatible := (refusal?_eq_none_iff sound.compatible).mp accepted
  rw [← edges_withEdge] at compatible
  refine ⟨compatible.subscribers_nodup, compatible.publishers_nodup, compatible.apart, ?_, ?_⟩
  · intro other member
    cases request with
    | publisher timing => exact sound.subscribers_known other member
    | subscriber =>
        rcases List.mem_append.mp member with before | added
        · exact sound.subscribers_known other before
        · rw [List.mem_singleton.mp added]
          exact known
  · intro publisher member
    cases request with
    | subscriber => exact sound.publishers_known publisher member
    | publisher timing =>
        rcases List.mem_append.mp member with before | added
        · exact sound.publishers_known publisher before
        · rw [List.mem_singleton.mp added]
          exact known

/-- Without the edges of the last detector the topic is sound among the
detectors before it. -/
theorem Sound.withoutEdges {entry : TopicRecord} {count : Nat} (sound : entry.Sound (count + 1)) :
    (Registry.withoutEdges count entry).Sound count where
  subscribers_nodup := (sound.compatible.without count).subscribers_nodup
  publishers_nodup := (sound.compatible.without count).publishers_nodup
  apart := (sound.compatible.without count).apart
  subscribers_known := by
    intro detector member
    have known := sound.subscribers_known detector (List.mem_of_mem_filter member)
    have other : detector ≠ count := by simpa using (List.mem_filter.mp member).2
    exact Nat.lt_of_le_of_ne (Nat.lt_succ_iff.mp known) other
  publishers_known := by
    intro publisher member
    have known := sound.publishers_known publisher (List.mem_of_mem_filter member)
    have other : publisher.1 ≠ count := by simpa using (List.mem_filter.mp member).2
    exact Nat.lt_of_le_of_ne (Nat.lt_succ_iff.mp known) other

end TopicRecord

/-! ## The answers of a registry -/

namespace Registry

def publishers (registry : Registry) (topic : Payload) : List (DetectorId × Timing) :=
  (registry.topic? topic).elim [] TopicRecord.publishers

theorem mem_of_topic? {registry : Registry} {topic : Payload} {entry : TopicRecord}
    (found : registry.topic? topic = some entry) : entry ∈ registry.topics :=
  List.mem_of_find?_eq_some found

theorem payload_of_topic? {registry : Registry} {topic : Payload} {entry : TopicRecord}
    (found : registry.topic? topic = some entry) : entry.payload = topic := by
  simpa using List.find?_some found

theorem isDeclared_iff {registry : Registry} {detector : DetectorId} {topic : Payload}
    {timing : Timing} :
    registry.isDeclared detector topic timing = true ↔
      (detector, timing) ∈ registry.publishers topic := by
  rw [isDeclared, publishers]
  cases registry.topic? topic with
  | none => simp
  | some entry => simp

theorem hasTopic_of_isDeclared {registry : Registry} {detector : DetectorId} {topic : Payload}
    {timing : Timing} (declared : registry.isDeclared detector topic timing = true) :
    registry.hasTopic topic = true := by
  rw [isDeclared] at declared
  rw [hasTopic]
  cases found : registry.topic? topic with
  | none =>
      rw [found] at declared
      cases declared
  | some entry => rfl

theorem topic?_of_mem_subscribers {registry : Registry} {detector : DetectorId} {topic : Payload}
    (member : detector ∈ registry.subscribers topic) :
    ∃ entry, registry.topic? topic = some entry ∧ detector ∈ entry.subscribers := by
  rw [subscribers] at member
  cases found : registry.topic? topic with
  | none =>
      rw [found] at member
      cases member
  | some entry =>
      rw [found] at member
      exact ⟨entry, rfl, member⟩

/-- Every payload type has one topic, and the edges of each topic belong to
registered detectors and do not contradict each other. -/
structure Sound (registry : Registry) : Prop where
  distinct : (registry.topics.map TopicRecord.payload).Nodup
  entries : ∀ entry ∈ registry.topics, entry.Sound registry.detectors.length

theorem sound_empty : Sound {} where
  distinct := List.nodup_nil
  entries := by intro _ member; cases member

theorem topic?_of_mem {registry : Registry}
    (distinct : (registry.topics.map TopicRecord.payload).Nodup) {entry : TopicRecord}
    (member : entry ∈ registry.topics) : registry.topic? entry.payload = some entry := by
  rw [topic?]
  revert member distinct
  generalize registry.topics = topics
  intro distinct member
  induction topics with
  | nil => cases member
  | cons head tail ih =>
      rw [List.map_cons, List.nodup_cons] at distinct
      rcases List.mem_cons.mp member with same | later
      · rw [same, List.find?_cons_of_pos (by simp)]
      · have different : head.payload ≠ entry.payload := by
          intro equal
          exact distinct.1 (equal ▸ List.mem_map_of_mem later)
        rw [List.find?_cons_of_neg (by simpa using different)]
        exact ih distinct.2 later

theorem Sound.topic?_payload {registry : Registry} (sound : registry.Sound) {entry : TopicRecord}
    (member : entry ∈ registry.topics) : registry.topic? entry.payload = some entry :=
  topic?_of_mem sound.distinct member

theorem Sound.subscribers_nodup {registry : Registry} (sound : registry.Sound)
    (topic : Payload) : (registry.subscribers topic).Nodup := by
  rw [subscribers]
  cases found : registry.topic? topic with
  | none => exact List.nodup_nil
  | some entry => exact (sound.entries entry (mem_of_topic? found)).subscribers_nodup

theorem Sound.subscriber_known {registry : Registry} (sound : registry.Sound)
    {detector : DetectorId} {topic : Payload} (member : detector ∈ registry.subscribers topic) :
    detector < registry.detectors.length := by
  rcases topic?_of_mem_subscribers member with ⟨entry, found, member⟩
  exact (sound.entries entry (mem_of_topic? found)).subscribers_known detector member

theorem Sound.publisher_known {registry : Registry} (sound : registry.Sound)
    {publisher : DetectorId × Timing} {topic : Payload}
    (member : publisher ∈ registry.publishers topic) :
    publisher.1 < registry.detectors.length := by
  rw [publishers] at member
  cases found : registry.topic? topic with
  | none =>
      rw [found] at member
      cases member
  | some entry =>
      rw [found] at member
      exact (sound.entries entry (mem_of_topic? found)).publishers_known publisher member

/-- No detector publishes a topic within the pass that hands it the topic. -/
theorem Sound.apart {registry : Registry} (sound : registry.Sound) {detector : DetectorId}
    {topic : Payload} (subscribed : detector ∈ registry.subscribers topic) :
    ¬registry.isDeclared detector topic .immediate = true := by
  intro declared
  rcases topic?_of_mem_subscribers subscribed with ⟨entry, found, subscriber⟩
  rw [isDeclared_iff, publishers, found] at declared
  exact (sound.entries entry (mem_of_topic? found)).apart detector subscriber declared

/-- A change of the records that keeps their payload types shows in the
answers for each topic. -/
theorem topic?_map {registry changed : Registry} (change : TopicRecord → TopicRecord)
    (topics : changed.topics = registry.topics.map change)
    (keeps : ∀ entry, (change entry).payload = entry.payload) (topic : Payload) :
    changed.topic? topic = (registry.topic? topic).map change := by
  rw [topic?, topic?, topics, List.find?_map]
  congr 2
  funext entry
  simp only [Function.comp_apply, keeps]

theorem payloads_map {topics : List TopicRecord} {change : TopicRecord → TopicRecord}
    (keeps : ∀ entry, (change entry).payload = entry.payload) :
    (topics.map change).map TopicRecord.payload = topics.map TopicRecord.payload := by
  rw [List.map_map]
  congr 1
  funext entry
  exact keeps entry

/-- A topic without edges changes none of the answers about edges. -/
theorem edges_append_blank (registry larger : Registry) {blanks : List TopicRecord}
    (topics : larger.topics = registry.topics ++ blanks)
    (blank : ∀ entry ∈ blanks, entry.publishers = [] ∧ entry.subscribers = []) (topic : Payload) :
    larger.subscribers topic = registry.subscribers topic ∧
      larger.publishers topic = registry.publishers topic := by
  have lookup : larger.topic? topic =
      (registry.topic? topic).or (blanks.find? fun entry => entry.payload = topic) := by
    rw [topic?, topic?, topics, List.find?_append]
  rw [subscribers, subscribers, publishers, publishers, lookup]
  cases registry.topic? topic with
  | some entry => exact ⟨rfl, rfl⟩
  | none =>
      cases found : blanks.find? fun entry => entry.payload = topic with
      | none => exact ⟨rfl, rfl⟩
      | some entry =>
          have empty := blank entry (List.mem_of_find?_eq_some found)
          exact ⟨empty.2, empty.1⟩

theorem hasTopic_iff {registry : Registry} {topic : Payload} :
    registry.hasTopic topic = true ↔ topic ∈ registry.topics.map TopicRecord.payload := by
  rw [hasTopic, topic?, List.find?_isSome]
  simp only [decide_eq_true_eq, List.mem_map]

theorem topicId?_of_hasTopic {registry : Registry} {topic : Payload}
    (known : registry.hasTopic topic = true) :
    ∃ id entry, registry.topicId? topic = some id ∧ registry.topics[id]? = some entry ∧
      entry.payload = topic := by
  rw [hasTopic_iff] at known
  rcases List.mem_map.mp known with ⟨record, member, rfl⟩
  cases found : registry.topicId? record.payload with
  | none => simpa using List.findIdx?_eq_none_iff.mp found record member
  | some id =>
      rcases List.findIdx?_eq_some_iff_getElem.mp found with ⟨bound, here, _⟩
      exact ⟨id, _, rfl, List.getElem?_eq_getElem bound, of_decide_eq_true here⟩

theorem ensureTopic_sealed {registry : Registry} (closed : registry.sealed = true)
    (topic : Payload) : (registry.ensureTopic topic).1 = registry := by
  rw [ensureTopic]
  cases registry.topicId? topic with
  | some id => rfl
  | none => simp [closed]

/-- An open registry finds the topic or puts it behind the others. -/
theorem ensureTopic_open {registry : Registry} (opened : registry.sealed = false)
    (topic : Payload) :
    ∃ id entry blanks,
      registry.ensureTopic topic =
          ({ registry with
              topics := registry.topics ++ blanks
              nextSequence := registry.nextSequence + blanks.length }, .ok id) ∧
        (registry.topics ++ blanks)[id]? = some entry ∧ entry.payload = topic ∧
        (blanks = [] ∨ topic ∉ registry.topics.map TopicRecord.payload ∧
          blanks = [{ payload := topic, sequence := registry.nextSequence }]) := by
  rw [ensureTopic]
  cases found : registry.topicId? topic with
  | some id =>
      rcases List.findIdx?_eq_some_iff_getElem.mp found with ⟨bound, same, _⟩
      refine ⟨id, registry.topics[id], [], by simp, ?_, by simpa using same, Or.inl rfl⟩
      rw [List.append_nil, List.getElem?_eq_getElem bound]
  | none =>
      have missing : topic ∉ registry.topics.map TopicRecord.payload := by
        intro member
        rcases List.mem_map.mp member with ⟨entry, member, same⟩
        have differs := List.findIdx?_eq_none_iff.mp found entry member
        simp [same] at differs
      refine ⟨registry.topics.length, { payload := topic, sequence := registry.nextSequence },
        [{ payload := topic, sequence := registry.nextSequence }], ?_, ?_, rfl,
        Or.inr ⟨missing, rfl⟩⟩
      · simp [opened]
      · rw [List.getElem?_append_right (Nat.le_refl _), Nat.sub_self]
        rfl

/-- Asking for a topic changes neither the detectors nor whether the wiring
is closed. -/
theorem ensureTopic_frame (registry : Registry) (topic : Payload) :
    (registry.ensureTopic topic).1.detectors = registry.detectors ∧
      (registry.ensureTopic topic).1.sealed = registry.sealed := by
  cases closed : registry.sealed with
  | true =>
      rw [ensureTopic_sealed closed]
      exact ⟨rfl, closed⟩
  | false =>
      rcases ensureTopic_open closed topic with ⟨id, entry, blanks, same, _⟩
      rw [same]
      exact ⟨rfl, closed⟩

theorem distinct_ensureTopic {registry : Registry}
    (distinct : (registry.topics.map TopicRecord.payload).Nodup) (topic : Payload) :
    ((registry.ensureTopic topic).1.topics.map TopicRecord.payload).Nodup := by
  cases closed : registry.sealed with
  | true =>
      rw [ensureTopic_sealed closed]
      exact distinct
  | false =>
      rcases ensureTopic_open closed topic with
        ⟨id, entry, blanks, same, _, _, empty | ⟨missing, single⟩⟩
      · rw [same, empty, List.append_nil]
        exact distinct
      · rw [same, single, List.map_append, List.nodup_append]
        refine ⟨distinct, List.nodup_singleton _, ?_⟩
        intro other member added last equal
        rw [equal, List.mem_singleton.mp last] at member
        exact missing member

theorem mem_ensureTopic {registry : Registry} {topic : Payload} {entry : TopicRecord}
    (member : entry ∈ (registry.ensureTopic topic).1.topics) :
    entry ∈ registry.topics ∨ entry = { payload := topic, sequence := registry.nextSequence } := by
  cases closed : registry.sealed with
  | true =>
      rw [ensureTopic_sealed closed] at member
      exact Or.inl member
  | false =>
      rcases ensureTopic_open closed topic with ⟨id, _, blanks, same, _, _, empty | ⟨_, single⟩⟩
      · rw [same, empty, List.append_nil] at member
        exact Or.inl member
      · rw [same, single] at member
        exact (List.mem_append.mp member).imp_right List.mem_singleton.mp

theorem Sound.ensureTopic {registry : Registry} (sound : registry.Sound) (topic : Payload) :
    (registry.ensureTopic topic).1.Sound where
  distinct := distinct_ensureTopic sound.distinct topic
  entries := by
    intro entry member
    rw [(ensureTopic_frame registry topic).1]
    rcases mem_ensureTopic member with before | rfl
    · exact sound.entries entry before
    · exact TopicRecord.sound_blank _ _ _

/-! ## Entering an edge -/

/-- The change that an edge makes to the records. -/
def connect (topic : Payload) (detector : DetectorId) (request : EdgeRequest)
    (entry : TopicRecord) : TopicRecord :=
  if entry.payload = topic then withEdge entry detector request else entry

theorem payload_withEdge (entry : TopicRecord) (detector : DetectorId) (request : EdgeRequest) :
    (withEdge entry detector request).payload = entry.payload := by
  cases request <;> rfl

theorem payload_connect (topic : Payload) (detector : DetectorId) (request : EdgeRequest)
    (entry : TopicRecord) : (connect topic detector request entry).payload = entry.payload := by
  rw [connect]
  split
  · exact payload_withEdge entry detector request
  · rfl

/-- Changing the record in the place of a topic is changing whichever record
has the payload type. -/
theorem modify_eq_map_connect {topics : List TopicRecord} {id : Nat} {entry : TopicRecord}
    (distinct : (topics.map TopicRecord.payload).Nodup) (found : topics[id]? = some entry)
    (detector : DetectorId) (request : EdgeRequest) :
    (topics.modify id fun entry => withEdge entry detector request) =
      topics.map (connect entry.payload detector request) := by
  apply List.ext_getElem?
  intro position
  rw [List.getElem?_modify, List.getElem?_map]
  cases other : topics[position]? with
  | none => rfl
  | some record =>
      rcases List.getElem?_eq_some_iff.mp found with ⟨bound, same⟩
      rcases List.getElem?_eq_some_iff.mp other with ⟨otherBound, otherSame⟩
      have unique : id = position ↔ record.payload = entry.payload := by
        rw [← same, ← otherSame]
        constructor
        · rintro rfl
          rfl
        · intro equal
          have placed : id < (topics.map TopicRecord.payload).length := by simpa using bound
          have otherPlaced : position < (topics.map TopicRecord.payload).length := by
            simpa using otherBound
          have equal : (topics.map TopicRecord.payload)[id] =
              (topics.map TopicRecord.payload)[position] := by
            rw [List.getElem_map, List.getElem_map, equal]
          exact (List.Nodup.getElem_inj_iff distinct).mp equal
      by_cases here : id = position
      · simp [here, connect, unique.mp here]
      · simp only [if_neg here, connect, Option.map_some,
          if_neg fun equal => here (unique.mpr equal)]
        rfl

theorem addEdge_sealed {registry : Registry} (closed : registry.sealed = true)
    (detector : DetectorId) (topic : Payload) (request : EdgeRequest) :
    registry.addEdge detector topic request =
      (registry, .error (.sealed (.edges (registry.detectorName detector)))) := by
  rw [addEdge, if_pos closed]

/-- An open registry looks the topic up, registering it if need be, and then
either refuses the edge or enters it at that topic. -/
theorem addEdge_open {registry : Registry}
    (distinct : (registry.topics.map TopicRecord.payload).Nodup)
    (opened : registry.sealed = false) (detector : DetectorId) (topic : Payload)
    (request : EdgeRequest) :
    ∃ entry, (registry.ensureTopic topic).1.topic? topic = some entry ∧
      ((∃ error, refusal? entry detector (registry.detectorName detector) request = some error ∧
          registry.addEdge detector topic request =
            ((registry.ensureTopic topic).1, .error error)) ∨
        ∃ id, (registry.ensureTopic topic).2 = .ok id ∧
          refusal? entry detector (registry.detectorName detector) request = none ∧
          registry.addEdge detector topic request =
            ({ (registry.ensureTopic topic).1 with
                topics := (registry.ensureTopic topic).1.topics.map
                  (connect topic detector request) }, .ok id)) := by
  rcases ensureTopic_open opened topic with ⟨id, entry, blanks, same, found, payload, _⟩
  have distinct := distinct_ensureTopic distinct topic
  have member : entry ∈ (registry.ensureTopic topic).1.topics := by
    rw [same]
    exact List.mem_of_getElem? found
  refine ⟨entry, payload ▸ topic?_of_mem distinct member, ?_⟩
  rw [same] at distinct ⊢
  have name : ∀ topics nextSequence,
      ({ registry with topics, nextSequence } : Registry).detectorName detector =
        registry.detectorName detector := fun _ _ => rfl
  cases refused : refusal? entry detector (registry.detectorName detector) request with
  | some error =>
      refine Or.inl ⟨error, rfl, ?_⟩
      rw [addEdge, if_neg (by simp [opened]), same]
      simp only [found, name, refused]
  | none =>
      refine Or.inr ⟨id, rfl, rfl, ?_⟩
      rw [addEdge, if_neg (by simp [opened]), same]
      simp only [found, name, refused]
      rw [modify_eq_map_connect distinct found, payload]

/-- Entering an edge keeps the registry sound, whether it is accepted or
refused. -/
theorem Sound.addEdge {registry : Registry} (sound : registry.Sound) {detector : DetectorId}
    (known : detector < registry.detectors.length) (topic : Payload) (request : EdgeRequest) :
    (registry.addEdge detector topic request).1.Sound := by
  cases closed : registry.sealed with
  | true =>
      rw [addEdge_sealed closed]
      exact sound
  | false =>
      have larger := sound.ensureTopic topic
      rcases addEdge_open sound.distinct closed detector topic request with
        ⟨entry, found, ⟨error, _, same⟩ | ⟨id, _, accepted, same⟩⟩
      · rw [same]
        exact larger
      · rw [same]
        constructor
        · rw [payloads_map (payload_connect topic detector request)]
          exact larger.distinct
        · intro changed member
          rcases List.mem_map.mp member with ⟨other, source, rfl⟩
          have before := larger.entries other source
          rw [connect]
          split
          next here =>
            have unique : other = entry := by
              have lookup := larger.topic?_payload source
              rw [here, found] at lookup
              exact (Option.some.inj lookup).symm
            subst unique
            rw [(ensureTopic_frame registry topic).1] at before ⊢
            exact before.withEdge known accepted
          next => exact before

theorem payloads_takeBack (registry : Registry) (detector : DetectorId) :
    (registry.takeBack detector).topics.map TopicRecord.payload =
      registry.topics.map TopicRecord.payload :=
  payloads_map fun _ => rfl

theorem topic?_takeBack (registry : Registry) (detector : DetectorId) (topic : Payload) :
    (registry.takeBack detector).topic? topic =
      (registry.topic? topic).map (withoutEdges detector) :=
  topic?_map (withoutEdges detector) rfl (fun _ => rfl) topic

theorem hasTopic_takeBack (registry : Registry) (detector : DetectorId) (topic : Payload) :
    (registry.takeBack detector).hasTopic topic = registry.hasTopic topic := by
  rw [hasTopic, topic?_takeBack, Option.isSome_map, hasTopic]

theorem subscribers_takeBack (registry : Registry) (detector : DetectorId) (topic : Payload) :
    (registry.takeBack detector).subscribers topic =
      (registry.subscribers topic).filter fun subscriber => subscriber ≠ detector := by
  rw [subscribers, subscribers, topic?_takeBack]
  cases registry.topic? topic <;> rfl

theorem publishers_takeBack (registry : Registry) (detector : DetectorId) (topic : Payload) :
    (registry.takeBack detector).publishers topic =
      (registry.publishers topic).filter fun publisher => publisher.1 ≠ detector := by
  rw [publishers, publishers, topic?_takeBack]
  cases registry.topic? topic <;> rfl

theorem Sound.takeBack {registry : Registry} (sound : registry.Sound) {detector : DetectorId}
    (latest : registry.detectors.length = detector + 1) : (registry.takeBack detector).Sound where
  distinct := by
    rw [payloads_takeBack]
    exact sound.distinct
  entries := by
    intro changed member
    rcases List.mem_map.mp member with ⟨entry, source, rfl⟩
    have before := sound.entries entry source
    rw [latest] at before
    have fewer : (registry.takeBack detector).detectors.length = detector := by
      rw [Registry.takeBack, if_pos latest.symm, List.length_dropLast, latest]
      rfl
    rw [fewer]
    exact before.withoutEdges

end Registry
end ReactiveGraph
