import ReactiveGraph.Detector
import ReactiveGraph.Proofs.Registry

namespace ReactiveGraph

/-!
# What a wiring leaves behind

However a detector goes about its declarations, the registry gains nothing
but topics and edges of that detector, and the detector's own table lists
exactly the topics of which the registry has it as a subscriber.
-/

namespace Registry

theorem edges_ensureTopic (registry : Registry) (topic other : Payload) :
    (registry.ensureTopic topic).1.subscribers other = registry.subscribers other ∧
      (registry.ensureTopic topic).1.publishers other = registry.publishers other := by
  cases closed : registry.sealed with
  | true =>
      rw [ensureTopic_sealed closed]
      exact ⟨rfl, rfl⟩
  | false =>
      rcases ensureTopic_open closed topic with ⟨id, entry, blanks, same, _, _, blank⟩
      rw [same]
      refine edges_append_blank registry _ rfl ?_ other
      intro added member
      rcases blank with empty | ⟨_, single⟩
      · rw [empty] at member
        cases member
      · rw [single] at member
        rw [List.mem_singleton.mp member]
        exact ⟨rfl, rfl⟩

theorem edges_addEdge_refused {registry after : Registry}
    (distinct : (registry.topics.map TopicRecord.payload).Nodup)
    {detector : DetectorId} {topic : Payload} {request : EdgeRequest} {error : WiringError}
    (refused : registry.addEdge detector topic request = (after, .error error)) (other : Payload) :
    after.subscribers other = registry.subscribers other ∧
      after.publishers other = registry.publishers other := by
  cases closed : registry.sealed with
  | true =>
      rw [addEdge_sealed closed] at refused
      rw [← (Prod.mk.inj refused).1]
      exact ⟨rfl, rfl⟩
  | false =>
      rcases addEdge_open distinct closed detector topic request with
        ⟨entry, _, ⟨cause, _, same⟩ | ⟨id, _, _, same⟩⟩
      · rw [same] at refused
        rw [← (Prod.mk.inj refused).1]
        exact edges_ensureTopic registry topic other
      · rw [same] at refused
        cases (Prod.mk.inj refused).2

/-- An edge is accepted by an open registry that finds nothing against it,
and shows at its topic only. -/
theorem edges_addEdge {registry after : Registry}
    (distinct : (registry.topics.map TopicRecord.payload).Nodup)
    {detector : DetectorId} {topic : Payload} {request : EdgeRequest} {id : TopicId}
    (taken : registry.addEdge detector topic request = (after, .ok id)) :
    ∃ entry, refusal? entry detector (registry.detectorName detector) request = none ∧
      entry.subscribers = registry.subscribers topic ∧
      entry.publishers = registry.publishers topic ∧
      after.topic? topic = some (withEdge entry detector request) ∧
      ∀ other, other ≠ topic → after.subscribers other = registry.subscribers other ∧
        after.publishers other = registry.publishers other := by
  cases closed : registry.sealed with
  | true =>
      rw [addEdge_sealed closed] at taken
      cases (Prod.mk.inj taken).2
  | false =>
      rcases addEdge_open distinct closed detector topic request with
        ⟨entry, found, ⟨cause, _, same⟩ | ⟨id, _, accepted, same⟩⟩
      · rw [same] at taken
        cases (Prod.mk.inj taken).2
      · rw [same] at taken
        have lookup : ∀ other, after.topic? other =
            ((registry.ensureTopic topic).1.topic? other).map (connect topic detector request) := by
          rw [← (Prod.mk.inj taken).1]
          exact topic?_map (connect topic detector request) rfl
            (payload_connect topic detector request)
        have edges := edges_ensureTopic registry topic topic
        rw [subscribers, publishers, found] at edges
        refine ⟨entry, accepted, edges.1, edges.2, ?_, ?_⟩
        · rw [lookup, found, Option.map_some, connect, if_pos (payload_of_topic? found)]
        · intro other different
          rw [← (edges_ensureTopic registry topic other).1,
            ← (edges_ensureTopic registry topic other).2,
            subscribers, subscribers, publishers, publishers, lookup]
          cases record : (registry.ensureTopic topic).1.topic? other with
          | none => exact ⟨rfl, rfl⟩
          | some entry =>
              have elsewhere : entry.payload ≠ topic := by
                rw [payload_of_topic? record]
                exact different
              rw [Option.map_some, connect, if_neg elsewhere]
              exact ⟨rfl, rfl⟩

/-! ## The registry before and after a wiring -/

/-- Apart from topics without edges, nothing has been added but edges of one
detector: once these are taken out, the records are as they were. -/
structure Gained (detector : DetectorId) (before after : Registry) : Prop where
  closing : after.sealed = before.sealed
  detectors : after.detectors = before.detectors
  topics : ∃ blanks,
    after.topics.map (withoutEdges detector) = before.topics.map (withoutEdges detector) ++ blanks ∧
      ∀ entry ∈ blanks, entry.publishers = [] ∧ entry.subscribers = []

theorem Gained.refl (detector : DetectorId) (registry : Registry) :
    registry.Gained detector registry where
  closing := rfl
  detectors := rfl
  topics := ⟨[], by simp, by intro _ member; cases member⟩

theorem Gained.trans {detector : DetectorId} {first second third : Registry}
    (before : first.Gained detector second) (after : second.Gained detector third) :
    first.Gained detector third where
  closing := after.closing.trans before.closing
  detectors := after.detectors.trans before.detectors
  topics := by
    rcases before.topics with ⟨front, frontSame, frontBlank⟩
    rcases after.topics with ⟨back, backSame, backBlank⟩
    refine ⟨front ++ back, by rw [backSame, frontSame, List.append_assoc], ?_⟩
    intro entry member
    rcases List.mem_append.mp member with inFront | inBack
    · exact frontBlank entry inFront
    · exact backBlank entry inBack

theorem Gained.ensureTopic (detector : DetectorId) (registry : Registry) (topic : Payload) :
    registry.Gained detector (registry.ensureTopic topic).1 := by
  cases closed : registry.sealed with
  | true =>
      rw [ensureTopic_sealed closed]
      exact Gained.refl detector registry
  | false =>
      rcases ensureTopic_open closed topic with ⟨id, entry, blanks, same, _, _, blank⟩
      rw [same]
      refine ⟨rfl, rfl, blanks.map (withoutEdges detector), List.map_append, ?_⟩
      intro added member
      rcases List.mem_map.mp member with ⟨source, member, rfl⟩
      rcases blank with empty | ⟨_, single⟩
      · rw [empty] at member
        cases member
      · rw [single] at member
        rw [List.mem_singleton.mp member]
        exact ⟨rfl, rfl⟩

/-- Taking out the detector's edges takes out the one that was entered. -/
theorem withoutEdges_connect (topic : Payload) (detector : DetectorId) (request : EdgeRequest)
    (entry : TopicRecord) :
    withoutEdges detector (connect topic detector request entry) = withoutEdges detector entry := by
  rw [connect]
  split
  · cases request <;> simp [withEdge, withoutEdges]
  · rfl

theorem Gained.addEdge {registry : Registry}
    (distinct : (registry.topics.map TopicRecord.payload).Nodup) (detector : DetectorId)
    (topic : Payload) (request : EdgeRequest) :
    registry.Gained detector (registry.addEdge detector topic request).1 := by
  cases closed : registry.sealed with
  | true =>
      rw [addEdge_sealed closed]
      exact Gained.refl detector registry
  | false =>
      have larger := Gained.ensureTopic detector registry topic
      rcases addEdge_open distinct closed detector topic request with
        ⟨entry, _, ⟨cause, _, same⟩ | ⟨id, _, _, same⟩⟩
      · rw [same]
        exact larger
      · rw [same]
        refine ⟨larger.closing, larger.detectors, ?_⟩
        have stripped : withoutEdges detector ∘ connect topic detector request =
            withoutEdges detector := by
          funext other
          exact withoutEdges_connect topic detector request other
        simpa only [List.map_map, stripped] using larger.topics

theorem Gained.edges {detector : DetectorId} {before after : Registry}
    (gained : before.Gained detector after) (topic : Payload) :
    ((after.subscribers topic).filter fun subscriber => subscriber ≠ detector) =
        ((before.subscribers topic).filter fun subscriber => subscriber ≠ detector) ∧
      ((after.publishers topic).filter fun publisher => publisher.1 ≠ detector) =
        ((before.publishers topic).filter fun publisher => publisher.1 ≠ detector) := by
  rcases gained.topics with ⟨blanks, same, blank⟩
  have answers := edges_append_blank (before.takeBack detector) (after.takeBack detector) same
    blank topic
  rw [subscribers_takeBack, subscribers_takeBack, publishers_takeBack,
    publishers_takeBack] at answers
  exact answers

theorem Gained.hasTopic {detector : DetectorId} {before after : Registry}
    (gained : before.Gained detector after) {topic : Payload}
    (known : before.hasTopic topic = true) : after.hasTopic topic = true := by
  rcases gained.topics with ⟨blanks, same, _⟩
  have payloads : after.topics.map TopicRecord.payload =
      before.topics.map TopicRecord.payload ++ blanks.map TopicRecord.payload := by
    have mapped := congrArg (List.map TopicRecord.payload) same
    rw [List.map_append, List.map_map, List.map_map] at mapped
    exact mapped
  rw [hasTopic_iff] at known ⊢
  rw [payloads]
  exact List.mem_append_left _ known

def Agree (detector : DetectorId) (before after : Registry) : Prop :=
  ∀ topic, (detector ∈ after.subscribers topic ↔ detector ∈ before.subscribers topic) ∧
    ∀ timing, after.isDeclared detector topic timing = true ↔
      before.isDeclared detector topic timing = true

theorem Agree.trans {detector : DetectorId} {first second third : Registry}
    (before : Agree detector first second) (after : Agree detector second third) :
    Agree detector first third :=
  fun topic => ⟨(after topic).1.trans (before topic).1,
    fun timing => ((after topic).2 timing).trans ((before topic).2 timing)⟩

/-- Where the edges of others are the same, they say the same of any other
detector. -/
theorem agree_of_filter {detector other : DetectorId} (different : other ≠ detector)
    {before after : Registry}
    (same : ∀ topic,
      ((after.subscribers topic).filter fun subscriber => subscriber ≠ detector) =
          ((before.subscribers topic).filter fun subscriber => subscriber ≠ detector) ∧
        ((after.publishers topic).filter fun publisher => publisher.1 ≠ detector) =
          ((before.publishers topic).filter fun publisher => publisher.1 ≠ detector)) :
    Agree other before after := by
  have subscribed : ∀ subscribers : List DetectorId,
      other ∈ subscribers ↔ other ∈ subscribers.filter fun subscriber => subscriber ≠ detector := by
    intro subscribers
    rw [List.mem_filter, decide_eq_true_eq]
    exact (and_iff_left different).symm
  have published : ∀ (publishers : List (DetectorId × Timing)) (timing : Timing),
      (other, timing) ∈ publishers ↔
        (other, timing) ∈ publishers.filter fun publisher => publisher.1 ≠ detector := by
    intro publishers timing
    rw [List.mem_filter, decide_eq_true_eq]
    exact (and_iff_left different).symm
  intro topic
  refine ⟨?_, fun timing => ?_⟩
  · rw [subscribed, (same topic).1, ← subscribed]
  · rw [isDeclared_iff, isDeclared_iff, published, (same topic).2, ← published]

theorem Gained.agree {detector other : DetectorId} {before after : Registry}
    (gained : before.Gained detector after) (different : other ≠ detector) :
    Agree other before after :=
  agree_of_filter different gained.edges

theorem agree_takeBack {detector other : DetectorId} (different : other ≠ detector)
    (registry : Registry) : Agree other registry (registry.takeBack detector) := by
  apply agree_of_filter different
  intro topic
  rw [subscribers_takeBack, publishers_takeBack, List.filter_filter, List.filter_filter]
  simp only [Bool.and_self, and_self]

end Registry

namespace Wiring

/-- The detector's own table names each topic once, and exactly those of
which the registry has the detector as a subscriber. -/
structure Tabled (registry : Registry) (detector : DetectorId) (table : List Payload) : Prop where
  nodup : table.Nodup
  agrees : ∀ topic, topic ∈ table ↔ detector ∈ registry.subscribers topic

theorem Tabled.agree {before after : Registry} {detector : DetectorId} {table : List Payload}
    (tabled : Tabled before detector table) (same : Registry.Agree detector before after) :
    Tabled after detector table :=
  ⟨tabled.nodup, fun topic => (tabled.agrees topic).trans (same topic).1.symm⟩

theorem Tabled.declare {registry after : Registry} (sound : registry.Sound)
    {detector : DetectorId} {table : List Payload} (tabled : Tabled registry detector table)
    {capability : Capability} {topic : Payload} {id : TopicId}
    (taken : registry.addEdge detector topic capability.request = (after, .ok id)) :
    Tabled after detector (if capability = .subscribe then table ++ [topic] else table) := by
  rcases Registry.edges_addEdge sound.distinct taken with
    ⟨entry, accepted, subscribed, _, record, elsewhere⟩
  have here : after.subscribers topic =
      (Registry.withEdge entry detector capability.request).subscribers := by
    rw [Registry.subscribers, record]
    rfl
  by_cases subscribes : capability = .subscribe
  · subst subscribes
    have fresh : topic ∉ table := by
      rw [tabled.agrees, ← subscribed]
      exact (TopicRecord.refusal?_subscriber.mp accepted).2
    rw [if_pos rfl]
    constructor
    · refine List.nodup_append.mpr ⟨tabled.nodup, List.nodup_singleton _, ?_⟩
      intro other member added last equal
      rw [equal, List.mem_singleton.mp last] at member
      exact fresh member
    · intro other
      by_cases same : other = topic
      · subst same
        rw [here]
        simp [Registry.withEdge, Capability.request]
      · rw [(elsewhere other same).1, ← tabled.agrees]
        simp [same]
  · rw [if_neg subscribes]
    refine ⟨tabled.nodup, ?_⟩
    intro other
    by_cases same : other = topic
    · subst same
      have kept : (Registry.withEdge entry detector capability.request).subscribers =
          entry.subscribers := by
        cases capability with
        | subscribe => exact absurd rfl subscribes
        | publish => rfl
        | publishLater => rfl
        | schedule => rfl
      rw [here, kept, subscribed]
      exact tabled.agrees other
    · rw [(elsewhere other same).1]
      exact tabled.agrees other

/-- A wiring leaves a sound registry, which has gained nothing but what the
detector declared, and a table that agrees with it. -/
theorem run_leaves (wiring : Wiring) {registry : Registry} (sound : registry.Sound)
    {detector : DetectorId} (known : detector < registry.detectors.length)
    {table : List Payload} (tabled : Tabled registry detector table) :
    (wiring.run detector registry table).registry.Sound ∧
      registry.Gained detector (wiring.run detector registry table).registry ∧
      Tabled (wiring.run detector registry table).registry detector
        (wiring.run detector registry table).subscriptions := by
  induction wiring generalizing registry table with
  | finish result => exact ⟨sound, Registry.Gained.refl detector registry, tabled⟩
  | declare capability topic next ih =>
      have afterSound := sound.addEdge known topic capability.request
      have gained := Registry.Gained.addEdge sound.distinct detector topic capability.request
      have afterKnown := known
      rw [← gained.detectors] at afterKnown
      rw [run]
      cases answer : registry.addEdge detector topic capability.request with
      | mk after result =>
          rw [answer] at afterSound gained afterKnown
          cases result with
          | error error =>
              have same := Registry.edges_addEdge_refused sound.distinct answer
              have afterTabled : Tabled after detector table := by
                refine ⟨tabled.nodup, ?_⟩
                intro other
                rw [(same other).1]
                exact tabled.agrees other
              rcases ih (.error error) afterSound afterKnown afterTabled with
                ⟨finalSound, finalGained, finalTabled⟩
              exact ⟨finalSound, gained.trans finalGained, finalTabled⟩
          | ok id =>
              rcases ih (.ok ()) afterSound afterKnown (tabled.declare sound answer) with
                ⟨finalSound, finalGained, finalTabled⟩
              exact ⟨finalSound, gained.trans finalGained, finalTabled⟩

end Wiring

/-- A lag whose wiring succeeds has subscribed to its source and nothing
else, and may publish the lagged source into later passes. -/
theorem Lag.wiring_ok {registry : Registry} (sound : registry.Sound) {detector : DetectorId}
    (known : detector < registry.detectors.length) {source : Payload}
    (ok : ((Lag.wiring source).run detector registry []).result = .ok ()) :
    ((Lag.wiring source).run detector registry []).subscriptions = [source] ∧
      ((Lag.wiring source).run detector registry []).registry.isDeclared detector
        (.lagged source) .delayed = true := by
  revert ok
  simp only [Lag.wiring, Wiring.ofList, Wiring.run]
  have afterSound := sound.addEdge known source Capability.subscribe.request
  cases subscription : registry.addEdge detector source Capability.subscribe.request with
  | mk middle result =>
      rw [subscription] at afterSound
      cases result with
      | error error =>
          intro ok
          cases ok
      | ok id =>
          simp only [if_true, List.nil_append]
          cases publication : middle.addEdge detector (.lagged source)
              Capability.publishLater.request with
          | mk after result =>
              cases result with
              | error error =>
                  intro ok
                  cases ok
              | ok id =>
                  intro _
                  refine ⟨by simp, ?_⟩
                  rcases Registry.edges_addEdge afterSound.distinct publication with
                    ⟨entry, _, _, _, record, _⟩
                  simp [Registry.isDeclared, record, Capability.request, Registry.withEdge]

/-- The slots of a graph, described by their tables and the sources of the
lags, are those of its registry: each detector has one, its table lists what
it subscribes to, and the lags are wired as lags are. -/
structure Registry.Fits (registry : Registry)
    (shapes : List (List Payload × Option Payload)) : Prop where
  count : shapes.length = registry.detectors.length
  tables : ∀ detector table source?, shapes[detector]? = some (table, source?) →
    Wiring.Tabled registry detector table
  lags : ∀ detector table source, shapes[detector]? = some (table, some source) →
    table = [source] ∧ registry.isDeclared detector (.lagged source) .delayed = true

theorem Registry.Fits.subscribed_lag {registry : Registry}
    {shapes : List (List Payload × Option Payload)} (fits : registry.Fits shapes)
    {detector : DetectorId} {table : List Payload} {source : Payload}
    (found : shapes[detector]? = some (table, some source)) (topic : Payload) :
    detector ∈ registry.subscribers topic ↔ topic = source := by
  rw [← (fits.tables detector table (some source) found).agrees,
    (fits.lags detector table source found).1, List.mem_singleton]

theorem Registry.Fits.hasTopic_lagged {registry : Registry}
    {shapes : List (List Payload × Option Payload)} (fits : registry.Fits shapes)
    {detector : DetectorId} {table : List Payload} {source : Payload}
    (found : shapes[detector]? = some (table, some source)) :
    registry.hasTopic (.lagged source) = true :=
  Registry.hasTopic_of_isDeclared (fits.lags detector table source found).2

end ReactiveGraph
