import Mathlib.Data.List.Induction
import ReactiveGraph.Proofs.Wiring

namespace ReactiveGraph

/-!
# What an open registry accepts

While a registry is open, topics, detectors and edges are registered in any
order, and detectors are taken back.  Whatever has come before, an edge is
accepted just if it does not contradict the edges that its topic has already.
Whether edges contradict each other does not depend on which one came first,
so the declarations of a detector are accepted in full or not, in whatever
order they are made.
-/

def EdgeRequest.timing? : EdgeRequest → Option Timing
  | .publisher timing => some timing
  | .subscriber => none

def Declaration.requestAt (topic : Payload) (declaration : Declaration) : Option EdgeRequest :=
  if declaration.topic = topic then some declaration.capability.request else none

namespace TopicEdges

def addAll (edges : TopicEdges) (detector : DetectorId) (requests : List EdgeRequest) :
    TopicEdges where
  publishers := edges.publishers ++
    (requests.filterMap EdgeRequest.timing?).map fun timing => (detector, timing)
  subscribers := edges.subscribers ++ List.replicate (requests.count .subscriber) detector

theorem addAll_nil (edges : TopicEdges) (detector : DetectorId) :
    edges.addAll detector [] = edges := by
  simp [addAll]

theorem addAll_cons (edges : TopicEdges) (detector : DetectorId) (request : EdgeRequest)
    (rest : List EdgeRequest) :
    edges.addAll detector (request :: rest) =
      (edges.add detector request).addAll detector rest := by
  cases request with
  | publisher timing =>
      have first : EdgeRequest.timing? (.publisher timing) = some timing := rfl
      simp [addAll, add, List.filterMap_cons_some first]
  | subscriber =>
      have first : EdgeRequest.timing? .subscriber = none := rfl
      simp [addAll, add, List.filterMap_cons_none first, List.replicate_succ]

/-- Edges that go with several more do not contradict each other. -/
theorem Compatible.of_addAll {edges : TopicEdges} {detector : DetectorId}
    {requests : List EdgeRequest} (compatible : (edges.addAll detector requests).Compatible) :
    edges.Compatible where
  subscribers_nodup := compatible.subscribers_nodup.of_append_left
  publishers_nodup := by
    have publishers := compatible.publishers_nodup
    rw [addAll, List.map_append] at publishers
    exact publishers.of_append_left
  apart := by
    intro other member published
    exact compatible.apart other (List.mem_append_left _ member) (List.mem_append_left _ published)

/-- The order of edges on either side has no bearing on whether they
contradict each other. -/
theorem Compatible.perm {first second : TopicEdges} (compatible : first.Compatible)
    (publishers : first.publishers.Perm second.publishers)
    (subscribers : first.subscribers.Perm second.subscribers) : second.Compatible where
  subscribers_nodup := subscribers.nodup_iff.mp compatible.subscribers_nodup
  publishers_nodup := (publishers.map Prod.fst).nodup_iff.mp compatible.publishers_nodup
  apart := by
    intro detector member published
    exact compatible.apart detector (subscribers.mem_iff.mpr member)
      (publishers.mem_iff.mpr published)

theorem Compatible.addAll_perm {edges : TopicEdges} {detector : DetectorId}
    {requests others : List EdgeRequest}
    (compatible : (edges.addAll detector requests).Compatible) (perm : requests.Perm others) :
    (edges.addAll detector others).Compatible := by
  apply compatible.perm
  · exact ((perm.filterMap _).map _).append_left _
  · rw [addAll, addAll, perm.count_eq]

end TopicEdges

/-- One thing that is done to a registry before it is closed. -/
inductive Registration where
  | topic (payload : Payload)
  | edge (detector : DetectorId) (payload : Payload) (request : EdgeRequest)
  | detector (name : String)
  | takeBack (detector : DetectorId)

def Registration.payload? : Registration → Option Payload
  | .topic payload => some payload
  | .edge _ payload _ => some payload
  | .detector _ => none
  | .takeBack _ => none

namespace Registry

/-- The registry after a registration, whether or not it has succeeded. -/
def register (registry : Registry) : Registration → Registry
  | .topic payload => (registry.ensureTopic payload).1
  | .edge detector payload request => (registry.addEdge detector payload request).1
  | .detector name =>
      match registry.addDetector name with
      | .ok (_, entered) => entered
      | .error _ => registry
  | .takeBack detector => registry.takeBack detector

def registerAll (registry : Registry) (registrations : List Registration) : Registry :=
  registrations.foldl register registry

/-- The edges of a topic.  One that is not registered has none. -/
def edgesAt (registry : Registry) (topic : Payload) : TopicEdges :=
  ⟨registry.publishers topic, registry.subscribers topic⟩

/-- The registry is open, every payload type has one topic, and the edges of
each topic do not contradict each other. -/
structure Lawful (registry : Registry) : Prop where
  opened : registry.sealed = false
  distinct : (registry.topics.map TopicRecord.payload).Nodup
  compatible : ∀ entry ∈ registry.topics, entry.edges.Compatible

theorem lawful_empty : Lawful {} where
  opened := rfl
  distinct := List.nodup_nil
  compatible := by intro _ member; cases member

theorem edgesAt_of_topic? {registry : Registry} {topic : Payload} {entry : TopicRecord}
    (found : registry.topic? topic = some entry) : registry.edgesAt topic = entry.edges := by
  rw [edgesAt, publishers, subscribers, found]
  rfl

theorem edgesAt_ensureTopic (registry : Registry) (topic other : Payload) :
    (registry.ensureTopic topic).1.edgesAt other = registry.edgesAt other := by
  rcases registry.edges_ensureTopic topic other with ⟨subscribers, publishers⟩
  rw [edgesAt, edgesAt, subscribers, publishers]

/-! ## Rules that every registration keeps -/

section

variable {registry : Registry}

theorem Lawful.ensureTopic (lawful : registry.Lawful) (topic : Payload) :
    (registry.ensureTopic topic).1.Lawful where
  opened := (registry.ensureTopic_frame topic).2.trans lawful.opened
  distinct := distinct_ensureTopic lawful.distinct topic
  compatible := by
    intro entry member
    rcases mem_ensureTopic member with before | rfl
    · exact lawful.compatible entry before
    · exact (TopicRecord.sound_blank topic _ 0).compatible

/-- An open registry has looked the topic up and then either refused the edge
or entered it. -/
theorem Lawful.addEdge_cases (lawful : registry.Lawful) (detector : DetectorId) (topic : Payload)
    (request : EdgeRequest) :
    (¬((registry.edgesAt topic).add detector request).Compatible ∧ ∃ error,
        registry.addEdge detector topic request =
          ((registry.ensureTopic topic).1, .error error)) ∨
      ((registry.edgesAt topic).add detector request).Compatible ∧ ∃ id,
        (registry.ensureTopic topic).2 = .ok id ∧
          registry.addEdge detector topic request =
            ({ (registry.ensureTopic topic).1 with
                topics := (registry.ensureTopic topic).1.topics.map
                  (connect topic detector request) }, .ok id) := by
  rcases addEdge_open lawful.distinct lawful.opened detector topic request with
    ⟨entry, found, answer⟩
  have compatible := (lawful.ensureTopic topic).compatible entry (mem_of_topic? found)
  rw [← edgesAt_ensureTopic registry topic topic, edgesAt_of_topic? found,
    ← TopicRecord.refusal?_eq_none_iff compatible]
  rcases answer with ⟨error, refused, same⟩ | ⟨id, answered, accepted, same⟩
  · refine Or.inl ⟨?_, error, same⟩
    rw [refused]
    exact Option.some_ne_none error
  · exact Or.inr ⟨accepted, id, answered, same⟩

theorem Lawful.addEdge (lawful : registry.Lawful) (detector : DetectorId) (topic : Payload)
    (request : EdgeRequest) : (registry.addEdge detector topic request).1.Lawful := by
  have larger := lawful.ensureTopic topic
  rcases lawful.addEdge_cases detector topic request with
    ⟨_, error, same⟩ | ⟨compatible, id, _, same⟩
  · rw [same]
    exact larger
  · rw [same]
    refine ⟨larger.opened, ?_, ?_⟩
    · rw [payloads_map (payload_connect topic detector request)]
      exact larger.distinct
    · intro changed member
      rcases List.mem_map.mp member with ⟨entry, source, rfl⟩
      rw [connect]
      split
      next here =>
        have found := topic?_of_mem larger.distinct source
        rw [here] at found
        rw [TopicRecord.edges_withEdge, ← edgesAt_of_topic? found, edgesAt_ensureTopic]
        exact compatible
      next => exact larger.compatible entry source

theorem Lawful.takeBack (lawful : registry.Lawful) (detector : DetectorId) :
    (registry.takeBack detector).Lawful where
  opened := lawful.opened
  distinct := by
    rw [payloads_takeBack]
    exact lawful.distinct
  compatible := by
    intro changed member
    rcases List.mem_map.mp member with ⟨entry, source, rfl⟩
    exact (lawful.compatible entry source).without detector

theorem Lawful.register (lawful : registry.Lawful) (registration : Registration) :
    (registry.register registration).Lawful := by
  cases registration with
  | topic payload => exact lawful.ensureTopic payload
  | edge detector payload request => exact lawful.addEdge detector payload request
  | takeBack detector => exact lawful.takeBack detector
  | detector name =>
      rw [Registry.register, addDetector, lawful.opened]
      exact ⟨rfl, lawful.distinct, lawful.compatible⟩

theorem Lawful.registerAll (lawful : registry.Lawful) (registrations : List Registration) :
    (registry.registerAll registrations).Lawful := by
  induction registrations generalizing registry with
  | nil => exact lawful
  | cons registration rest ih => exact ih (lawful.register registration)

theorem topicId?_eq (registry : Registry) (topic : Payload) :
    registry.topicId? topic =
      (registry.topics.map TopicRecord.payload).findIdx? fun payload => payload = topic := by
  rw [topicId?, List.findIdx?_map]
  rfl

theorem topicId?_of_payloads {before after : Registry}
    (same : after.topics.map TopicRecord.payload = before.topics.map TopicRecord.payload)
    (topic : Payload) : after.topicId? topic = before.topicId? topic := by
  rw [topicId?_eq, topicId?_eq, same]

theorem Lawful.topicId?_ensureTopic (lawful : registry.Lawful) (topic : Payload) :
    ∃ id, (registry.ensureTopic topic).2 = .ok id ∧
      (registry.ensureTopic topic).1.topicId? topic = some id := by
  rw [Registry.ensureTopic]
  cases found : registry.topicId? topic with
  | some id => exact ⟨id, rfl, found⟩
  | none =>
      refine ⟨registry.topics.length, by simp [lawful.opened], ?_⟩
      rw [topicId?] at found
      simp [lawful.opened, topicId?, List.findIdx?_append, found]

/-- A registration appends the payload type that comes up, if it has no topic
yet. -/
theorem Lawful.payloads_register (lawful : registry.Lawful) (registration : Registration) :
    (registry.register registration).topics.map TopicRecord.payload =
      registry.topics.map TopicRecord.payload ++
        registration.payload?.toList.removeAll (registry.topics.map TopicRecord.payload) := by
  have ensured : ∀ topic, (registry.ensureTopic topic).1.topics.map TopicRecord.payload =
      registry.topics.map TopicRecord.payload ++
        [topic].removeAll (registry.topics.map TopicRecord.payload) := by
    intro topic
    rw [List.cons_removeAll, List.nil_removeAll]
    rcases ensureTopic_open lawful.opened topic with
      ⟨id, entry, blanks, same, placed, payload, empty | ⟨missing, single⟩⟩
    · have known : topic ∈ registry.topics.map TopicRecord.payload := by
        rw [empty, List.append_nil] at placed
        exact payload ▸ List.mem_map_of_mem (List.mem_of_getElem? placed)
      rw [if_neg (by simpa using known), same, empty, List.append_nil, List.append_nil]
    · rw [if_pos (by simpa using missing), same, single, List.map_append]
      rfl
  cases registration with
  | topic payload => exact ensured payload
  | edge detector payload request =>
      have kept : (registry.addEdge detector payload request).1.topics.map TopicRecord.payload =
          (registry.ensureTopic payload).1.topics.map TopicRecord.payload := by
        rcases lawful.addEdge_cases detector payload request with
          ⟨_, error, same⟩ | ⟨_, id, _, same⟩
        · rw [same]
        · rw [same, payloads_map (payload_connect payload detector request)]
      exact kept.trans (ensured payload)
  | detector name =>
      rw [Registry.register, addDetector, lawful.opened]
      exact (List.append_nil _).symm
  | takeBack detector =>
      rw [Registry.register, payloads_takeBack]
      exact (List.append_nil _).symm

/-- A topic keeps its identifier, whatever is registered after it. -/
theorem Lawful.topicId?_registerAll (lawful : registry.Lawful) {topic : Payload} {id : TopicId}
    (found : registry.topicId? topic = some id) (registrations : List Registration) :
    (registry.registerAll registrations).topicId? topic = some id := by
  induction registrations generalizing registry with
  | nil => exact found
  | cons registration rest ih =>
      apply ih (lawful.register registration)
      rw [topicId?_eq, lawful.payloads_register]
      rw [topicId?_eq] at found
      exact (List.prefix_append _ _).findIdx?_eq_some found

end

theorem payloads_registerAll (registrations : List Registration) :
    (registerAll {} registrations).topics.map TopicRecord.payload =
      (registrations.filterMap Registration.payload?).eraseDups := by
  induction registrations using List.reverseRecOn with
  | nil => rfl
  | append_singleton registrations registration ih =>
      have last : (registerAll {} (registrations ++ [registration])) =
          (registerAll {} registrations).register registration := List.foldl_concat ..
      rw [last, (lawful_empty.registerAll registrations).payloads_register, ih,
        List.filterMap_append, List.eraseDups_append]
      congr 1
      cases mentioned : registration.payload? with
      | none => simp [mentioned]
      | some topic =>
          simp only [List.filterMap_cons_some mentioned, List.filterMap_nil, Option.toList,
            List.cons_removeAll, List.nil_removeAll, List.contains_eq_mem, List.mem_eraseDups]
          split <;> rfl

section

variable {registry : Registry}

theorem Lawful.accepts_iff (lawful : registry.Lawful) (detector : DetectorId) (topic : Payload)
    (request : EdgeRequest) :
    (∃ id, (registry.addEdge detector topic request).2 = .ok id) ↔
      ((registry.edgesAt topic).add detector request).Compatible := by
  rcases lawful.addEdge_cases detector topic request with
    ⟨contradicts, error, same⟩ | ⟨compatible, id, _, same⟩
  · rw [same]
    refine iff_of_false ?_ contradicts
    rintro ⟨id, wrong⟩
    cases wrong
  · rw [same]
    exact iff_of_true ⟨id, rfl⟩ compatible

/-- An edge that is accepted shows at its topic and nowhere else. -/
theorem Lawful.edgesAt_accepted (lawful : registry.Lawful) {detector : DetectorId}
    {topic : Payload} {request : EdgeRequest} {id : TopicId}
    (accepted : (registry.addEdge detector topic request).2 = .ok id) (other : Payload) :
    (registry.addEdge detector topic request).1.edgesAt other =
      if other = topic then (registry.edgesAt topic).add detector request
      else registry.edgesAt other := by
  have taken : registry.addEdge detector topic request =
      ((registry.addEdge detector topic request).1, .ok id) := Prod.ext rfl accepted
  rcases edges_addEdge lawful.distinct taken with
    ⟨entry, _, subscribed, published, record, elsewhere⟩
  by_cases here : other = topic
  · subst here
    rw [if_pos rfl, edgesAt_of_topic? record, TopicRecord.edges_withEdge, TopicRecord.edges,
      subscribed, published, edgesAt]
  · rw [if_neg here, edgesAt, edgesAt, (elsewhere other here).1, (elsewhere other here).2]

theorem Lawful.edgesAt_refused (lawful : registry.Lawful) {detector : DetectorId}
    {topic : Payload} {request : EdgeRequest} {error : WiringError}
    (refused : (registry.addEdge detector topic request).2 = .error error) (other : Payload) :
    (registry.addEdge detector topic request).1.edgesAt other = registry.edgesAt other := by
  rcases edges_addEdge_refused lawful.distinct (Prod.ext rfl refused) other with
    ⟨subscribers, publishers⟩
  rw [edgesAt, edgesAt, subscribers, publishers]

theorem Lawful.topicId?_accepted (lawful : registry.Lawful) {detector : DetectorId}
    {topic : Payload} {request : EdgeRequest} {id : TopicId}
    (accepted : (registry.addEdge detector topic request).2 = .ok id) :
    (registry.addEdge detector topic request).1.topicId? topic = some id := by
  rcases lawful.topicId?_ensureTopic topic with ⟨place, answered, found⟩
  rcases lawful.addEdge_cases detector topic request with ⟨_, error, same⟩ | ⟨_, other, ok, same⟩
  · rw [same] at accepted
    cases accepted
  · rw [same] at accepted ⊢
    cases accepted
    rw [answered] at ok
    cases ok
    rw [topicId?_of_payloads (payloads_map (payload_connect topic detector request))]
    exact found

/-! ## Declarations that are accepted in full -/

/-- Every one of the declarations is accepted when the detector makes them in
turn. -/
def TakesAll (registry : Registry) (detector : DetectorId) : List Declaration → Prop
  | [] => True
  | item :: rest =>
      (∃ id, (registry.addEdge detector item.topic item.capability.request).2 = .ok id) ∧
        (registry.addEdge detector item.topic item.capability.request).1.TakesAll detector rest

theorem Lawful.edgesAt (lawful : registry.Lawful) (topic : Payload) :
    (registry.edgesAt topic).Compatible := by
  cases found : registry.topic? topic with
  | some entry =>
      rw [edgesAt_of_topic? found]
      exact lawful.compatible entry (mem_of_topic? found)
  | none =>
      rw [Registry.edgesAt, publishers, subscribers, found]
      exact (TopicRecord.sound_blank topic 0 0).compatible

/-- Once a declaration is accepted, its edge is among those that the rest has
to go together with. -/
theorem Lawful.addAll_accepted (lawful : registry.Lawful) {detector : DetectorId}
    {item : Declaration} {id : TopicId}
    (accepted : (registry.addEdge detector item.topic item.capability.request).2 = .ok id)
    (rest : List Declaration) (topic : Payload) :
    ((registry.addEdge detector item.topic item.capability.request).1.edgesAt topic).addAll detector
        (rest.filterMap (Declaration.requestAt topic)) =
      (registry.edgesAt topic).addAll detector
        ((item :: rest).filterMap (Declaration.requestAt topic)) := by
  rw [lawful.edgesAt_accepted accepted]
  by_cases here : topic = item.topic
  · have asked : Declaration.requestAt topic item = some item.capability.request :=
      if_pos here.symm
    rw [if_pos here, List.filterMap_cons_some asked, TopicEdges.addAll_cons, here]
  · have other : Declaration.requestAt topic item = none := if_neg fun same => here same.symm
    rw [if_neg here, List.filterMap_cons_none other]

/-- The declarations are accepted in full just if what they ask for at each
topic goes together with what is there. -/
theorem Lawful.takesAll_iff (lawful : registry.Lawful) (detector : DetectorId)
    (declarations : List Declaration) :
    registry.TakesAll detector declarations ↔
      ∀ topic, ((registry.edgesAt topic).addAll detector
        (declarations.filterMap (Declaration.requestAt topic))).Compatible := by
  induction declarations generalizing registry with
  | nil =>
      refine iff_of_true trivial fun topic => ?_
      rw [List.filterMap_nil, TopicEdges.addAll_nil]
      exact lawful.edgesAt topic
  | cons item rest ih =>
      have later := lawful.addEdge detector item.topic item.capability.request
      constructor
      · rintro ⟨⟨id, accepted⟩, remaining⟩ topic
        rw [← lawful.addAll_accepted accepted]
        exact (ih later).mp remaining topic
      · intro compatible
        have asked : Declaration.requestAt item.topic item = some item.capability.request :=
          if_pos rfl
        have own := compatible item.topic
        rw [List.filterMap_cons_some asked, TopicEdges.addAll_cons] at own
        rcases (lawful.accepts_iff _ _ _).mpr own.of_addAll with ⟨id, accepted⟩
        refine ⟨⟨id, accepted⟩, (ih later).mpr fun topic => ?_⟩
        rw [lawful.addAll_accepted accepted]
        exact compatible topic

theorem Lawful.takesAll_perm (lawful : registry.Lawful) {detector : DetectorId}
    {declarations others : List Declaration} (perm : declarations.Perm others)
    (takes : registry.TakesAll detector declarations) : registry.TakesAll detector others := by
  rw [lawful.takesAll_iff] at takes ⊢
  intro topic
  exact (takes topic).addAll_perm (perm.filterMap _)

/-- A wiring that makes declarations none of which is optional succeeds just
if they are accepted in full. -/
theorem ofList_ok_iff {declarations : List Declaration}
    (required : ∀ item ∈ declarations, item.optional = false) (registry : Registry)
    (detector : DetectorId) (table : List Payload) :
    ((Wiring.ofList declarations).run detector registry table).result = .ok () ↔
      registry.TakesAll detector declarations := by
  induction declarations generalizing registry table with
  | nil => exact iff_of_true rfl trivial
  | cons item rest ih =>
      have needed := required item List.mem_cons_self
      have others := fun other member => required other (List.mem_cons_of_mem item member)
      rw [Wiring.ofList, Wiring.run, TakesAll]
      rcases answer : registry.addEdge detector item.topic item.capability.request with
        ⟨after, error | id⟩
      · refine iff_of_false ?_ ?_
        · simp [needed, Wiring.run]
        · rintro ⟨⟨id, wrong⟩, _⟩
          cases wrong
      · exact (ih others after _).trans (and_iff_right ⟨id, rfl⟩).symm

end

/-- What an open registry has come to by some registrations, and what it makes
of the next one.  The topics are those that have come up, in the order in
which they first did, and keep their identifiers.  An edge is accepted just if
it does not contradict those of its topic; the registry then has this edge and
no other in addition, and if the edge is refused, it has the edges that it
had.  Whether declarations are accepted in full does not depend on their
order. -/
structure Exact (registrations : List Registration) (registry : Registry) : Prop where
  topics : registry.topics.map TopicRecord.payload =
    (registrations.filterMap Registration.payload?).eraseDups
  distinct : (registry.topics.map TopicRecord.payload).Nodup
  lasting : ∀ topic id, registry.topicId? topic = some id →
    (registry.topics.map TopicRecord.payload)[id]? = some topic ∧
      ∀ more, (registry.registerAll more).topicId? topic = some id
  answered : ∀ topic, ∃ id, (registry.ensureTopic topic).2 = .ok id ∧
    (registry.ensureTopic topic).1.topicId? topic = some id
  compatible : ∀ entry ∈ registry.topics, entry.edges.Compatible
  accepts : ∀ detector topic request,
    (∃ id, (registry.addEdge detector topic request).2 = .ok id) ↔
      ((registry.edgesAt topic).add detector request).Compatible
  appends : ∀ detector topic request id, (registry.addEdge detector topic request).2 = .ok id →
    (registry.addEdge detector topic request).1.topicId? topic = some id ∧
      ∀ other, (registry.addEdge detector topic request).1.edgesAt other =
        if other = topic then (registry.edgesAt topic).add detector request
        else registry.edgesAt other
  refuses : ∀ detector topic request error,
    (registry.addEdge detector topic request).2 = .error error →
      ∀ other, (registry.addEdge detector topic request).1.edgesAt other = registry.edgesAt other
  orderless : ∀ detector declarations others, declarations.Perm others →
    (registry.TakesAll detector declarations ↔ registry.TakesAll detector others)
  wired : ∀ detector declarations, (∀ item ∈ declarations, item.optional = false) →
    (((Wiring.ofList declarations).run detector registry []).result = .ok () ↔
      registry.TakesAll detector declarations)

/-- Whatever has been registered, in whatever order, an open registry accepts
exactly what does not contradict it. -/
theorem registrations_exact (registrations : List Registration) :
    Exact registrations (registerAll {} registrations) := by
  have lawful := lawful_empty.registerAll registrations
  refine ⟨payloads_registerAll registrations, lawful.distinct, ?_, lawful.topicId?_ensureTopic,
    lawful.compatible, lawful.accepts_iff, ?_, ?_, ?_, ?_⟩
  · intro topic id found
    refine ⟨?_, lawful.topicId?_registerAll found⟩
    rw [topicId?_eq] at found
    rcases List.findIdx?_eq_some_iff_getElem.mp found with ⟨bound, here, _⟩
    rw [List.getElem?_eq_getElem bound, of_decide_eq_true here]
  · intro detector topic request id accepted
    exact ⟨lawful.topicId?_accepted accepted, lawful.edgesAt_accepted accepted⟩
  · intro detector topic request error refused
    exact lawful.edgesAt_refused refused
  · intro detector declarations others perm
    exact ⟨lawful.takesAll_perm perm, lawful.takesAll_perm perm.symm⟩
  · intro detector declarations required
    exact ofList_ok_iff required _ detector []

/-- A detector may subscribe to what it publishes into later passes, but it
may not publish the topic within the pass as well. -/
example :
    (registerAll {} [.edge 0 (.plain "in") (.publisher .delayed),
      .edge 0 (.plain "in") .subscriber, .edge 0 (.plain "in") (.publisher .immediate)]).edgesAt
        (.plain "in") = ⟨[(0, .delayed)], [0]⟩ := rfl

end Registry
end ReactiveGraph
