import ReactiveGraph.Outcome

namespace ReactiveGraph

/-!
# The registry

The registry is the catalogue of a graph's topics and detectors and of the
edges between them.  Topics and detectors draw their sequence numbers from
one counter, which records the order in which they came to be known; the
numbers of a detector that was taken back are not used again.  The registry
orders nothing and holds no values.
-/

/-- The position of a topic in the order of registration. -/
abbrev TopicId := Nat

/-- How a publisher feeds its topic: within its own pass, which constrains the
order, or in a later one, which does not. -/
inductive Timing where
  | immediate
  | delayed
  deriving DecidableEq

/-- A topic with everyone who publishes it or subscribes to it. -/
structure TopicRecord where
  payload : Payload
  sequence : Nat
  publishers : List (DetectorId × Timing) := []
  subscribers : List DetectorId := []
  deriving DecidableEq

namespace TopicRecord

def name (entry : TopicRecord) : String :=
  entry.payload.name

def publishesNow (entry : TopicRecord) (detector : DetectorId) : Bool :=
  entry.publishers.contains (detector, .immediate)

def publishes (entry : TopicRecord) (detector : DetectorId) : Bool :=
  entry.publishers.any fun publisher => publisher.1 = detector

def subscribes (entry : TopicRecord) (detector : DetectorId) : Bool :=
  entry.subscribers.contains detector

def isFedNow (entry : TopicRecord) : Bool :=
  entry.publishers.any fun publisher => publisher.2 = .immediate

end TopicRecord

structure DetectorRecord where
  name : String
  sequence : Nat
  deriving DecidableEq

/-- The catalogue of topics, detectors and edges.  Topics and detectors are
identified by their positions; `sealed` says that the wiring is closed. -/
structure Registry where
  topics : List TopicRecord := []
  detectors : List DetectorRecord := []
  nextSequence : Nat := 0
  sealed : Bool := false
  deriving DecidableEq

inductive EdgeRequest where
  | publisher (timing : Timing)
  | subscriber
  deriving DecidableEq

namespace Registry

def unknownName : String :=
  "<unknown>"

def topicId? (registry : Registry) (topic : Payload) : Option TopicId :=
  registry.topics.findIdx? fun entry => entry.payload = topic

def topic? (registry : Registry) (topic : Payload) : Option TopicRecord :=
  registry.topics.find? fun entry => entry.payload = topic

def hasTopic (registry : Registry) (topic : Payload) : Bool :=
  (registry.topic? topic).isSome

def topicName (registry : Registry) (id : TopicId) : String :=
  (registry.topics[id]?).elim unknownName TopicRecord.name

def detectorName (registry : Registry) (id : DetectorId) : String :=
  (registry.detectors[id]?).elim unknownName DetectorRecord.name

def subscribers (registry : Registry) (topic : Payload) : List DetectorId :=
  (registry.topic? topic).elim [] TopicRecord.subscribers

def isDeclared (registry : Registry) (detector : DetectorId) (topic : Payload)
    (timing : Timing) : Bool :=
  (registry.topic? topic).elim false fun entry => entry.publishers.contains (detector, timing)

/-- The topic's identifier, registering the topic if it is not yet known.
A sealed registry takes in no topic. -/
def ensureTopic (registry : Registry) (topic : Payload) :
    Registry × Except WiringError TopicId :=
  match registry.topicId? topic with
  | some id => (registry, .ok id)
  | none =>
      if registry.sealed then (registry, .error (.sealed (.topic topic.name)))
      else
        ({ registry with
            topics := registry.topics ++ [{ payload := topic, sequence := registry.nextSequence }]
            nextSequence := registry.nextSequence + 1 },
          .ok registry.topics.length)

def addDetector (registry : Registry) (name : String) :
    Except WiringError (DetectorId × Registry) :=
  if registry.sealed then .error (.sealed (.detector name))
  else
    .ok (registry.detectors.length,
      { registry with
        detectors := registry.detectors ++ [⟨name, registry.nextSequence⟩]
        nextSequence := registry.nextSequence + 1 })

/-- Why a topic cannot take on an edge of the detector.  No detector hears
of a topic it publishes in the same pass, and none declares a subscription
or a publication twice, whatever the timing. -/
def refusal? (entry : TopicRecord) (detector : DetectorId) (name : String) :
    EdgeRequest → Option WiringError
  | .publisher timing =>
      if timing = .immediate && entry.subscribes detector then
        some (.selfSubscription name entry.name)
      else if entry.publishes detector then some (.duplicatePublisher name entry.name)
      else none
  | .subscriber =>
      if entry.publishesNow detector then some (.selfSubscription name entry.name)
      else if entry.subscribes detector then some (.duplicateSubscription name entry.name)
      else none

/-- The topic with one more edge, behind those it has. -/
def withEdge (entry : TopicRecord) (detector : DetectorId) : EdgeRequest → TopicRecord
  | .publisher timing => { entry with publishers := entry.publishers ++ [(detector, timing)] }
  | .subscriber => { entry with subscribers := entry.subscribers ++ [detector] }

/-- Enter an edge between the detector and the topic, which is registered on
the way if need be and stays so even if the edge is refused. -/
def addEdge (registry : Registry) (detector : DetectorId) (topic : Payload)
    (request : EdgeRequest) : Registry × Except WiringError TopicId :=
  if registry.sealed then
    (registry, .error (.sealed (.edges (registry.detectorName detector))))
  else
    match registry.ensureTopic topic with
    | (registry, .error error) => (registry, .error error)
    | (registry, .ok id) =>
        match registry.topics[id]? with
        | none => (registry, .error (.sealed (.topic topic.name)))
        | some entry =>
            match refusal? entry detector (registry.detectorName detector) request with
            | some error => (registry, .error error)
            | none =>
                ({ registry with
                    topics := registry.topics.modify id fun entry =>
                      withEdge entry detector request },
                  .ok id)

def withoutEdges (detector : DetectorId) (entry : TopicRecord) : TopicRecord :=
  { entry with
    publishers := entry.publishers.filter fun publisher => publisher.1 ≠ detector
    subscribers := entry.subscribers.filter fun subscriber => subscriber ≠ detector }

/-- Take back the detector, if it is the latest, with all of its edges.
Topics that were registered for it stay. -/
def takeBack (registry : Registry) (detector : DetectorId) : Registry :=
  { registry with
    topics := registry.topics.map (withoutEdges detector)
    detectors :=
      if detector + 1 = registry.detectors.length then registry.detectors.dropLast
      else registry.detectors }

def close (registry : Registry) : Registry :=
  { registry with sealed := true }

end Registry
end ReactiveGraph
