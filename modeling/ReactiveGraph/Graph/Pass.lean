import ReactiveGraph.Graph.Basic

namespace ReactiveGraph
namespace Live

/-!
# Passes

A pass starts with no topic new.  It delivers what the lags captured in the
pass before, then its input, and visits every vertex once in the order of
evaluation.  A topic with a new value is handed to each of its subscribers;
a detector that was handed anything completes.  What a detector publishes
reaches its topics as soon as its call has ended, and the order guarantees
that everyone who is to see it comes later.

A failing pass is abandoned where it stands.
-/

variable {α σ : Type}

/-- Nothing new, nothing outstanding, nothing in the outbox. -/
def prepare (live : Live α σ) : Live α σ :=
  { live with
    board := live.board.age
    outbox := {}
    slots := live.slots.map Slot.reset }

def receive (registry : Registry) (input : Input α) (live : Live α σ) :
    Outcome α (Live α σ) Unit :=
  if registry.hasTopic input.topic then
    ⟨{ live with board := live.board.write input.topic input.value },
      [.wrote input.topic input.value], .ok ()⟩
  else .fail live (.unknownTopic input.topic.name)

def releaseLag (registry : Registry) (id : DetectorId) (live : Live α σ) :
    Outcome α (Live α σ) Unit :=
  match live.slots[id]? with
  | none => .done live ()
  | some slot =>
      match slot.armed? with
      | none => .done live ()
      | some input => receive registry input { live with slots := live.slots.set id slot.disarm }

def undeclared (registry : Registry) (detector : DetectorId) (topic : Payload) : GraphError :=
  .undeclaredPublish (registry.detectorName detector) topic.name

def publish (registry : Registry) (detector : DetectorId) (input : Input α)
    (live : Live α σ) : Outcome α (Live α σ) Unit :=
  if registry.isDeclared detector input.topic .immediate then receive registry input live
  else .fail live (undeclared registry detector input.topic)

def publishLater (registry : Registry) (detector : DetectorId) (input : Input α)
    (live : Live α σ) : Outcome α (Live α σ) Unit :=
  if registry.isDeclared detector input.topic .delayed then
    (live.toService.submit input).within fun service => { live with toService := service }
  else .fail live (undeclared registry detector input.topic)

/-- Empty the outbox of a detector whose call has ended, checking each value
against the declared edges. -/
def emptyOutbox (registry : Registry) (detector : DetectorId) (live : Live α σ) :
    Outcome α (Live α σ) Unit :=
  match live.outbox.rejected with
  | topic :: _ =>
      .fail { live with outbox := { live.outbox with rejected := [] } }
        (undeclared registry detector topic)
  | [] =>
      (Outcome.each (publish registry detector) live.outbox.published
          { live with outbox := { live.outbox with published := [] } }).andThen fun _ live =>
        Outcome.each (publishLater registry detector) live.outbox.later
          { live with outbox := { live.outbox with later := [] } }

def called (detector : DetectorId) (slot : Slot α σ) (report : Routine.Report α (Resident α σ))
    (live : Live α σ) : Live α σ :=
  { live with
    toSurroundings := report.around
    slots := live.slots.set detector { slot with resident := report.value } }

@[simp] theorem outbox_called (detector : DetectorId) (slot : Slot α σ)
    (report : Routine.Report α (Resident α σ)) (live : Live α σ) :
    (live.called detector slot report).outbox = report.around.outbox :=
  rfl

/-- Let the detector of a slot go through a routine that ends with its next
form, then empty its outbox. -/
def call (registry : Registry) (detector : DetectorId) (slot : Slot α σ)
    (routine : Routine α (Resident α σ)) (live : Live α σ) : Outcome α (Live α σ) Unit :=
  let report := routine.run registry detector live.toSurroundings
  (emptyOutbox registry detector (live.called detector slot report)).behind report.events

def deliver (registry : Registry) (topic : Payload) (detector : DetectorId)
    (live : Live α σ) : Outcome α (Live α σ) Unit :=
  match live.slots[detector]?, live.board.new? topic with
  | some slot, some value =>
      if slot.subscriptions.contains topic then
        (call registry detector { slot with pending := true }
          (slot.resident.onValue detector topic value) live).behind
            [.evaluated detector topic value]
      else .done live ()
  | _, _ => .done live ()

/-- Let a detector complete if it was handed anything in this pass. -/
def complete (registry : Registry) (detector : DetectorId) (live : Live α σ) :
    Outcome α (Live α σ) Unit :=
  match live.slots[detector]? with
  | none => .done live ()
  | some slot =>
      if slot.pending then
        (call registry detector { slot with pending := false }
          (slot.resident.onComplete detector) live).behind [.completed detector]
      else .done live ()

def visit (registry : Registry) (vertex : Vertex) (live : Live α σ) :
    Outcome α (Live α σ) Unit :=
  match vertex with
  | .topic topic =>
      if live.board.isFresh topic then
        Outcome.each (deliver registry topic) (registry.subscribers topic) live
      else .done live ()
  | .detector detector => complete registry detector live

def pass (registry : Registry) (order : VisitOrder) (input : Option (Input α))
    (live : Live α σ) : Outcome α (Live α σ) Unit :=
  (Outcome.each (releaseLag registry) (List.range live.slots.length) live.prepare).andThen
    fun _ live =>
      (Outcome.each (receive registry) input.toList live).andThen fun _ live =>
        Outcome.each (visit registry) order.walk live

end Live
end ReactiveGraph
