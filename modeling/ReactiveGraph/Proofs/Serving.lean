import ReactiveGraph.Graph.Pass
import ReactiveGraph.Proofs.Sequencing

namespace ReactiveGraph

/-!
# What can happen to a service

A running detector has a few ways to affect the queue and the timers, and the
pass in which it runs has one: it submits what was published for later.  So a
relation between a service, the events and the service after them holds of
all routines and all passes if it composes and holds of each single thing
that can happen.  Timers and values for later passes come about only where
the detector has declared them, so of these it need not hold otherwise.
-/

variable {α σ β : Type}

namespace Service

/-- The relation holds of each thing that a running detector can do to a
service, and of what is logged of it. -/
structure CoversCalls (registry : Registry) (R : Service α → List (Event α) → Service α → Prop) :
    Prop where
  composes : Outcome.Composes R
  published : ∀ service detector topic value, R service [.published detector topic value] service
  postponed : ∀ service detector topic value, R service [.postponed detector topic value] service
  looked : ∀ service detector,
    R service [.looked detector service.queue.size service.queue.evaluating] service
  unscheduled : ∀ service detector topic, R service [.scheduled detector topic none] service
  scheduled : ∀ service detector input delay,
    registry.isDeclared detector input.topic .delayed = true →
      R service [.scheduled detector input.topic (some (service.timers.schedule input delay).1)]
        { service with timers := (service.timers.schedule input delay).2 }
  scheduledEvery : ∀ service detector input period,
    registry.isDeclared detector input.topic .delayed = true →
      R service
        [.scheduled detector input.topic (some (service.timers.scheduleEvery input period).1)]
        { service with timers := (service.timers.scheduleEvery input period).2 }
  cancelled : ∀ service detector handle,
    R service [.cancelled detector handle (service.timers.cancel handle).1]
      { service with timers := (service.timers.cancel handle).2 }
  fired : ∀ service detector now,
    R service ((service.fire now).events ++ [.fired detector (service.fire now).result])
      (service.fire now).state
  submitted : ∀ service detector input,
    R service ((service.submit input).events ++
      [.submitted detector input (service.submit input).result]) (service.submit input).state

/-- Beyond that, the relation holds of what a pass does itself. -/
structure CoversPasses (registry : Registry) (R : Service α → List (Event α) → Service α → Prop) :
    Prop extends CoversCalls registry R where
  wrote : ∀ service topic value, R service [.wrote topic value] service
  evaluated : ∀ service detector topic value,
    R service [.evaluated detector topic value] service
  completed : ∀ service detector, R service [.completed detector] service
  delayed : ∀ service detector input, registry.isDeclared detector input.topic .delayed = true →
    Outcome.Follows R service (service.submit input)

end Service

namespace Routine

open Service

theorem run_covered {registry : Registry} {R : Service α → List (Event α) → Service α → Prop}
    (covers : CoversCalls registry R) (detector : DetectorId) (routine : Routine α β)
    (around : Surroundings α) :
    R around.toService (routine.run registry detector around).events
      (routine.run registry detector around).around.toService := by
  have append := @covers.composes.append
  induction routine generalizing around with
  | done result => exact covers.composes.stay around.toService
  | publish topic value next ih =>
      exact append (covers.published _ detector topic value) (ih (around.publish ⟨topic, value⟩))
  | publishLater topic value next ih =>
      exact append (covers.postponed _ detector topic value)
        (ih (around.publishLater ⟨topic, value⟩))
  | schedule topic value delay next ih =>
      refine append ?_ (ih _ _)
      rw [Surroundings.schedule]
      split
      next declared => exact covers.scheduled _ detector ⟨topic, value⟩ delay declared
      next => exact covers.unscheduled _ detector topic
  | scheduleEvery topic value period next ih =>
      refine append ?_ (ih _ _)
      rw [Surroundings.schedule]
      split
      next declared => exact covers.scheduledEvery _ detector ⟨topic, value⟩ period declared
      next => exact covers.unscheduled _ detector topic
  | cancel handle next ih =>
      exact append (covers.cancelled _ detector handle)
        (ih _ { around with timers := (around.timers.cancel handle).2 })
  | fire now next ih => exact append (covers.fired _ detector now) (ih _ (around.fire now).state)
  | submit topic value next ih =>
      exact append (covers.submitted _ detector ⟨topic, value⟩)
        (ih _ (around.submit ⟨topic, value⟩).state)
  | look next ih => exact append (covers.looked _ detector) (ih _ around)

end Routine

namespace Live

open Service

variable {registry : Registry} {R : Service α → List (Event α) → Service α → Prop}

/-- The relation, as one between states of a pass. -/
def Serves (R : Service α → List (Event α) → Service α → Prop) (before : Live α σ)
    (log : List (Event α)) (after : Live α σ) : Prop :=
  R before.toService log after.toService

theorem composes_serves (composes : Outcome.Composes R) :
    Outcome.Composes (Serves (σ := σ) R) :=
  ⟨fun live => composes.stay live.toService, composes.append⟩

theorem receive_serves (covers : CoversPasses registry R) (input : Input α)
    (live : Live α σ) : Outcome.Follows (Serves R) live (receive registry input live) := by
  rw [receive]
  split
  · exact covers.wrote live.toService input.topic input.value
  · exact covers.composes.stay live.toService

theorem publish_serves (covers : CoversPasses registry R) (detector : DetectorId)
    (input : Input α) (live : Live α σ) :
    Outcome.Follows (Serves R) live (publish registry detector input live) := by
  rw [publish]
  split
  · exact receive_serves covers input live
  · exact covers.composes.stay live.toService

theorem publishLater_serves (covers : CoversPasses registry R) (detector : DetectorId)
    (input : Input α) (live : Live α σ) :
    Outcome.Follows (Serves R) live (publishLater registry detector input live) := by
  rw [publishLater]
  split
  next declared => exact covers.delayed live.toService detector input declared
  next => exact covers.composes.stay live.toService

theorem emptyOutbox_serves (covers : CoversPasses registry R) (detector : DetectorId)
    (live : Live α σ) :
    Outcome.Follows (Serves R) live (emptyOutbox registry detector live) := by
  have composes := composes_serves (σ := σ) covers.composes
  have aside : ∀ (before : Live α σ) (outbox : Outbox α),
      Serves R before [] { before with outbox } := fun before _ => composes.stay before
  rw [emptyOutbox]
  cases live.outbox.rejected with
  | cons topic rest => exact aside live _
  | nil =>
      apply composes.andThen
      · exact composes.append (aside live _)
          (composes.each (fun input _ => publish_serves covers detector input) _)
      · intro _ _
        exact composes.append (aside _ _)
          (composes.each (fun input _ => publishLater_serves covers detector input) _)

theorem call_serves (covers : CoversPasses registry R) (detector : DetectorId)
    (slot : Slot α σ) (routine : Routine α (Resident α σ)) (live : Live α σ) :
    Outcome.Follows (Serves R) live (call registry detector slot routine live) := by
  have ran := Routine.run_covered covers.toCoversCalls detector routine live.toSurroundings
  exact covers.composes.append ran
    (emptyOutbox_serves covers detector (live.called detector slot _))

theorem visit_serves (covers : CoversPasses registry R) (vertex : Vertex)
    (live : Live α σ) : Outcome.Follows (Serves R) live (visit registry vertex live) := by
  have composes := composes_serves (σ := σ) covers.composes
  cases vertex with
  | topic topic =>
      rw [visit]
      split
      · apply composes.each
        intro detector _ other
        rw [deliver]
        split
        next slot value _ _ =>
          split
          · exact composes.append (covers.evaluated _ detector topic value)
              (call_serves covers detector _ _ other)
          · exact composes.done other ()
        next => exact composes.done other ()
      · exact composes.done live ()
  | detector detector =>
      rw [visit, complete]
      split
      next => exact composes.done live ()
      next slot _ =>
        split
        · exact composes.append (covers.completed _ detector)
            (call_serves covers detector _ _ live)
        · exact composes.done live ()

theorem releaseLag_serves (covers : CoversPasses registry R) (id : DetectorId)
    (live : Live α σ) : Outcome.Follows (Serves R) live (releaseLag registry id live) := by
  have composes := composes_serves (σ := σ) covers.composes
  rw [releaseLag]
  split
  next => exact composes.done live ()
  next slot _ =>
    split
    next => exact composes.done live ()
    next input _ =>
      exact receive_serves covers input
        { live with slots := live.slots.set id slot.disarm }

/-- What holds of each thing that can happen to a service holds of a pass. -/
theorem pass_serves (covers : CoversPasses registry R) (order : VisitOrder)
    (input : Option (Input α)) (live : Live α σ) :
    Outcome.Follows (Serves R) live (pass registry order input live) := by
  have composes := composes_serves (σ := σ) covers.composes
  have opens : Outcome.Follows (Serves R) live.prepare
      (Outcome.each (releaseLag registry) (List.range live.slots.length) live.prepare) :=
    composes.each (fun id _ => releaseLag_serves covers id) live.prepare
  rw [pass]
  apply composes.andThen opens
  intro _ _
  apply composes.andThen (composes.each (fun input _ => receive_serves covers input) _)
  intro _ _
  exact composes.each (fun vertex _ => visit_serves covers vertex) _

end Live
end ReactiveGraph
