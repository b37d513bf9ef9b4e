import ReactiveGraph.Registry
import ReactiveGraph.Timer

namespace ReactiveGraph

/-!
# Routines

A routine is what a detector does when it is called: a finite program that
publishes values, schedules and cancels timeouts, submits inputs and looks
around, each step depending on the answers to the steps before it.  It has
no other access to the graph it runs in.

Published values are only put into the outbox and reach their topics after
the routine has ended.  Timeouts and submissions take effect at once.
-/

/-- What a running detector can see of the queue and the timers. -/
structure View where
  waiting : Nat
  evaluating : Bool
  now : Time
  pendingTimers : Nat
  earliestDue : Option Time
  isPending : Handle → Bool

/-- A detector's doings during one call, ending with a result.  What comes
next may depend on the answer: the handle of a timeout, if the detector has a
delayed edge to its topic, whether a cancelled timeout was pending, what
firing or submitting came to, or the view. -/
inductive Routine (α β : Type) where
  | done (result : β)
  | publish (topic : Payload) (value : α) (next : Routine α β)
  | publishLater (topic : Payload) (value : α) (next : Routine α β)
  | schedule (topic : Payload) (value : α) (delay : Time)
      (next : Option Handle → Routine α β)
  | scheduleEvery (topic : Payload) (value : α) (period : Time)
      (next : Option Handle → Routine α β)
  | cancel (handle : Handle) (next : Bool → Routine α β)
  | fire (now : Time) (next : Except GraphError Nat → Routine α β)
  | submit (topic : Payload) (value : α) (next : Except GraphError Unit → Routine α β)
  | look (next : View → Routine α β)

/-- What a running detector has produced: values for the current pass, values
for the input queue, and the topics of timeouts that were scheduled without a
declared edge. -/
structure Outbox (α : Type) where
  published : List (Input α) := []
  later : List (Input α) := []
  rejected : List Payload := []

/-- What a running detector can affect besides its own state. -/
structure Surroundings (α : Type) extends Service α where
  outbox : Outbox α := {}

namespace Surroundings

variable {α : Type}

def view (around : Surroundings α) : View where
  waiting := around.queue.size
  evaluating := around.queue.evaluating
  now := around.timers.now
  pendingTimers := around.timers.size
  earliestDue := around.timers.earliestDue?
  isPending := around.timers.isPending

def publish (input : Input α) (around : Surroundings α) : Surroundings α :=
  { around with
    outbox := { around.outbox with published := around.outbox.published ++ [input] } }

def publishLater (input : Input α) (around : Surroundings α) : Surroundings α :=
  { around with outbox := { around.outbox with later := around.outbox.later ++ [input] } }

/-- Schedule a value for the detector, provided it declared a delayed edge
to the topic; otherwise the topic is noted as rejected. -/
def schedule (registry : Registry) (detector : DetectorId) (topic : Payload)
    (enter : Timetable α → Handle × Timetable α) (around : Surroundings α) :
    Option Handle × Surroundings α :=
  if registry.isDeclared detector topic .delayed then
    let entered := enter around.timers
    (some entered.1, { around with timers := entered.2 })
  else
    (none, { around with
      outbox := { around.outbox with rejected := around.outbox.rejected ++ [topic] } })

def fire (around : Surroundings α) (now : Time) : Outcome α (Surroundings α) Nat :=
  (around.toService.fire now).within fun service => { around with toService := service }

def submit (around : Surroundings α) (input : Input α) : Outcome α (Surroundings α) Unit :=
  (around.toService.submit input).within fun service => { around with toService := service }

end Surroundings

namespace Routine

variable {α β γ : Type}

def bind : Routine α β → (β → Routine α γ) → Routine α γ
  | done result, after => after result
  | publish topic value next, after => publish topic value (next.bind after)
  | publishLater topic value next, after => publishLater topic value (next.bind after)
  | schedule topic value delay next, after =>
      schedule topic value delay fun handle => (next handle).bind after
  | scheduleEvery topic value period next, after =>
      scheduleEvery topic value period fun handle => (next handle).bind after
  | cancel handle next, after => cancel handle fun pending => (next pending).bind after
  | fire now next, after => fire now fun result => (next result).bind after
  | submit topic value next, after =>
      submit topic value fun result => (next result).bind after
  | look next, after => look fun view => (next view).bind after

instance : Monad (Routine α) where
  pure := done
  bind := bind

structure Report (α β : Type) where
  value : β
  around : Surroundings α
  events : List (Event α)

def Report.behind (report : Report α β) (events : List (Event α)) : Report α β :=
  { report with events := events ++ report.events }

def run (registry : Registry) (detector : DetectorId) :
    Routine α β → Surroundings α → Report α β
  | done result, around => ⟨result, around, []⟩
  | publish topic value next, around =>
      (next.run registry detector (around.publish ⟨topic, value⟩)).behind
        [.published detector topic value]
  | publishLater topic value next, around =>
      (next.run registry detector (around.publishLater ⟨topic, value⟩)).behind
        [.postponed detector topic value]
  | schedule topic value delay next, around =>
      let entered := around.schedule registry detector topic fun timers =>
        timers.schedule ⟨topic, value⟩ delay
      ((next entered.1).run registry detector entered.2).behind
        [.scheduled detector topic entered.1]
  | scheduleEvery topic value period next, around =>
      let entered := around.schedule registry detector topic fun timers =>
        timers.scheduleEvery ⟨topic, value⟩ period
      ((next entered.1).run registry detector entered.2).behind
        [.scheduled detector topic entered.1]
  | cancel handle next, around =>
      let answer := around.timers.cancel handle
      ((next answer.1).run registry detector { around with timers := answer.2 }).behind
        [.cancelled detector handle answer.1]
  | fire now next, around =>
      let firing := around.fire now
      ((next firing.result).run registry detector firing.state).behind
        (firing.events ++ [.fired detector firing.result])
  | submit topic value next, around =>
      let submission := around.submit ⟨topic, value⟩
      ((next submission.result).run registry detector submission.state).behind
        (submission.events ++ [.submitted detector ⟨topic, value⟩ submission.result])
  | look next, around =>
      ((next around.view).run registry detector around).behind
        [.looked detector around.queue.size around.queue.evaluating]

end Routine
end ReactiveGraph
