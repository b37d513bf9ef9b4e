import ReactiveGraph.Proofs.Log
import ReactiveGraph.Proofs.Serving

namespace ReactiveGraph

/-!
# What a call can do

However a detector behaves when it is called, there are limits to what the
call brings about.  The running detector only reaches the queue, the timers
and its outbox; emptying the outbox writes to no topic but those that the
detector declared; and of the slots none but its own is touched, in a way
that leaves the graph's bookkeeping under the graph's control.
-/

/-- Only a running detector has been at work. -/
def OnlyInner {α S : Type} (_ : S) (log : List (Event α)) (_ : S) : Prop :=
  ∀ event ∈ log, event.isInner = true

theorem composes_inner {α S : Type} : Outcome.Composes (OnlyInner (α := α) (S := S)) where
  stay := by
    intro _ event member
    cases member
  append := by
    intro _ _ _ front back inFront inBack event member
    rcases List.mem_append.mp member with before | after
    · exact inFront event before
    · exact inBack event after

theorem onlyInner_event {α S : Type} {event : Event α} (inner : event.isInner = true)
    (before after : S) : OnlyInner before [event] after := by
  intro other member
  rw [List.mem_singleton.mp member]
  exact inner

/-- The queue has taken in values, and nothing else has happened. -/
def OnlyIntake {α S : Type} (_ : S) (log : List (Event α)) (_ : S) : Prop :=
  ∀ event ∈ log, event.isIntake = true

theorem composes_intake {α S : Type} : Outcome.Composes (OnlyIntake (α := α) (S := S)) where
  stay := by
    intro _ event member
    cases member
  append := by
    intro _ _ _ front back inFront inBack event member
    rcases List.mem_append.mp member with before | after
    · exact inFront event before
    · exact inBack event after

theorem OnlyIntake.inner {α S : Type} {before after : S} {log : List (Event α)}
    (intake : OnlyIntake before log after) : OnlyInner before log after :=
  fun event member => Event.isInner_of_isIntake (intake event member)

namespace Service

variable {α : Type}

theorem submit_intake (service : Service α) (input : Input α) :
    Outcome.Follows OnlyIntake service (service.submit input) := by
  intro event member
  simp only [submit, InputQueue.submit, Outcome.within] at member
  have room : event ∈ [Event.accepted input] → event.isIntake = true := by
    intro member
    rw [List.mem_singleton.mp member]
    rfl
  cases limit : service.queue.capacity with
  | none =>
      rw [limit] at member
      exact room member
  | some capacity =>
      rw [limit] at member
      dsimp only at member
      split at member
      · cases member
      · exact room member

theorem fireOne_intake (now : Time) (timer : Timer α) (service : Service α) :
    Outcome.Follows OnlyIntake service (fireOne now timer service) := by
  apply composes_intake.andThen (submit_intake service timer.input)
  intro _ _ event member
  rw [List.mem_singleton.mp member]
  rfl

theorem fireEach_intake (now : Time) (handles : List Handle) (service : Service α) :
    Outcome.Follows OnlyIntake service (fireEach now handles service) := by
  induction handles generalizing service with
  | nil =>
      intro event member
      cases member
  | cons handle rest ih =>
      rw [fireEach]
      cases service.timers.find? handle with
      | none => exact ih service
      | some timer =>
          apply composes_intake.andThen (fireOne_intake now timer service)
          intro _ _
          apply composes_intake.andThen (ih _)
          intro _ _ event member
          cases member

theorem fire_intake (service : Service α) (now : Time) :
    Outcome.Follows OnlyIntake service (service.fire now) :=
  fireEach_intake _ _ { service with timers := service.timers.advance now }

theorem coversCalls_inner (registry : Registry) : CoversCalls registry (OnlyInner (α := α)) where
  composes := composes_inner
  published _ _ _ _ := onlyInner_event rfl _ _
  postponed _ _ _ _ := onlyInner_event rfl _ _
  looked _ _ := onlyInner_event rfl _ _
  unscheduled _ _ _ := onlyInner_event rfl _ _
  scheduled _ _ _ _ _ := onlyInner_event rfl _ _
  scheduledEvery _ _ _ _ _ := onlyInner_event rfl _ _
  cancelled _ _ _ := onlyInner_event rfl _ _
  fired service _ now :=
    composes_inner.append (OnlyIntake.inner (fire_intake service now))
      (onlyInner_event rfl (service.fire now).state _)
  submitted service _ input :=
    composes_inner.append (OnlyIntake.inner (submit_intake service input))
      (onlyInner_event rfl (service.submit input).state _)

end Service

namespace Routine

variable {α β γ : Type}

theorem run_inner (registry : Registry) (detector : DetectorId) (routine : Routine α β)
    (around : Surroundings α) :
    ∀ event ∈ (routine.run registry detector around).events, event.isInner = true :=
  run_covered (Service.coversCalls_inner registry) detector routine around

/-- Two routines, one after the other, end with the value of the second, run
where the first has left off. -/
theorem value_bind (registry : Registry) (detector : DetectorId) (routine : Routine α β)
    (next : β → Routine α γ) (around : Surroundings α) :
    ((routine.bind next).run registry detector around).value =
      ((next (routine.run registry detector around).value).run registry detector
        (routine.run registry detector around).around).value := by
  induction routine generalizing around with
  | done result => rfl
  | publish topic value routine ih => exact ih _
  | publishLater topic value routine ih => exact ih _
  | schedule topic value delay routine ih => exact ih _ _
  | scheduleEvery topic value period routine ih => exact ih _ _
  | cancel handle routine ih => exact ih _ _
  | fire now routine ih => exact ih _ _
  | submit topic value routine ih => exact ih _ _
  | look routine ih => exact ih _ _

end Routine

/-! ## The bookkeeping of a slot -/

/-- What the graph keeps about a slot by itself.  The behaviour and the state
of an application's detector are no part of it. -/
structure Control (α : Type) where
  subscriptions : List Payload
  pending : Bool
  lag? : Option (Lag α)

namespace Control

variable {α : Type}

def handed (control : Control α) (value : α) : Control α :=
  { control with pending := true, lag? := control.lag?.map fun lag => lag.capture value }

def completed (control : Control α) : Control α :=
  { control with pending := false, lag? := control.lag?.map Lag.arm }

def released (control : Control α) : Control α :=
  { control with lag? := control.lag?.map Lag.disarm }

def reset (control : Control α) : Control α :=
  { control with pending := false }

def armed? (control : Control α) : Option (Input α) :=
  control.lag?.bind fun lag => lag.armed.map fun value => ⟨.lagged lag.source, value⟩

/-- What no pass changes: the table, and the source if there is a lag. -/
def shape (control : Control α) : List Payload × Option Payload :=
  (control.subscriptions, control.lag?.map Lag.source)

theorem source_arm (lag : Lag α) : lag.arm.source = lag.source := by
  rw [Lag.arm]
  cases lag.latest <;> rfl

theorem shape_handed (control : Control α) (value : α) :
    (control.handed value).shape = control.shape := by
  rcases control with ⟨subscriptions, pending, lag | lag⟩ <;> rfl

theorem shape_completed (control : Control α) : control.completed.shape = control.shape := by
  rcases control with ⟨subscriptions, pending, lag | lag⟩
  · rfl
  · simp only [shape, completed, Option.map_some, source_arm]

theorem shape_released (control : Control α) : control.released.shape = control.shape := by
  rcases control with ⟨subscriptions, pending, lag | lag⟩ <;> rfl

end Control

namespace Slot

variable {α σ : Type}

def control (slot : Slot α σ) : Control α :=
  ⟨slot.subscriptions, slot.pending, slot.lag?⟩

theorem resident_of_lag? {slot : Slot α σ} {lag : Lag α} (holds : slot.lag? = some lag) :
    slot.resident = .lag lag := by
  rcases slot with ⟨resident, subscriptions, pending⟩
  cases resident with
  | custom behaviour state => cases holds
  | lag other =>
      cases holds
      rfl

theorem control_armed? (slot : Slot α σ) : slot.control.armed? = slot.armed? :=
  rfl

theorem control_disarm (slot : Slot α σ) : slot.disarm.control = slot.control.released := by
  rcases slot with ⟨resident, subscriptions, pending⟩
  cases resident <;> rfl

theorem control_onValue (registry : Registry) (detector : DetectorId) (topic : Payload)
    (value : α) (slot : Slot α σ) (around : Surroundings α) :
    ({ slot with
        pending := true
        resident := ((slot.resident.onValue detector topic value).run registry detector
          around).value } : Slot α σ).control = slot.control.handed value := by
  rcases slot with ⟨resident, subscriptions, pending⟩
  cases resident with
  | lag lag => rfl
  | custom behaviour state =>
      have custom : ((Resident.onValue detector topic value (.custom behaviour state)).run registry
          detector around).value = .custom behaviour
            ((behaviour.onValue detector topic value state).run registry detector around).value :=
        Routine.value_bind registry detector _ _ around
      simp only [custom]
      rfl

theorem control_onComplete (registry : Registry) (detector : DetectorId) (slot : Slot α σ)
    (around : Surroundings α) :
    ({ slot with
        pending := false
        resident := ((slot.resident.onComplete detector).run registry detector
          around).value } : Slot α σ).control = slot.control.completed := by
  rcases slot with ⟨resident, subscriptions, pending⟩
  cases resident with
  | lag lag => rfl
  | custom behaviour state =>
      have custom : ((Resident.onComplete detector (.custom behaviour state)).run registry
          detector around).value = .custom behaviour
            ((behaviour.onComplete detector state).run registry detector around).value :=
        Routine.value_bind registry detector _ _ around
      simp only [custom]
      rfl

end Slot

namespace Live

variable {α σ : Type}

def controls (live : Live α σ) : List (Control α) :=
  live.slots.map Slot.control

theorem controls_of_slot {live : Live α σ} {detector : DetectorId} {slot : Slot α σ}
    (found : live.slots[detector]? = some slot) :
    live.controls[detector]? = some slot.control := by
  rw [controls, List.getElem?_map, found]
  rfl

theorem slot_of_controls {live : Live α σ} {detector : DetectorId} {control : Control α}
    (found : live.controls[detector]? = some control) :
    ∃ slot, live.slots[detector]? = some slot ∧ slot.control = control := by
  rw [controls, List.getElem?_map] at found
  exact Option.map_eq_some_iff.mp found

/-- Nothing has come of a detector's output but writes to topics that it
declared to publish within the pass. -/
structure Applied (registry : Registry) (detector : DetectorId) (before : Live α σ)
    (log : List (Event α)) (after : Live α σ) : Prop where
  slots : after.slots = before.slots
  board : after.board = before.board.writeAll (log.filterMap Event.written?)
  declared : ∀ input ∈ log.filterMap Event.written?,
    registry.isDeclared detector input.topic .immediate = true
  calls : log.filter Event.isCall = []

theorem composes_applied (registry : Registry) (detector : DetectorId) :
    Outcome.Composes (Applied (α := α) (σ := σ) registry detector) where
  stay live := ⟨rfl, rfl, fun _ member => (List.not_mem_nil member).elim, rfl⟩
  append := by
    intro first middle last front back before after
    refine ⟨after.slots.trans before.slots, ?_, ?_, ?_⟩
    · rw [List.filterMap_append, Board.writeAll_append, after.board, before.board]
    · intro input member
      rw [List.filterMap_append] at member
      rcases List.mem_append.mp member with inFront | inBack
      · exact before.declared input inFront
      · exact after.declared input inBack
    · rw [List.filter_append, before.calls, after.calls]
      rfl

theorem applied_inner {registry : Registry} {detector : DetectorId} {before after : Live α σ}
    {log : List (Event α)} (slots : after.slots = before.slots) (board : after.board = before.board)
    (inner : ∀ event ∈ log, event.isInner = true) : Applied registry detector before log after where
  slots := slots
  board := by rw [Log.written_inner inner, board]; rfl
  declared := by
    intro input member
    rw [Log.written_inner inner] at member
    cases member
  calls := Log.calls_inner inner

theorem publish_applied (registry : Registry) (detector : DetectorId) (input : Input α)
    (live : Live α σ) :
    Outcome.Follows (Applied registry detector) live (publish registry detector input live) := by
  have composes := composes_applied (α := α) (σ := σ) registry detector
  rw [publish]
  split
  next declared =>
    rw [receive]
    split
    next =>
      refine ⟨rfl, rfl, ?_, rfl⟩
      intro written member
      rw [List.mem_singleton.mp member]
      exact declared
    next => exact composes.fail live _
  next => exact composes.fail live _

theorem publishLater_applied (registry : Registry) (detector : DetectorId) (input : Input α)
    (live : Live α σ) :
    Outcome.Follows (Applied registry detector) live
      (publishLater registry detector input live) := by
  rw [publishLater]
  split
  · exact applied_inner rfl rfl (OnlyIntake.inner (Service.submit_intake live.toService input))
  · exact (composes_applied registry detector).fail live _

theorem emptyOutbox_applied (registry : Registry) (detector : DetectorId) (live : Live α σ) :
    Outcome.Follows (Applied registry detector) live (emptyOutbox registry detector live) := by
  have composes := composes_applied (α := α) (σ := σ) registry detector
  have aside : ∀ (before : Live α σ) (outbox : Outbox α),
      Applied registry detector before [] { before with outbox } :=
    fun before outbox => ⟨rfl, rfl, fun _ member => (List.not_mem_nil member).elim, rfl⟩
  rw [emptyOutbox]
  cases live.outbox.rejected with
  | cons topic rest => exact aside live _
  | nil =>
      apply composes.andThen
      · exact composes.append (aside live _)
          (composes.each (fun input _ => publish_applied registry detector input) _)
      · intro _ _
        exact composes.append (aside _ _)
          (composes.each (fun input _ => publishLater_applied registry detector input) _)

/-- A call replaces the resident of the detector's slot; all else that comes
of it is what the detector may publish. -/
theorem call_applied (registry : Registry) (detector : DetectorId) (slot : Slot α σ)
    (routine : Routine α (Resident α σ)) (live : Live α σ) :
    Outcome.Follows (Applied registry detector)
      { live with
        slots := live.slots.set detector
          { slot with
            resident := (routine.run registry detector live.toSurroundings).value } }
      (call registry detector slot routine live) := by
  have inner := Routine.run_inner registry detector routine live.toSurroundings
  generalize same : routine.run registry detector live.toSurroundings = report at inner ⊢
  have ran : Applied registry detector
      { live with slots := (live.called detector slot report).slots } report.events
      (live.called detector slot report) := applied_inner rfl rfl inner
  rw [call, same]
  exact (composes_applied registry detector).append ran
    (emptyOutbox_applied registry detector (live.called detector slot report))

end Live
end ReactiveGraph
