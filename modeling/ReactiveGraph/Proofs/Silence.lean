import ReactiveGraph.Proofs.Failures

namespace ReactiveGraph

/-!
# Detectors that submit nothing

A pass may bring new inputs, and then it is not clear whether the queue ever
runs empty.  Many detectors only publish within the pass or schedule timeouts,
and never reach for the queue.  In a graph with no others, no pass brings an
input, whatever it is run for and whether or not it fails.
-/

variable {α σ β : Type}

/-- Whoever goes through the routine puts no input into the queue and leaves
none in the outbox for later passes. -/
def Routine.Silent (routine : Routine α β) : Prop :=
  ∀ registry detector around,
    (routine.run registry detector around).events.filterMap Event.accepted? = [] ∧
      (routine.run registry detector around).around.outbox.later = around.outbox.later

namespace Routine

theorem run_map (registry : Registry) (detector : DetectorId) (routine : Routine α β) {γ : Type}
    (form : β → γ) (around : Surroundings α) :
    (routine.bind fun result => .done (form result)).run registry detector around =
      ⟨form (routine.run registry detector around).value,
        (routine.run registry detector around).around,
        (routine.run registry detector around).events⟩ := by
  induction routine generalizing around with
  | done result => rfl
  | publish topic value next ih => rw [bind, run, ih]; rfl
  | publishLater topic value next ih => rw [bind, run, ih]; rfl
  | schedule topic value delay next ih => rw [bind, run, ih]; rfl
  | scheduleEvery topic value period next ih => rw [bind, run, ih]; rfl
  | cancel handle next ih => rw [bind, run, ih]; rfl
  | fire now next ih => rw [bind, run, ih]; rfl
  | submit topic value next ih => rw [bind, run, ih]; rfl
  | look next ih => rw [bind, run, ih]; rfl

theorem silent_done (result : β) : (done result : Routine α β).Silent :=
  fun _ _ _ => ⟨rfl, rfl⟩

end Routine

/-- The detector submits nothing, whatever it is called for and in whatever
state. -/
structure Behaviour.Silent (behaviour : Behaviour α σ) : Prop where
  onValue : ∀ detector topic value state, (behaviour.onValue detector topic value state).Silent
  onComplete : ∀ detector state, (behaviour.onComplete detector state).Silent

/-- A lag delivers its value as it is, and needs no queue for it. -/
def Resident.Silent : Resident α σ → Prop
  | .custom behaviour _ => behaviour.Silent
  | .lag _ => True

namespace Resident

/-- The routine is silent, and so is the resident in the form with which it
ends. -/
def KeepsSilent (routine : Routine α (Resident α σ)) : Prop :=
  routine.Silent ∧ ∀ registry detector around,
    (routine.run registry detector around).value.Silent

theorem keepsSilent_custom {behaviour : Behaviour α σ} (silent : behaviour.Silent)
    {routine : Routine α σ} (quiet : routine.Silent) :
    KeepsSilent (routine.bind fun state => .done (custom behaviour state)) := by
  refine ⟨?_, ?_⟩
  · intro registry detector around
    rw [Routine.run_map]
    exact quiet registry detector around
  · intro registry detector around
    rw [Routine.run_map]
    exact silent

theorem Silent.onValue {resident : Resident α σ} (silent : resident.Silent)
    (detector : DetectorId) (topic : Payload) (value : α) :
    KeepsSilent (resident.onValue detector topic value) := by
  cases resident with
  | custom behaviour state =>
      exact keepsSilent_custom silent (Behaviour.Silent.onValue silent detector topic value state)
  | lag inner => exact ⟨Routine.silent_done _, fun _ _ _ => trivial⟩

theorem Silent.onComplete {resident : Resident α σ} (silent : resident.Silent)
    (detector : DetectorId) : KeepsSilent (resident.onComplete detector) := by
  cases resident with
  | custom behaviour state =>
      exact keepsSilent_custom silent (Behaviour.Silent.onComplete silent detector state)
  | lag inner => exact ⟨Routine.silent_done _, fun _ _ _ => trivial⟩

end Resident

/-! ## Silent passes -/

theorem Slot.silent_disarm {slot : Slot α σ} (silent : slot.resident.Silent) :
    slot.disarm.resident.Silent := by
  rcases slot with ⟨resident, subscriptions, pending⟩
  cases resident with
  | custom behaviour state => exact silent
  | lag inner => trivial

namespace Live

def Silent (live : Live α σ) : Prop :=
  ∀ slot ∈ live.slots, slot.resident.Silent

theorem Silent.set {live : Live α σ} (silent : live.Silent) (detector : DetectorId)
    {slot : Slot α σ} (quiet : slot.resident.Silent) :
    ∀ other ∈ live.slots.set detector slot, other.resident.Silent := by
  intro other member
  rcases List.mem_or_eq_of_mem_set member with before | rfl
  · exact silent other before
  · exact quiet

/-- Where no detector submits anything and the outbox holds nothing for later
passes, this goes on, and no input is accepted. -/
def Hushes (before : Live α σ) (log : List (Event α)) (after : Live α σ) : Prop :=
  before.Silent ∧ before.outbox.later = [] →
    (after.Silent ∧ after.outbox.later = []) ∧ log.filterMap Event.accepted? = []

theorem composes_hushes : Outcome.Composes (Hushes (α := α) (σ := σ)) where
  stay _ hushed := ⟨hushed, rfl⟩
  append := by
    intro first middle last front back before after hushed
    rcases before hushed with ⟨halfway, inFront⟩
    rcases after halfway with ⟨atLast, inBack⟩
    exact ⟨atLast, by rw [List.filterMap_append, inFront, inBack]; rfl⟩

theorem hushes_aside {before after : Live α σ} {log : List (Event α)}
    (slots : after.slots = before.slots) (later : after.outbox.later = before.outbox.later)
    (unaccepted : log.filterMap Event.accepted? = []) : Hushes before log after := by
  rintro ⟨silent, empty⟩
  refine ⟨⟨?_, later.trans empty⟩, unaccepted⟩
  rw [Silent, slots]
  exact silent

theorem receive_hushes (registry : Registry) (input : Input α) (live : Live α σ) :
    Outcome.Follows Hushes live (receive registry input live) := by
  rw [receive]
  split
  · exact hushes_aside rfl rfl rfl
  · exact composes_hushes.fail live _

theorem publish_hushes (registry : Registry) (detector : DetectorId) (input : Input α)
    (live : Live α σ) : Outcome.Follows Hushes live (publish registry detector input live) := by
  rw [publish]
  split
  · exact receive_hushes registry input live
  · exact composes_hushes.fail live _

theorem emptyOutbox_hushes (registry : Registry) (detector : DetectorId) (live : Live α σ) :
    Outcome.Follows Hushes live (emptyOutbox registry detector live) := by
  rw [emptyOutbox]
  cases live.outbox.rejected with
  | cons topic rest => exact hushes_aside rfl rfl rfl
  | nil =>
      have aside : Hushes live [] { live with outbox := { live.outbox with published := [] } } :=
        hushes_aside rfl rfl rfl
      apply composes_hushes.andThen
      · exact composes_hushes.append aside
          (composes_hushes.each (fun input _ => publish_hushes registry detector input) _)
      · intro _ _ hushed
        -- Publishing has left nothing for the queue, as it found nothing.
        rw [hushed.2]
        exact ⟨⟨hushed.1, rfl⟩, rfl⟩

theorem call_hushes (registry : Registry) (detector : DetectorId) (slot : Slot α σ)
    {routine : Routine α (Resident α σ)} (keeps : Resident.KeepsSilent routine)
    (live : Live α σ) :
    Outcome.Follows Hushes live (call registry detector slot routine live) := by
  have ran : Hushes live (routine.run registry detector live.toSurroundings).events
      (live.called detector slot (routine.run registry detector live.toSurroundings)) := by
    rintro ⟨silent, empty⟩
    rcases keeps.1 registry detector live.toSurroundings with ⟨unaccepted, later⟩
    exact ⟨⟨silent.set detector (keeps.2 registry detector live.toSurroundings),
      later.trans empty⟩, unaccepted⟩
  exact composes_hushes.append ran (emptyOutbox_hushes registry detector _)

theorem deliver_hushes (registry : Registry) (topic : Payload) (detector : DetectorId)
    (live : Live α σ) : Outcome.Follows Hushes live (deliver registry topic detector live) := by
  intro hushed
  rw [deliver]
  split
  next slot value found _ =>
    split
    · have keeps := (hushed.1 slot (List.mem_of_getElem? found)).onValue detector topic value
      have accepts : (Event.evaluated detector topic value).accepted? = none := rfl
      rw [Outcome.behind, List.singleton_append, List.filterMap_cons_none accepts]
      exact call_hushes registry detector _ keeps live hushed
    · exact ⟨hushed, rfl⟩
  next => exact ⟨hushed, rfl⟩

theorem complete_hushes (registry : Registry) (detector : DetectorId) (live : Live α σ) :
    Outcome.Follows Hushes live (complete registry detector live) := by
  intro hushed
  rw [complete]
  split
  next => exact ⟨hushed, rfl⟩
  next slot found =>
    split
    · have keeps := (hushed.1 slot (List.mem_of_getElem? found)).onComplete detector
      have accepts : (Event.completed detector : Event α).accepted? = none := rfl
      rw [Outcome.behind, List.singleton_append, List.filterMap_cons_none accepts]
      exact call_hushes registry detector _ keeps live hushed
    · exact ⟨hushed, rfl⟩

theorem visit_hushes (registry : Registry) (vertex : Vertex) (live : Live α σ) :
    Outcome.Follows Hushes live (visit registry vertex live) := by
  cases vertex with
  | topic topic =>
      rw [visit]
      split
      · exact composes_hushes.each (fun detector _ => deliver_hushes registry topic detector) live
      · exact composes_hushes.done live ()
  | detector detector => exact complete_hushes registry detector live

theorem releaseLag_hushes (registry : Registry) (id : DetectorId) (live : Live α σ) :
    Outcome.Follows Hushes live (releaseLag registry id live) := by
  intro hushed
  rw [releaseLag]
  split
  next => exact ⟨hushed, rfl⟩
  next slot found =>
    split
    next => exact ⟨hushed, rfl⟩
    next input _ =>
      have quiet := Slot.silent_disarm (hushed.1 slot (List.mem_of_getElem? found))
      exact receive_hushes registry input _ ⟨hushed.1.set id quiet, hushed.2⟩

/-- A pass of silent detectors leaves them silent and brings no input. -/
theorem Silent.pass {live : Live α σ} (silent : live.Silent) (registry : Registry)
    (order : VisitOrder) (input : Option (Input α)) :
    (Live.pass registry order input live).state.Silent ∧
      (Live.pass registry order input live).events.filterMap Event.accepted? = [] := by
  have prepared : live.prepare.Silent := by
    intro slot member
    rcases List.mem_map.mp member with ⟨before, present, rfl⟩
    exact silent before present
  have hushes : Outcome.Follows Hushes live.prepare (Live.pass registry order input live) := by
    have opens : Outcome.Follows Hushes live.prepare
        (Outcome.each (releaseLag registry) (List.range live.slots.length) live.prepare) :=
      composes_hushes.each (fun id _ => releaseLag_hushes registry id) live.prepare
    apply composes_hushes.andThen opens
    intro _ _
    apply composes_hushes.andThen
      (composes_hushes.each (fun input _ => receive_hushes registry input) _)
    intro _ _
    exact composes_hushes.each (fun vertex _ => visit_hushes registry vertex) _
  rcases hushes ⟨prepared, rfl⟩ with ⟨⟨after, _⟩, unaccepted⟩
  exact ⟨after, unaccepted⟩

end Live

namespace Graph

/-- However often the graph is stepped, the steps accept no input. -/
def Undisturbed (graph : Graph α σ) : Prop :=
  ∀ steps, (graph.stepped steps).events.filterMap Event.accepted? = []

theorem Undisturbed.step {graph : Graph α σ} (undisturbed : graph.Undisturbed) :
    graph.step.events.filterMap Event.accepted? = [] ∧ graph.step.state.Undisturbed := by
  have split : ∀ steps, graph.step.events.filterMap Event.accepted? ++
      (graph.step.state.stepped steps).events.filterMap Event.accepted? = [] := by
    intro steps
    have nothing := undisturbed (steps + 1)
    rw [stepped_succ, Outcome.behind, List.filterMap_append] at nothing
    exact nothing
  exact ⟨(List.append_eq_nil_iff.mp (split 0)).1,
    fun steps => (List.append_eq_nil_iff.mp (split steps)).2⟩

theorem step_silent {graph : Graph α σ} (silent : graph.Silent) :
    graph.step.state.Silent ∧ graph.step.events.filterMap Event.accepted? = [] := by
  rcases graph.step_cases with
    ⟨cause, _, same⟩ | ⟨closed, answer, ⟨_, _, same⟩ | ⟨_, _, _, same⟩ | ⟨_, same⟩⟩
  · rw [same]
    exact ⟨silent, rfl⟩
  · rcases close_frame answer with ⟨order, registry, rfl⟩
    rw [same]
    exact ⟨silent, rfl⟩
  · rcases close_frame answer with ⟨order, registry, rfl⟩
    rw [same]
    refine ⟨?_, rfl⟩
    intro slot member
    rcases List.mem_map.mp member with ⟨before, present, rfl⟩
    exact Slot.silent_disarm (silent before present)
  · have poised : closed.poised.Silent := by
      rcases close_frame answer with ⟨order, registry, rfl⟩
      exact silent
    rcases poised.pass closed.registry closed.order closed.queue.waiting.head? with
      ⟨after, unaccepted⟩
    rw [same]
    refine ⟨after, ?_⟩
    have untouched : (closed.queue.waiting.head?.toList.map Event.consumed).filterMap
        Event.accepted? = [] := by
      rw [List.filterMap_map]
      exact List.filterMap_eq_nil_iff.mpr fun _ _ => rfl
    rw [List.filterMap_append, untouched]
    exact unaccepted

theorem install_silent {graph : Graph α σ} (silent : graph.Silent) (typeName : String)
    (wiring : DetectorId → Wiring) {resident : Resident α σ} (quiet : resident.Silent) :
    (graph.install typeName wiring resident).1.Silent := by
  rw [install]
  cases graph.registry.addDetector (shortName typeName) with
  | error error => exact silent
  | ok entered =>
      dsimp only
      cases ((wiring entered.1).run entered.1 entered.2 []).result with
      | error error => exact silent
      | ok =>
          intro slot member
          rcases List.mem_append.mp member with before | last
          · exact silent slot before
          · rw [List.mem_singleton.mp last]
            exact quiet

/-- A silent graph stays so unless a detector joins that is not. -/
theorem perform_silent {graph : Graph α σ} (silent : graph.Silent) {operation : Operation α σ}
    (joins : ∀ detector, operation = .add detector → detector.behaviour.Silent) :
    (perform operation graph).state.Silent := by
  cases operation with
  | add detector => exact install_silent silent _ _ (joins detector rfl)
  | addLag source => exact install_silent silent _ _ trivial
  | step => exact (step_silent silent).1
  | close =>
      rw [perform]
      split
      next closed answer =>
        rcases close_frame answer with ⟨order, registry, rfl⟩
        exact silent
      next => exact silent
  | push input =>
      rw [perform, Outcome.regardless, push]
      split <;> exact silent
  | _ => exact silent

theorem run_silent {graph : Graph α σ} (silent : graph.Silent) {operations : List (Operation α σ)}
    (joins : ∀ detector, .add detector ∈ operations → detector.behaviour.Silent) :
    (run operations graph).state.Silent := by
  induction operations generalizing graph with
  | nil => exact silent
  | cons operation rest ih =>
      have first : (perform operation graph).state.Silent :=
        perform_silent silent fun detector same => joins detector (same ▸ List.mem_cons_self)
      rw [run_cons]
      exact ih first fun detector member => joins detector (List.mem_cons_of_mem operation member)

theorem undisturbed_of_silent {graph : Graph α σ} (silent : graph.Silent) :
    graph.Undisturbed := by
  intro steps
  induction steps generalizing graph with
  | zero => rfl
  | succ steps ih =>
      rcases step_silent silent with ⟨after, first⟩
      rw [stepped_succ, Outcome.behind, List.filterMap_append, first, ih after]
      rfl

end Graph
end ReactiveGraph
