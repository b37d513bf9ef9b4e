import ReactiveGraph.Proofs.Calls
import ReactiveGraph.Proofs.Wiring

namespace ReactiveGraph
namespace Live

/-!
# What the parts of a pass do

Each part of a pass is described by what it does to the bookkeeping of the
slots and to the board, and by the calls it makes.  The log accounts for the
board, and no part changes what the slots are: their tables and the sources
of the lags.
-/

variable {α σ : Type}

/-- The detector was called: its bookkeeping has become `control`, and apart
from the calls it can only have written to topics it declared. -/
structure Called (registry : Registry) (detector : DetectorId) (control : Control α)
    (calls : List (Event α)) (before : Live α σ) (log : List (Event α)) (after : Live α σ) :
    Prop where
  controls : after.controls = before.controls.set detector control
  board : after.board = before.board.writeAll (log.filterMap Event.written?)
  declared : ∀ input ∈ log.filterMap Event.written?,
    registry.isDeclared detector input.topic .immediate = true
  calls : log.filter Event.isCall = calls

theorem called_of_applied (first : Event α) (call : first.isCall = true)
    (silent : first.written? = none) {registry : Registry} {detector : DetectorId}
    {slot : Slot α σ} {log : List (Event α)} {before after : Live α σ}
    (applied : Applied registry detector
      { before with slots := before.slots.set detector slot } log after) :
    Called registry detector slot.control [first] before (first :: log) after where
  controls := by rw [Live.controls, applied.slots, List.map_set]; rfl
  board := by rw [List.filterMap_cons_none silent, applied.board]
  declared := by rw [List.filterMap_cons_none silent]; exact applied.declared
  calls := by rw [List.filter_cons_of_pos call, applied.calls]

/-- A subscriber that is handed a value notes it. -/
theorem deliver_called {registry : Registry} {topic : Payload} {detector : DetectorId} {value : α}
    {live : Live α σ} {slot : Slot α σ} (found : live.slots[detector]? = some slot)
    (new : live.board.new? topic = some value) (listed : topic ∈ slot.subscriptions) :
    Outcome.Follows
      (Called registry detector (slot.control.handed value) [.evaluated detector topic value])
      live (deliver registry topic detector live) := by
  have applied := call_applied registry detector { slot with pending := true }
    (slot.resident.onValue detector topic value) live
  have called := called_of_applied (.evaluated detector topic value) rfl rfl applied
  rw [Slot.control_onValue registry detector topic value slot live.toSurroundings] at called
  rw [deliver]
  simp only [found, new, List.contains_iff_mem.mpr listed, if_true]
  exact called

theorem complete_called {registry : Registry} {detector : DetectorId} {live : Live α σ}
    {slot : Slot α σ} (found : live.slots[detector]? = some slot) (pending : slot.pending = true) :
    Outcome.Follows (Called registry detector slot.control.completed [.completed detector])
      live (complete registry detector live) := by
  have applied := call_applied registry detector { slot with pending := false }
    (slot.resident.onComplete detector) live
  have called := called_of_applied (.completed detector) rfl rfl applied
  rw [Slot.control_onComplete registry detector slot live.toSurroundings] at called
  rw [complete]
  simp only [found, pending, if_true]
  exact called

theorem complete_idle {registry : Registry} {detector : DetectorId} {live : Live α σ}
    {slot : Slot α σ} (found : live.slots[detector]? = some slot) (idle : slot.pending = false) :
    complete registry detector live = .done live () := by
  rw [complete]
  simp only [found, idle, Bool.false_eq_true, if_false]

theorem deliver_cases (registry : Registry) (topic : Payload) (detector : DetectorId)
    (live : Live α σ) :
    deliver registry topic detector live = .done live () ∨
      ∃ slot value, live.slots[detector]? = some slot ∧ live.board.new? topic = some value ∧
        topic ∈ slot.subscriptions := by
  rw [deliver]
  split
  next slot value found new =>
    split
    next listed => exact Or.inr ⟨slot, value, found, new, List.contains_iff_mem.mp listed⟩
    next => exact Or.inl rfl
  next => exact Or.inl rfl

theorem complete_cases (registry : Registry) (detector : DetectorId) (live : Live α σ) :
    complete registry detector live = .done live () ∨
      ∃ slot, live.slots[detector]? = some slot ∧ slot.pending = true := by
  rw [complete]
  split
  next => exact Or.inl rfl
  next slot found =>
    split
    next pending => exact Or.inr ⟨slot, found, pending⟩
    next => exact Or.inl rfl

def shapes (live : Live α σ) : List (List Payload × Option Payload) :=
  live.controls.map Control.shape

theorem length_shapes (live : Live α σ) : live.shapes.length = live.slots.length := by
  simp [shapes, controls]

/-- The log accounts for the board, and the slots are what they were. -/
structure Kept (before : Live α σ) (log : List (Event α)) (after : Live α σ) : Prop where
  shapes : after.shapes = before.shapes
  board : after.board = before.board.writeAll (log.filterMap Event.written?)

theorem composes_kept : Outcome.Composes (Kept (α := α) (σ := σ)) where
  stay _ := ⟨rfl, rfl⟩
  append := by
    intro first middle last front back before after
    refine ⟨after.shapes.trans before.shapes, ?_⟩
    rw [List.filterMap_append, Board.writeAll_append, after.board, before.board]

/-- Replacing the bookkeeping of a slot by one that looks the same changes
nothing about how the slots look. -/
theorem controls_set {Y : Type} (view : Control α → Y) {before after : Live α σ}
    {detector : DetectorId} {slot : Slot α σ} (found : before.slots[detector]? = some slot)
    {control : Control α} (same : view control = view slot.control)
    (controls : after.controls = before.controls.set detector control) :
    after.controls.map view = before.controls.map view := by
  rcases List.getElem?_eq_some_iff.mp (controls_of_slot found) with ⟨bound, here⟩
  have placed : detector < (before.controls.map view).length := by
    rw [List.length_map]
    exact bound
  have present : (before.controls.map view)[detector] = view slot.control := by
    rw [List.getElem_map, here]
  rw [controls, List.map_set, same, ← present]
  exact List.set_getElem_self placed

theorem shapes_map {before after : Live α σ} (change : Slot α σ → Slot α σ)
    (slots : after.slots = before.slots.map change)
    (same : ∀ slot, (change slot).control.shape = slot.control.shape) :
    after.shapes = before.shapes := by
  rw [shapes, shapes, controls, controls, slots, List.map_map, List.map_map, List.map_map]
  congr 1
  funext slot
  exact same slot

theorem Called.kept {registry : Registry} {detector : DetectorId} {control : Control α}
    {calls log : List (Event α)} {before after : Live α σ} {slot : Slot α σ}
    (called : Called registry detector control calls before log after)
    (found : before.slots[detector]? = some slot) (same : control.shape = slot.control.shape) :
    Kept before log after :=
  ⟨controls_set Control.shape found same called.controls, called.board⟩

theorem deliver_kept (registry : Registry) (topic : Payload) (detector : DetectorId)
    (live : Live α σ) : Outcome.Follows Kept live (deliver registry topic detector live) := by
  rcases deliver_cases registry topic detector live with idle | ⟨slot, value, found, new, listed⟩
  · rw [idle]
    exact composes_kept.done live ()
  · exact (deliver_called found new listed).kept found (Control.shape_handed _ _)

theorem complete_kept (registry : Registry) (detector : DetectorId) (live : Live α σ) :
    Outcome.Follows Kept live (complete registry detector live) := by
  rcases complete_cases registry detector live with idle | ⟨slot, found, pending⟩
  · rw [idle]
    exact composes_kept.done live ()
  · exact (complete_called found pending).kept found (Control.shape_completed _)

theorem visit_kept (registry : Registry) (vertex : Vertex) (live : Live α σ) :
    Outcome.Follows Kept live (visit registry vertex live) := by
  cases vertex with
  | topic topic =>
      rw [visit]
      split
      · exact composes_kept.each (fun detector _ => deliver_kept registry topic detector) live
      · exact composes_kept.done live ()
  | detector detector => exact complete_kept registry detector live

theorem receive_kept (registry : Registry) (input : Input α) (live : Live α σ) :
    Outcome.Follows Kept live (receive registry input live) := by
  rw [receive]
  split
  · exact ⟨rfl, rfl⟩
  · exact composes_kept.fail live _

theorem releaseLag_kept (registry : Registry) (id : DetectorId) (live : Live α σ) :
    Outcome.Follows Kept live (releaseLag registry id live) := by
  rw [releaseLag]
  cases found : live.slots[id]? with
  | none => exact composes_kept.done live ()
  | some slot =>
      dsimp only
      cases slot.armed? with
      | none => exact composes_kept.done live ()
      | some input =>
          have disarmed : Kept live [] { live with slots := live.slots.set id slot.disarm } := by
            refine ⟨controls_set Control.shape found (Control.shape_released slot.control) ?_, rfl⟩
            rw [Live.controls, List.map_set, Slot.control_disarm]
            rfl
          exact composes_kept.append disarmed (receive_kept registry input _)

/-- From the moment it is prepared, a pass keeps the shapes, and its log
accounts for the board, even if it fails. -/
theorem pass_kept (registry : Registry) (order : VisitOrder) (input : Option (Input α))
    (live : Live α σ) : Outcome.Follows Kept live.prepare (pass registry order input live) := by
  rw [pass]
  apply composes_kept.andThen
    (composes_kept.each (fun id _ => releaseLag_kept registry id) live.prepare)
  intro _ _
  apply composes_kept.andThen (composes_kept.each (fun input _ => receive_kept registry input) _)
  intro _ _
  exact composes_kept.each (fun vertex _ => visit_kept registry vertex) _

theorem shapes_prepare (live : Live α σ) : live.prepare.shapes = live.shapes :=
  shapes_map Slot.reset rfl fun _ => rfl

theorem shapes_disarm {before after : Live α σ}
    (slots : after.slots = before.slots.map Slot.disarm) : after.shapes = before.shapes := by
  apply shapes_map Slot.disarm slots
  intro slot
  rw [Slot.control_disarm]
  exact Control.shape_released slot.control

def lag? (live : Live α σ) (detector : DetectorId) : Option (Lag α) :=
  (live.slots[detector]?).bind Slot.lag?

theorem lag?_iff {live : Live α σ} {detector : DetectorId} {lag : Lag α} :
    live.lag? detector = some lag ↔
      ∃ control, live.controls[detector]? = some control ∧ control.lag? = some lag := by
  rw [lag?, Option.bind_eq_some_iff]
  constructor
  · rintro ⟨slot, found, holds⟩
    exact ⟨slot.control, controls_of_slot found, holds⟩
  · rintro ⟨control, found, holds⟩
    rcases slot_of_controls found with ⟨slot, placed, rfl⟩
    exact ⟨slot, placed, holds⟩

def lagSource? (live : Live α σ) (detector : DetectorId) : Option Payload :=
  (live.lag? detector).map Lag.source

theorem lagSource?_eq (live : Live α σ) :
    live.lagSource? = fun detector => (live.shapes[detector]?).bind Prod.snd := by
  funext detector
  rw [lagSource?, lag?, shapes, controls, List.getElem?_map, List.getElem?_map]
  cases live.slots[detector]? <;> rfl

/-- Only subscribers of the topic write while it is visited, and only to
topics that they declared. -/
theorem deliver_writes (registry : Registry) (topic : Payload) (detector : DetectorId)
    (live : Live α σ) :
    ∀ input ∈ (deliver registry topic detector live).events.filterMap Event.written?,
      registry.isDeclared detector input.topic .immediate = true := by
  rcases deliver_cases registry topic detector live with idle | ⟨slot, value, found, new, listed⟩
  · rw [idle]
    intro _ member
    cases member
  · exact (deliver_called found new listed).declared

/-- A vertex writes to a topic only through a detector that declared the
topic, which is the vertex itself or a subscriber of it. -/
theorem visit_writes (registry : Registry) (vertex : Vertex) (live : Live α σ) :
    ∀ input ∈ (visit registry vertex live).events.filterMap Event.written?,
      ∃ detector, registry.isDeclared detector input.topic .immediate = true ∧
        (vertex = .detector detector ∨
          ∃ topic, vertex = .topic topic ∧ detector ∈ registry.subscribers topic) := by
  have nothing :
      ∀ input ∈ (Outcome.done live () : Outcome α _ Unit).events.filterMap Event.written?,
      ∃ detector, registry.isDeclared detector input.topic .immediate = true ∧
        (vertex = .detector detector ∨
          ∃ topic, vertex = .topic topic ∧ detector ∈ registry.subscribers topic) := by
    intro _ member
    cases member
  cases vertex with
  | detector detector =>
      rw [visit]
      rcases complete_cases registry detector live with idle | ⟨slot, found, pending⟩
      · rw [idle]
        exact nothing
      · intro input member
        exact ⟨detector, (complete_called found pending).declared input member, Or.inl rfl⟩
  | topic topic =>
      rw [visit]
      split
      next =>
        refine (Outcome.composes_tells Event.written? _).each ?_ live
        intro detector subscribed other input member
        have declared := deliver_writes registry topic detector other input member
        exact ⟨detector, declared, Or.inr ⟨topic, rfl, subscribed⟩⟩
      next => exact nothing

/-! ## What the lags deliver -/

/-- Everything that the lags have to deliver, in the order of the slots. -/
def armed (live : Live α σ) : List (Input α) :=
  live.slots.filterMap Slot.armed?

theorem mem_armed {live : Live α σ} {input : Input α} :
    input ∈ live.armed ↔ ∃ detector lag value, live.lag? detector = some lag ∧
      lag.armed = some value ∧ input = ⟨.lagged lag.source, value⟩ := by
  rw [armed, List.mem_filterMap]
  constructor
  · rintro ⟨slot, member, delivers⟩
    rcases List.getElem?_of_mem member with ⟨detector, found⟩
    rcases Option.bind_eq_some_iff.mp delivers with ⟨lag, holds, delivers⟩
    rcases Option.map_eq_some_iff.mp delivers with ⟨value, armed, rfl⟩
    refine ⟨detector, lag, value, ?_, armed, rfl⟩
    rw [lag?, found]
    exact holds
  · rintro ⟨detector, lag, value, holds, armed, rfl⟩
    rcases Option.bind_eq_some_iff.mp holds with ⟨slot, found, holds⟩
    refine ⟨slot, List.mem_of_getElem? found, ?_⟩
    rw [Slot.armed?, holds, Option.bind_some, armed]
    rfl

def released (live : Live α σ) : Live α σ :=
  { live with
    slots := live.slots.map Slot.disarm
    board := live.board.writeAll live.armed }

theorem disarm_of_unarmed {slot : Slot α σ} (unarmed : slot.armed? = none) :
    slot.disarm = slot := by
  rcases slot with ⟨resident, subscriptions, pending⟩
  cases resident with
  | custom behaviour state => rfl
  | lag lag =>
      rcases lag with ⟨source, latest, armed⟩
      cases armed with
      | none => rfl
      | some value => cases unarmed

/-- A slot delivers what it is armed with, if that has a topic, and is
unarmed afterwards. -/
theorem releaseLag_eq (registry : Registry) {id : DetectorId} {live : Live α σ} {slot : Slot α σ}
    (found : live.slots[id]? = some slot)
    (known : ∀ input, slot.armed? = some input → registry.hasTopic input.topic = true) :
    releaseLag registry id live =
      ⟨{ live with
          slots := live.slots.set id slot.disarm
          board := live.board.writeAll slot.armed?.toList },
        slot.armed?.toList.map fun input => .wrote input.topic input.value, .ok ()⟩ := by
  rw [releaseLag]
  simp only [found]
  cases armed : slot.armed? with
  | none =>
      rcases List.getElem?_eq_some_iff.mp found with ⟨bound, here⟩
      rw [disarm_of_unarmed armed, ← here, List.set_getElem_self]
      rfl
  | some input =>
      simp only [receive, known input armed, if_true]
      rfl

/-- The state once the first `count` slots have delivered. -/
def releasedUpTo (live : Live α σ) (count : Nat) : Live α σ :=
  { live with
    slots := (live.slots.take count).map Slot.disarm ++ live.slots.drop count
    board := live.board.writeAll ((live.slots.take count).filterMap Slot.armed?) }

section Release

variable {live : Live α σ} {count : Nat} (within : count < live.slots.length)
include within

theorem length_disarmed : ((live.slots.take count).map Slot.disarm).length = count := by
  rw [List.length_map, List.length_take, Nat.min_eq_left (Nat.le_of_lt within)]

theorem getElem?_releasedUpTo :
    (live.releasedUpTo count).slots[count]? = some live.slots[count] := by
  have front := length_disarmed within
  rw [releasedUpTo, List.getElem?_append_right (Nat.le_of_eq front), front, Nat.sub_self,
    List.getElem?_drop, Nat.add_zero, List.getElem?_eq_getElem within]

theorem set_releasedUpTo :
    (live.releasedUpTo count).slots.set count live.slots[count].disarm =
      (live.releasedUpTo (count + 1)).slots := by
  have front := length_disarmed within
  rw [releasedUpTo, List.set_append_right _ _ (Nat.le_of_eq front), front, Nat.sub_self,
    List.drop_eq_getElem_cons within, List.set_cons_zero, releasedUpTo,
    List.take_succ_eq_append_getElem within, List.map_append, List.append_assoc]
  rfl

theorem armed_take_succ :
    (live.slots.take (count + 1)).filterMap Slot.armed? =
      (live.slots.take count).filterMap Slot.armed? ++ live.slots[count].armed?.toList := by
  rw [List.take_succ_eq_append_getElem within, List.filterMap_append]
  congr 1

end Release

theorem release_upTo {registry : Registry} (live : Live α σ)
    (known : ∀ input ∈ live.armed, registry.hasTopic input.topic = true) {count : Nat}
    (bound : count ≤ live.slots.length) :
    Outcome.each (releaseLag registry) (List.range count) live =
      ⟨live.releasedUpTo count, ((live.slots.take count).filterMap Slot.armed?).map
        fun input => .wrote input.topic input.value, .ok ()⟩ := by
  induction count with
  | zero => rfl
  | succ count ih =>
      have within : count < live.slots.length := bound
      have one := releaseLag_eq registry (getElem?_releasedUpTo within) fun input armed =>
        known input (List.mem_filterMap.mpr ⟨_, List.getElem_mem within, armed⟩)
      have board : (live.releasedUpTo count).board.writeAll live.slots[count].armed?.toList =
          (live.releasedUpTo (count + 1)).board := by
        rw [releasedUpTo, releasedUpTo, armed_take_succ within, Board.writeAll_append]
      rw [set_releasedUpTo within, board] at one
      rw [List.range_succ, Outcome.each_append, ih (Nat.le_of_lt within), armed_take_succ within,
        List.map_append]
      simp only [Outcome.andThen, Outcome.each, one, Outcome.behind, Outcome.done, List.append_nil]
      rfl

/-- If each has a topic, the values of all lags are delivered. -/
theorem release_all {registry : Registry} (live : Live α σ)
    (known : ∀ input ∈ live.armed, registry.hasTopic input.topic = true) :
    Outcome.each (releaseLag registry) (List.range live.slots.length) live =
      ⟨live.released, live.armed.map fun input => .wrote input.topic input.value, .ok ()⟩ := by
  have whole := release_upTo live known (Nat.le_refl _)
  simp only [releasedUpTo, List.take_length, List.drop_length, List.append_nil] at whole
  exact whole

end Live
end ReactiveGraph
