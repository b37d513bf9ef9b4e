import ReactiveGraph.Proofs.Pass

namespace ReactiveGraph

/-!
# What a pass delivers

A pass opens by delivering what the lags captured and then its input.  After
that it visits vertices: a topic is a round of deliveries, one for each
subscriber, and a detector is a completion.
-/

variable {α σ : Type}

namespace Registry

def hears (registry : Registry) (board : Board α) (detector : DetectorId) : Bool :=
  registry.topics.any fun entry => entry.subscribes detector && board.isFresh entry.payload

/-- The calls that a vertex stands for: each subscriber of a topic is handed
the topic's new value, and a detector that was handed anything completes. -/
def due (registry : Registry) (board : Board α) : Vertex → List (Event α)
  | .topic topic =>
      (board.new? topic).elim [] fun value =>
        (registry.subscribers topic).map fun detector => .evaluated detector topic value
  | .detector detector => if registry.hears board detector then [.completed detector] else []

theorem hears_iff {registry : Registry} (sound : registry.Sound) {board : Board α}
    (settled : board.Sound) {detector : DetectorId} :
    registry.hears board detector = true ↔
      ∃ topic, detector ∈ registry.subscribers topic ∧ (board.new? topic).isSome = true := by
  rw [hears, List.any_eq_true]
  constructor
  · rintro ⟨entry, member, both⟩
    rcases Bool.and_eq_true_iff.mp both with ⟨subscriber, fresh⟩
    refine ⟨entry.payload, ?_, settled entry.payload ▸ fresh⟩
    rw [subscribers, sound.topic?_payload member]
    exact List.contains_iff_mem.mp subscriber
  · rintro ⟨topic, subscribed, new⟩
    rcases topic?_of_mem_subscribers subscribed with ⟨entry, found, subscriber⟩
    refine ⟨entry, mem_of_topic? found, Bool.and_eq_true_iff.mpr ⟨?_, ?_⟩⟩
    · exact List.contains_iff_mem.mpr subscriber
    · rw [payload_of_topic? found, settled topic]
      exact new

end Registry

namespace Live

/-- The state in which the walk of a pass begins: the lags have delivered,
and so has the input. -/
def opened (input : Option (Input α)) (live : Live α σ) : Live α σ :=
  { live.prepare.released with
    board := live.board.age.writeAll (live.armed ++ input.toList) }

theorem armed_prepare (live : Live α σ) : live.prepare.armed = live.armed := by
  rw [armed, armed, prepare, List.filterMap_map]
  rfl

theorem controls_opened (input : Option (Input α)) (live : Live α σ) :
    (live.opened input).controls = live.controls.map fun control => control.reset.released := by
  have each : (Slot.control ∘ Slot.disarm) ∘ Slot.reset =
      (fun control => control.reset.released) ∘ (Slot.control : Slot α σ → Control α) := by
    funext slot
    exact Slot.control_disarm slot.reset
  rw [controls, controls, opened, released, prepare, List.map_map, List.map_map, List.map_map, each]

theorem shapes_opened (input : Option (Input α)) (live : Live α σ) :
    (live.opened input).shapes = live.shapes :=
  (shapes_disarm rfl).trans (shapes_prepare live)

theorem shapes_of_lag {live : Live α σ} {detector : DetectorId} {control : Control α} {lag : Lag α}
    (found : live.controls[detector]? = some control) (holds : control.lag? = some lag) :
    live.shapes[detector]? = some (control.subscriptions, some lag.source) := by
  rw [shapes, List.getElem?_map, found, Option.map_some, Control.shape, holds, Option.map_some]

theorem hasTopic_of_armed {registry : Registry} {live : Live α σ}
    (fits : registry.Fits live.shapes) :
    ∀ input ∈ live.armed, registry.hasTopic input.topic = true := by
  intro input member
  rcases mem_armed.mp member with ⟨detector, lag, value, holds, _, rfl⟩
  rcases lag?_iff.mp holds with ⟨control, found, holds⟩
  exact fits.hasTopic_lagged (shapes_of_lag found holds)

theorem releases {registry : Registry} {live : Live α σ} (fits : registry.Fits live.shapes) :
    Outcome.each (releaseLag registry) (List.range live.slots.length) live.prepare =
      ⟨live.opened none, live.armed.map fun given => .wrote given.topic given.value, .ok ()⟩ := by
  have known : ∀ input ∈ live.prepare.armed, registry.hasTopic input.topic = true := by
    rw [armed_prepare]
    exact hasTopic_of_armed fits
  have length : live.prepare.slots.length = live.slots.length := by
    rw [prepare, List.length_map]
  rw [← length, release_all live.prepare known, armed_prepare, opened, released, armed_prepare,
    Option.toList, List.append_nil]
  rfl

theorem pass_unknown {registry : Registry} {order : VisitOrder} {input : Input α}
    {live : Live α σ} (fits : registry.Fits live.shapes)
    (unknown : registry.hasTopic input.topic = false) :
    pass registry order (some input) live =
      ⟨live.opened none, live.armed.map fun given => .wrote given.topic given.value,
        .error (.unknownTopic input.topic.name)⟩ := by
  rw [pass, releases fits]
  simp only [Outcome.andThen, Option.toList, Outcome.each, receive, unknown, Bool.false_eq_true,
    if_false, Outcome.fail, Outcome.behind, List.append_nil]

/-- If its input has a topic, a pass consists of the opening and the walk. -/
theorem pass_opens {registry : Registry} (order : VisitOrder) {input : Option (Input α)}
    {live : Live α σ} (fits : registry.Fits live.shapes)
    (known : ∀ given ∈ input, registry.hasTopic given.topic = true) :
    pass registry order input live =
      (Outcome.each (visit registry) order.walk (live.opened input)).behind
        ((live.armed ++ input.toList).map fun given => .wrote given.topic given.value) := by
  rw [pass, releases fits]
  cases input with
  | none =>
      simp only [Outcome.andThen, Option.toList, Outcome.each, Outcome.done, Outcome.behind,
        List.nil_append, List.append_nil]
  | some given =>
      simp only [Outcome.andThen, Option.toList, Outcome.each, receive, known given rfl, if_true,
        Outcome.done, Outcome.behind, List.map_append, List.append_assoc, opened,
        Board.writeAll_append]
      rfl

/-- A pass is over after its opening for want of a topic, or it goes on to the
walk. -/
theorem pass_cases {registry : Registry} (order : VisitOrder) (input : Option (Input α))
    {live : Live α σ} (fits : registry.Fits live.shapes) :
    (∃ given, input = some given ∧ registry.hasTopic given.topic = false ∧
        pass registry order input live =
          ⟨live.opened none, live.armed.map fun given => .wrote given.topic given.value,
            .error (.unknownTopic given.topic.name)⟩) ∨
      (∀ given ∈ input, registry.hasTopic given.topic = true) ∧
        pass registry order input live =
          (Outcome.each (visit registry) order.walk (live.opened input)).behind
            ((live.armed ++ input.toList).map fun given => .wrote given.topic given.value) := by
  by_cases known : ∀ given ∈ input, registry.hasTopic given.topic = true
  · exact Or.inr ⟨known, pass_opens order fits known⟩
  · simp only [not_forall, Bool.not_eq_true] at known
    rcases known with ⟨given, member, unknown⟩
    rw [Option.mem_def] at member
    subst member
    exact Or.inl ⟨given, rfl, unknown, pass_unknown fits unknown⟩

theorem hasTopic_of_ok {registry : Registry} {order : VisitOrder} {input : Option (Input α)}
    {live : Live α σ} (fits : registry.Fits live.shapes)
    (ok : (pass registry order input live).result = .ok ()) :
    ∀ given ∈ input, registry.hasTopic given.topic = true := by
  intro given member
  rw [Option.mem_def] at member
  subst member
  cases unknown : registry.hasTopic given.topic with
  | true => rfl
  | false =>
      rw [pass_unknown fits unknown] at ok
      cases ok

/-! ## Visiting one vertex -/

/-- The subscribers in `handled` have been handed the value of the topic. -/
structure HandedOut (topic : Payload) (value : α) (before : Live α σ)
    (handled : List DetectorId) (after : Live α σ) (log : List (Event α)) : Prop where
  controls : ∀ detector, after.controls[detector]? =
    before.controls[detector]?.map fun control =>
      if detector ∈ handled then control.handed value else control
  new : after.board.new? topic = some value
  calls : log.filter Event.isCall = handled.map fun detector => .evaluated detector topic value

theorem HandedOut.next {registry : Registry} (sound : registry.Sound) {topic : Payload} {value : α}
    {before after : Live α σ} (fits : registry.Fits before.shapes) {detector : DetectorId}
    {handled rest : List DetectorId} {log : List (Event α)}
    (split : registry.subscribers topic = handled ++ detector :: rest)
    (handedOut : HandedOut topic value before handled after log) :
    HandedOut topic value before (handled ++ [detector])
      (deliver registry topic detector after).state
      (log ++ (deliver registry topic detector after).events) := by
  have subscribed : detector ∈ registry.subscribers topic := by
    rw [split]
    exact List.mem_append_right handled List.mem_cons_self
  have unhandled : detector ∉ handled := by
    have nodup := sound.subscribers_nodup topic
    rw [split] at nodup
    intro member
    exact (List.nodup_append.mp nodup).2.2 detector member detector List.mem_cons_self rfl
  have placed : detector < before.controls.length := by
    have known := sound.subscriber_known subscribed
    rw [← fits.count, shapes, List.length_map] at known
    exact known
  have untouched : after.controls[detector]? = some before.controls[detector] := by
    rw [handedOut.controls, List.getElem?_eq_getElem placed, Option.map_some, if_neg unhandled]
  rcases slot_of_controls untouched with ⟨slot, found, same⟩
  have listed : topic ∈ slot.subscriptions := by
    have shape : before.shapes[detector]? = some slot.control.shape := by
      rw [shapes, List.getElem?_map, List.getElem?_eq_getElem placed, same]
      rfl
    exact ((fits.tables detector _ _ shape).agrees topic).mpr subscribed
  have called : Outcome.Follows (Called registry detector (slot.control.handed value)
      [.evaluated detector topic value]) after (deliver registry topic detector after) :=
    deliver_called found handedOut.new listed
  refine ⟨?_, ?_, ?_⟩
  · intro other
    rw [called.controls, List.getElem?_set]
    by_cases here : detector = other
    · subst here
      have bound : detector < after.controls.length := (List.getElem?_eq_some_iff.mp untouched).1
      rw [if_pos rfl, if_pos bound, List.getElem?_eq_getElem placed, Option.map_some,
        if_pos (List.mem_append_right handled List.mem_cons_self), same]
    · rw [if_neg here, handedOut.controls other]
      congr 1
      funext control
      have membership : other ∈ handled ++ [detector] ↔ other ∈ handled := by
        rw [List.mem_append, List.mem_singleton]
        exact or_iff_left fun equal => here equal.symm
      simp only [membership]
  · rw [called.board, Board.new?_writeAll_of_ne]
    · exact handedOut.new
    · intro input member equal
      exact sound.apart subscribed (equal ▸ called.declared input member)
  · rw [List.filter_append, handedOut.calls, called.calls, List.map_append]
    rfl

/-- Visiting a topic hands its new value, if it has one, to each of its
subscribers. -/
theorem visit_topic {registry : Registry} (sound : registry.Sound) {live : Live α σ}
    (fits : registry.Fits live.shapes) (settled : live.board.Sound) {topic : Payload}
    (ok : (visit registry (.topic topic) live).result = .ok ()) :
    (∀ detector, (visit registry (.topic topic) live).state.controls[detector]? =
        live.controls[detector]?.map fun control =>
          if detector ∈ registry.subscribers topic then
            (live.board.new? topic).elim control control.handed
          else control) ∧
      (visit registry (.topic topic) live).events.filter Event.isCall =
        registry.due live.board (.topic topic) := by
  rw [visit] at ok ⊢
  cases new : live.board.new? topic with
  | none =>
      have stale : ¬live.board.isFresh topic = true := by
        rw [settled topic, new]
        exact Bool.false_ne_true
      rw [if_neg stale, Registry.due, new]
      refine ⟨fun detector => ?_, rfl⟩
      have unchanged : (fun control : Control α =>
          if detector ∈ registry.subscribers topic then
            (none : Option α).elim control control.handed
          else control) = id := by
        funext control
        exact ite_self control
      rw [unchanged, Option.map_id]
      rfl
  | some value =>
      have fresh : live.board.isFresh topic = true := by
        rw [settled topic, new]
        rfl
      rw [if_pos fresh] at ok ⊢
      have start : HandedOut topic value live [] live [] := by
        refine ⟨fun detector => ?_, new, rfl⟩
        simp only [List.not_mem_nil, if_false, Option.map_id']
      have all := Outcome.each_ok (P := HandedOut topic value live) start
        (fun handled detector rest state log split handedOut _ =>
          handedOut.next sound fits split) ok
      refine ⟨all.controls, ?_⟩
      rw [all.calls, Registry.due, new]
      rfl

/-- Visiting a detector completes it if it was handed anything. -/
theorem visit_detector (registry : Registry) {live : Live α σ} {detector : DetectorId}
    {control : Control α} (found : live.controls[detector]? = some control) :
    (∀ other, (visit registry (.detector detector) live).state.controls[other]? =
        live.controls[other]?.map fun control =>
          if other = detector ∧ control.pending = true then control.completed else control) ∧
      (visit registry (.detector detector) live).events.filter Event.isCall =
        if control.pending then [.completed detector] else [] := by
  rw [visit]
  rcases slot_of_controls found with ⟨slot, inSlot, rfl⟩
  cases pending : slot.pending with
  | false =>
      have idle : slot.control.pending = false := pending
      rw [complete_idle inSlot pending, idle]
      refine ⟨fun other => ?_, rfl⟩
      by_cases here : other = detector
      · rw [here, Outcome.done, found, Option.map_some, idle,
          if_neg fun both => Bool.false_ne_true both.2]
      · simp only [here, false_and, if_false, Option.map_id']
        rfl
  | true =>
      have busy : slot.control.pending = true := pending
      have called : Outcome.Follows (Called registry detector slot.control.completed
          [.completed detector]) live (complete registry detector live) :=
        complete_called inSlot pending
      rw [busy]
      refine ⟨fun other => ?_, called.calls⟩
      rw [called.controls, List.getElem?_set]
      by_cases here : detector = other
      · subst here
        have bound : detector < live.controls.length := (List.getElem?_eq_some_iff.mp found).1
        rw [if_pos rfl, if_pos bound, found, Option.map_some, if_pos ⟨rfl, busy⟩]
      · have elsewhere : ¬other = detector := fun equal => here equal.symm
        simp only [if_neg here, elsewhere, false_and, if_false, Option.map_id']

end Live
end ReactiveGraph
