import ReactiveGraph.Proofs.Newcomers
import ReactiveGraph.Proofs.Order

namespace ReactiveGraph

/-!
# Wiring and dispatch agree

A subscription is recorded in the registry, by which a pass finds the
detectors that it has to call, and in the detector's own table, by which the
value is dispatched.  A pass would silently go on if the two disagreed: if
there were no slot for a detector, or no row for a topic.  In fact they always
agree, so it makes no difference what a pass does in these cases.
-/

variable {α σ : Type}

theorem Wiring.Tabled.count_iff {registry : Registry} {detector : DetectorId}
    {table : List Payload} (tabled : Tabled registry detector table) (topic : Payload) :
    table.count topic = 1 ↔ detector ∈ registry.subscribers topic := by
  rw [← tabled.agrees]
  constructor
  · intro once
    exact List.count_pos_iff.mp (once ▸ Nat.one_pos)
  · exact List.count_eq_one_of_mem tabled.nodup

namespace Live

section

variable (skip : Live α σ → Outcome α (Live α σ) Unit) (registry : Registry)

def releaseLagOr (id : DetectorId) (live : Live α σ) : Outcome α (Live α σ) Unit :=
  match live.slots[id]? with
  | none => skip live
  | some _ => releaseLag registry id live

/-- As `deliver`, but leaving a missing slot, a topic without a new value and
a missing row to `skip`. -/
def deliverOr (topic : Payload) (detector : DetectorId) (live : Live α σ) :
    Outcome α (Live α σ) Unit :=
  match live.slots[detector]?, live.board.new? topic with
  | some slot, some _ =>
      if slot.subscriptions.contains topic then deliver registry topic detector live
      else skip live
  | _, _ => skip live

def visitOr (vertex : Vertex) (live : Live α σ) : Outcome α (Live α σ) Unit :=
  match vertex with
  | .topic topic =>
      match registry.topic? topic with
      | none => skip live
      | some entry =>
          if live.board.isFresh topic then
            Outcome.each (deliverOr skip registry topic) entry.subscribers live
          else .done live ()
  | .detector detector =>
      match live.slots[detector]? with
      | none => skip live
      | some _ => complete registry detector live

/-- As `pass`, but leaving to `skip` whatever a pass passes over in
silence. -/
def passOr (order : VisitOrder) (input : Option (Input α)) (live : Live α σ) :
    Outcome α (Live α σ) Unit :=
  (Outcome.each (releaseLagOr skip registry) (List.range live.slots.length) live.prepare).andThen
    fun _ live =>
      (Outcome.each (receive registry) input.toList live).andThen fun _ live =>
        Outcome.each (visitOr skip registry) order.walk live

end

variable {registry : Registry}

theorem passOr_done (registry : Registry) (order : VisitOrder) (input : Option (Input α))
    (live : Live α σ) :
    passOr (fun live => .done live ()) registry order input live =
      pass registry order input live := by
  have releases : releaseLagOr (fun live : Live α σ => .done live ()) registry =
      releaseLag registry := by
    funext id live
    rw [releaseLagOr, releaseLag]
    cases live.slots[id]? <;> rfl
  have delivers : ∀ topic, deliverOr (fun live : Live α σ => .done live ()) registry topic =
      deliver registry topic := by
    intro topic
    funext detector live
    rw [deliverOr]
    split
    next slot value found new =>
      split
      next => rfl
      next unlisted => simp only [deliver, found, new, if_neg unlisted]
    next missing =>
      rw [deliver]
      split
      next slot value found new => exact (missing slot value found new).elim
      next => rfl
  have visits : visitOr (fun live : Live α σ => .done live ()) registry = visit registry := by
    funext vertex live
    cases vertex with
    | topic topic =>
        rw [visitOr, visit, Registry.subscribers, delivers]
        cases registry.topic? topic with
        | some entry => rfl
        | none => cases live.board.isFresh topic <;> simp [Outcome.each]
    | detector detector =>
        rw [visitOr, visit, complete]
        cases live.slots[detector]? <;> rfl
  rw [passOr, pass, releases, visits]

/-! ## No gap is ever met -/

/-- The slots are those of the registry, and the board knows the values of
the topics that are new. -/
structure Ready (registry : Registry) (live : Live α σ) : Prop where
  fits : registry.Fits live.shapes
  settled : live.board.Sound

theorem Kept.ready {before after : Live α σ} {log : List (Event α)}
    (kept : Kept before log after) (ready : Ready registry before) : Ready registry after where
  fits := kept.shapes ▸ ready.fits
  settled := kept.board ▸ ready.settled.writeAll _

theorem ready_prepare {live : Live α σ} (fits : registry.Fits live.shapes) :
    Ready registry live.prepare where
  fits := live.shapes_prepare ▸ fits
  settled := Board.sound_age live.board

theorem Ready.slot {live : Live α σ} (ready : Ready registry live) {detector : DetectorId}
    (known : detector < registry.detectors.length) :
    ∃ slot, live.slots[detector]? = some slot ∧
      Wiring.Tabled registry detector slot.subscriptions := by
  rw [← ready.fits.count, length_shapes] at known
  have placed := List.getElem?_eq_getElem known
  refine ⟨_, placed, ready.fits.tables detector _ (live.slots[detector].control.shape.2) ?_⟩
  rw [shapes, List.getElem?_map, controls_of_slot placed]
  rfl

/-- A subscriber of a topic with a new value has a slot with a row for the
topic. -/
theorem Ready.deliverOr_eq (sound : registry.Sound) {live : Live α σ}
    (ready : Ready registry live) {topic : Payload} (fresh : live.board.isFresh topic = true)
    {detector : DetectorId} (subscribed : detector ∈ registry.subscribers topic)
    (skip : Live α σ → Outcome α (Live α σ) Unit) :
    deliverOr skip registry topic detector live = deliver registry topic detector live := by
  rcases ready.slot (sound.subscriber_known subscribed) with ⟨slot, placed, tabled⟩
  have listed := (tabled.agrees topic).mpr subscribed
  rw [ready.settled topic] at fresh
  rcases Option.isSome_iff_exists.mp fresh with ⟨value, new⟩
  simp [deliverOr, placed, new, listed]

theorem isFresh_deliver (registry : Registry) (topic : Payload) (detector : DetectorId)
    {live : Live α σ} {other : Payload} (fresh : live.board.isFresh other = true) :
    (deliver registry topic detector live).state.board.isFresh other = true := by
  have kept : Outcome.Follows Kept live (deliver registry topic detector live) :=
    deliver_kept registry topic detector live
  rw [kept.board]
  exact Board.isFresh_writeAll.mpr (Or.inr fresh)

theorem Ready.visitOr_eq (sound : registry.Sound) {live : Live α σ} (ready : Ready registry live)
    {vertex : Vertex} (known : vertex ∈ registry.vertices)
    (skip : Live α σ → Outcome α (Live α σ) Unit) :
    visit registry vertex live = visitOr skip registry vertex live := by
  cases vertex with
  | detector detector =>
      rcases ready.slot (Registry.detector_mem_vertices.mp known) with ⟨slot, placed, _⟩
      rw [visit, visitOr, placed]
  | topic topic =>
      have hasTopic := Registry.topic_mem_vertices.mp known
      rcases Option.isSome_iff_exists.mp hasTopic with ⟨entry, found⟩
      have subscribers : registry.subscribers topic = entry.subscribers := by
        rw [Registry.subscribers, found]
        rfl
      rw [visit, visitOr, found, subscribers]
      cases fresh : live.board.isFresh topic with
      | false => rfl
      | true =>
          apply Outcome.each_congr
            (P := fun live => Ready registry live ∧ live.board.isFresh topic = true)
          · intro detector member state holds
            rw [← subscribers] at member
            exact (holds.1.deliverOr_eq sound holds.2 member skip).symm
          · intro detector _ state holds
            have kept : Outcome.Follows Kept state (deliver registry topic detector state) :=
              deliver_kept registry topic detector state
            exact ⟨kept.ready holds.1, isFresh_deliver registry topic detector holds.2⟩
          · exact ⟨ready, fresh⟩

/-- A pass over the slots of the registry meets none of its gaps. -/
theorem passOr_eq (sound : registry.Sound) {order : VisitOrder}
    (isWalk : registry.IsWalk order.walk) {live : Live α σ} (fits : registry.Fits live.shapes)
    (skip : Live α σ → Outcome α (Live α σ) Unit) (input : Option (Input α)) :
    pass registry order input live = passOr skip registry order input live := by
  have releases : Outcome.each (releaseLag registry) (List.range live.slots.length) live.prepare =
      Outcome.each (releaseLagOr skip registry) (List.range live.slots.length) live.prepare := by
    apply Outcome.each_congr (P := fun state => state.slots.length = live.slots.length)
    · intro id member state length
      have bound : id < state.slots.length := by
        rw [length]
        exact List.mem_range.mp member
      rw [releaseLagOr, List.getElem?_eq_getElem bound]
    · intro id _ state length
      have kept : Outcome.Follows Kept state (releaseLag registry id state) :=
        releaseLag_kept registry id state
      rw [← length_shapes, kept.shapes, length_shapes, length]
    · exact List.length_map _
  rw [pass, passOr, ← releases]
  have released : Outcome.Follows Kept live.prepare
      (Outcome.each (releaseLag registry) (List.range live.slots.length) live.prepare) :=
    composes_kept.each (fun id _ => releaseLag_kept registry id) live.prepare
  have ready := released.ready (ready_prepare fits)
  apply Outcome.andThen_congr
  intro _
  have received := composes_kept.each (fun given (_ : given ∈ input.toList) =>
    receive_kept registry given) (Outcome.each (releaseLag registry)
      (List.range live.slots.length) live.prepare).state
  apply Outcome.andThen_congr
  intro _
  apply Outcome.each_congr (P := Ready registry)
  · intro vertex member state ready
    exact ready.visitOr_eq sound (isWalk.perm.mem_iff.mp member) skip
  · intro vertex _ state ready
    have kept : Outcome.Follows Kept state (visit registry vertex state) :=
      visit_kept registry vertex state
    exact kept.ready ready
  · exact Kept.ready received ready

end Live

namespace Graph

/-- The registry and the slots of a graph say the same.  The slots are those
of the detectors that have joined, each in the place that is its identifier.
A detector subscribes to a topic just if there is exactly one row for the
topic in its slot, there are no other rows, and edges join only what is
registered.  A lag subscribes to its source alone, and nothing but lags ever
has anything to deliver.  So once the graph is sealed, it makes no difference
what a pass does when it finds no slot, no topic, no new value or no row. -/
structure Agreeing (graph : Graph α σ) (joined : List (DetectorId × Option Payload)) : Prop where
  slots : joined = graph.slots.zipIdx.map fun place => (place.2, place.1.lag?.map Lag.source)
  count : graph.registry.detectors.length = graph.slots.length
  publishers : ∀ entry ∈ graph.registry.topics, ∀ publisher ∈ entry.publishers,
    publisher.1 < graph.slots.length
  subscribers : ∀ entry ∈ graph.registry.topics, ∀ subscriber ∈ entry.subscribers,
    subscriber < graph.slots.length
  rows : ∀ entry ∈ graph.registry.topics, ∀ detector,
    detector ∈ entry.subscribers ↔ ∃ slot, graph.slots[detector]? = some slot ∧
      slot.subscriptions.count entry.payload = 1
  registered : ∀ slot ∈ graph.slots, slot.subscriptions.Nodup ∧
    ∀ topic ∈ slot.subscriptions, ∃ id entry, graph.registry.topicId? topic = some id ∧
      graph.registry.topics[id]? = some entry ∧ entry.payload = topic
  lags : ∀ detector slot lag, graph.slots[detector]? = some slot → slot.lag? = some lag →
    slot.subscriptions = [lag.source] ∧ detector ∈ graph.registry.subscribers lag.source ∧
      graph.registry.isDeclared detector (.lagged lag.source) .delayed = true
  others : ∀ slot ∈ graph.slots, slot.lag? = none → slot.armed? = none ∧ slot.disarm = slot
  edges : ∀ source target, (source, target) ∈ graph.registry.edges →
    source ∈ graph.registry.vertices ∧ target ∈ graph.registry.vertices
  unskipped : ∀ closed, graph.close = .ok closed → ∀ skip input live,
    live.slots = closed.slots →
      Live.pass closed.registry closed.order input live =
        Live.passOr skip closed.registry closed.order input live

theorem shapes_of_slot {graph : Graph α σ} {detector : DetectorId} {slot : Slot α σ}
    (found : graph.slots[detector]? = some slot) :
    graph.shapes[detector]? = some (slot.subscriptions, slot.lag?.map Lag.source) := by
  rw [Live.shapes, List.getElem?_map, Live.controls_of_slot found]
  rfl

theorem Coherent.count {graph : Graph α σ} (coherent : graph.Coherent) :
    graph.registry.detectors.length = graph.slots.length := by
  rw [← coherent.fits.count, Live.length_shapes]

theorem Coherent.tabled {graph : Graph α σ} (coherent : graph.Coherent) {detector : DetectorId}
    {slot : Slot α σ} (found : graph.slots[detector]? = some slot) :
    Wiring.Tabled graph.registry detector slot.subscriptions :=
  coherent.fits.tables detector _ _ (shapes_of_slot found)

theorem Coherent.rows {graph : Graph α σ} (coherent : graph.Coherent) {entry : TopicRecord}
    (member : entry ∈ graph.registry.topics) (detector : DetectorId) :
    detector ∈ entry.subscribers ↔ ∃ slot, graph.slots[detector]? = some slot ∧
      slot.subscriptions.count entry.payload = 1 := by
  have subscribers : graph.registry.subscribers entry.payload = entry.subscribers := by
    rw [Registry.subscribers, coherent.registry.topic?_payload member]
    rfl
  rw [← subscribers]
  constructor
  · intro subscribes
    have known := coherent.registry.subscriber_known subscribes
    rw [coherent.count] at known
    have placed := List.getElem?_eq_getElem known
    exact ⟨_, placed, ((coherent.tabled placed).count_iff entry.payload).mpr subscribes⟩
  · rintro ⟨slot, placed, once⟩
    exact ((coherent.tabled placed).count_iff entry.payload).mp once

theorem Coherent.registered {graph : Graph α σ} (coherent : graph.Coherent)
    {detector : DetectorId} {slot : Slot α σ} (placed : graph.slots[detector]? = some slot)
    {topic : Payload} (listed : topic ∈ slot.subscriptions) :
    ∃ id entry, graph.registry.topicId? topic = some id ∧
      graph.registry.topics[id]? = some entry ∧ entry.payload = topic := by
  have subscribes := ((coherent.tabled placed).agrees topic).mp listed
  rcases Registry.topic?_of_mem_subscribers subscribes with ⟨entry, found, _⟩
  apply Registry.topicId?_of_hasTopic
  rw [Registry.hasTopic, found]
  rfl

theorem Coherent.lag {graph : Graph α σ} (coherent : graph.Coherent) {detector : DetectorId}
    {slot : Slot α σ} {lag : Lag α} (placed : graph.slots[detector]? = some slot)
    (holds : slot.lag? = some lag) :
    slot.subscriptions = [lag.source] ∧ detector ∈ graph.registry.subscribers lag.source ∧
      graph.registry.isDeclared detector (.lagged lag.source) .delayed = true := by
  have found : graph.shapes[detector]? = some (slot.subscriptions, some lag.source) := by
    rw [shapes_of_slot placed, holds, Option.map_some]
  rcases coherent.fits.lags detector _ _ found with ⟨single, declared⟩
  exact ⟨single, (coherent.fits.subscribed_lag found lag.source).mpr rfl, declared⟩

theorem Coherent.passOr_eq {graph closed : Graph α σ} (coherent : graph.Coherent)
    (answer : graph.close = .ok closed) (skip : Live α σ → Outcome α (Live α σ) Unit)
    (input : Option (Input α)) {live : Live α σ} (slots : live.slots = closed.slots) :
    Live.pass closed.registry closed.order input live =
      Live.passOr skip closed.registry closed.order input live := by
  have coherent := coherent.close answer
  have fits : closed.registry.Fits live.shapes := by
    have same : live.shapes = closed.shapes := by
      rw [Live.shapes, Live.controls, slots, Live.shapes, Live.controls]
    rw [same]
    exact coherent.fits
  exact Live.passOr_eq coherent.registry (coherent.isWalk (isSealed_close answer)) fits skip input

theorem roster_eq (graph : Graph α σ) :
    graph.roster = graph.slots.zipIdx.map fun place => (place.2, place.1.lag?.map Lag.source) := by
  rw [roster, Live.shapes, Live.controls, List.map_map, List.zipIdx_map, List.map_map]
  rfl

/-- Whatever has been done to a graph, its registry and its slots say the
same. -/
theorem dispatch_agrees (config : Config) (operations : List (Operation α σ)) :
    (run operations (ofConfig config)).state.Agreeing (newcomers operations (ofConfig config)) := by
  have reachable : (run operations (ofConfig config)).state.Reachable := ⟨config, operations, rfl⟩
  rw [roster_history]
  generalize (run operations (ofConfig config)).state = graph at reachable
  have coherent := reachable.coherent
  refine ⟨graph.roster_eq, coherent.count, ?_, ?_, fun entry => coherent.rows, ?_,
    fun detector slot lag => coherent.lag, ?_, ?_, ?_⟩
  · intro entry member publisher publishes
    rw [← coherent.count]
    exact (coherent.registry.entries entry member).publishers_known publisher publishes
  · intro entry member subscriber subscribes
    rw [← coherent.count]
    exact (coherent.registry.entries entry member).subscribers_known subscriber subscribes
  · intro slot member
    rcases List.getElem?_of_mem member with ⟨detector, placed⟩
    exact ⟨(coherent.tabled placed).nodup, fun topic => coherent.registered placed⟩
  · intro slot _ custom
    have unarmed : slot.armed? = none := by rw [Slot.armed?, custom, Option.bind_none]
    exact ⟨unarmed, Live.disarm_of_unarmed unarmed⟩
  · intro source target
    exact coherent.registry.edge_vertices
  · intro closed answer skip input live slots
    exact coherent.passOr_eq answer skip input slots

/-- A detector that goes on after a refused subscription has one row for the
topic, and one that gives up has none. -/
example :
    let relay := fun optional : Bool => { Detector.relay [] [] with
      wiring := fun _ => .ofList [⟨.subscribe, .plain "in", false⟩,
        ⟨.subscribe, .plain "in", optional⟩] }
    ((run [.add (relay false), .add (relay true)] (ofConfig {} : Graph Nat Unit)).state.slots.map
      Slot.subscriptions) = [[.plain "in"]] := rfl

end Graph
end ReactiveGraph
