import ReactiveGraph.Proofs.History
import ReactiveGraph.Proofs.Settling

namespace ReactiveGraph

/-!
# Coherent graphs

Whatever has been done to a graph, its registry is sound, its slots are those
of its registry, and once it is sealed its order is the one computed from the
registry.  No lag is armed before that.
-/

variable {α σ : Type}

namespace Registry

/-- The answers about edges with one more detector, which has none. -/
theorem Sound.addDetector {registry after : Registry} (sound : registry.Sound) {name : String}
    {detector : DetectorId} (added : registry.addDetector name = .ok (detector, after)) :
    after.Sound ∧ registry.sealed = false ∧ after.sealed = false ∧
      detector = registry.detectors.length ∧ after.detectors.length = detector + 1 ∧
      Wiring.Tabled after detector [] ∧ ∀ other, Agree other registry after := by
  rw [Registry.addDetector] at added
  split at added
  next => cases added
  next opened =>
    have opened : registry.sealed = false := Bool.eq_false_iff.mpr opened
    cases added
    refine ⟨?_, opened, opened, rfl, List.length_append, ?_,
      fun _ _ => ⟨Iff.rfl, fun _ => Iff.rfl⟩⟩
    · refine ⟨sound.distinct, fun entry member => (sound.entries entry member).mono ?_⟩
      rw [List.length_append]
      exact Nat.le_add_right _ _
    · refine ⟨List.nodup_nil, fun topic => ?_⟩
      constructor
      · intro member
        cases member
      · intro member
        exact absurd (sound.subscriber_known member) (Nat.lt_irrefl _)

/-- What fits goes on to fit where the registry says the same of every
detector with a slot. -/
theorem Fits.agree {before after : Registry} {shapes : List (List Payload × Option Payload)}
    (fits : before.Fits shapes) (count : shapes.length = after.detectors.length)
    (same : ∀ detector, detector < shapes.length → Agree detector before after) :
    after.Fits shapes where
  count := count
  tables := by
    intro detector table source? found
    have bound : detector < shapes.length := (List.getElem?_eq_some_iff.mp found).1
    exact (fits.tables detector table source? found).agree (same detector bound)
  lags := by
    intro detector table source found
    have bound : detector < shapes.length := (List.getElem?_eq_some_iff.mp found).1
    rcases fits.lags detector table source found with ⟨single, declared⟩
    exact ⟨single, ((same detector bound (.lagged source)).2 .delayed).mpr declared⟩

theorem Fits.append {before after : Registry} {shapes : List (List Payload × Option Payload)}
    (fits : before.Fits shapes) {table : List Payload} {source? : Option Payload}
    (count : after.detectors.length = shapes.length + 1)
    (same : ∀ detector, detector < shapes.length → Agree detector before after)
    (tabled : Wiring.Tabled after shapes.length table)
    (lagged : ∀ source, source? = some source →
      table = [source] ∧ after.isDeclared shapes.length (.lagged source) .delayed = true) :
    after.Fits (shapes ++ [(table, source?)]) := by
  have cases : ∀ {detector : Nat} {other : List Payload × Option Payload},
      (shapes ++ [(table, source?)])[detector]? = some other →
        detector < shapes.length ∧ shapes[detector]? = some other ∨
          detector = shapes.length ∧ other = (table, source?) := by
    intro detector other found
    by_cases bound : detector < shapes.length
    · rw [List.getElem?_append_left bound] at found
      exact Or.inl ⟨bound, found⟩
    · have beyond := Nat.le_of_not_lt bound
      rw [List.getElem?_append_right beyond] at found
      rcases List.getElem?_eq_some_iff.mp found with ⟨last, equal⟩
      have first : detector - shapes.length = 0 := Nat.lt_one_iff.mp last
      refine Or.inr ⟨Nat.le_antisymm (Nat.sub_eq_zero_iff_le.mp first) beyond, ?_⟩
      rw [← equal]
      simp only [first, List.getElem_cons_zero]
  refine ⟨?_, ?_, ?_⟩
  · rw [count, List.length_append]
    rfl
  · intro detector other source found
    rcases cases found with ⟨bound, before⟩ | ⟨rfl, equal⟩
    · exact (fits.tables detector other source before).agree (same detector bound)
    · rw [(Prod.mk.inj equal).1]
      exact tabled
  · intro detector other source found
    rcases cases found with ⟨bound, before⟩ | ⟨rfl, equal⟩
    · rcases fits.lags detector other source before with ⟨single, declared⟩
      exact ⟨single, ((same detector bound (.lagged source)).2 .delayed).mpr declared⟩
    · rcases Prod.mk.inj equal with ⟨rfl, isLag⟩
      exact lagged source isLag.symm

end Registry

namespace Graph

/-! ## The invariant -/

/-- The parts of a graph belong to each other. -/
structure Coherent (graph : Graph α σ) : Prop where
  registry : graph.registry.Sound
  fits : graph.registry.Fits graph.shapes
  order : graph.isSealed = true → VisitOrder.compute graph.registry = .ok graph.order
  unarmed : graph.isSealed = false → graph.armed = []

theorem Coherent.isWalk {graph : Graph α σ} (coherent : graph.Coherent)
    (closed : graph.isSealed = true) : graph.registry.IsWalk graph.order.walk :=
  VisitOrder.compute_isWalk coherent.registry (coherent.order closed)

theorem coherent_ofConfig (config : Config) : (ofConfig config : Graph α σ).Coherent where
  registry := Registry.sound_empty
  fits :=
    { count := rfl
      tables := fun _ _ _ found => (Option.some_ne_none _ found.symm).elim
      lags := fun _ _ _ found => (Option.some_ne_none _ found.symm).elim }
  order := fun closed => (Bool.false_ne_true closed).elim
  unarmed := fun _ => rfl

theorem armed?_of_unarmed {slot : Slot α σ}
    (unarmed : ∀ lag, slot.resident = .lag lag → lag.armed = none) : slot.armed? = none := by
  cases holds : slot.lag? with
  | none => rw [Slot.armed?, holds, Option.bind_none]
  | some lag =>
      rw [Slot.armed?, holds, Option.bind_some, unarmed lag (Slot.resident_of_lag? holds),
        Option.map_none]

theorem armed_append (graph : Graph α σ) {slot : Slot α σ} (idle : slot.armed? = none) :
    Live.armed { graph.toLive with slots := graph.slots ++ [slot] } = graph.armed := by
  rw [Live.armed, Live.armed, List.filterMap_append, List.filterMap_cons_none idle,
    List.filterMap_nil, List.append_nil]

/-- What the registry of an open graph has become when one more detector has
been wired: nothing has changed for the detectors with a slot. -/
structure Wired (graph : Graph α σ) (registry : Registry) (table : List Payload) : Prop where
  opened : graph.isSealed = false
  sound : registry.Sound
  sealing : registry.sealed = false
  count : registry.detectors.length = graph.shapes.length + 1
  agree : ∀ other, other < graph.shapes.length → Registry.Agree other graph.registry registry
  tabled : Wiring.Tabled registry graph.shapes.length table

theorem Coherent.wired {graph : Graph α σ} (coherent : graph.Coherent) {name : String}
    {detector : DetectorId} {entered : Registry}
    (added : graph.registry.addDetector name = .ok (detector, entered)) (wiring : Wiring) :
    detector = graph.shapes.length ∧ entered.Sound ∧ detector < entered.detectors.length ∧
      graph.Wired (wiring.run detector entered []).registry
        (wiring.run detector entered []).subscriptions := by
  rcases coherent.registry.addDetector added with
    ⟨sound, opened, enteredOpened, place, count, blank, others⟩
  have known : detector < entered.detectors.length := by
    rw [count]
    exact Nat.lt_succ_self _
  have slots : detector = graph.shapes.length := by
    rw [coherent.fits.count, place]
  rcases wiring.run_leaves sound known blank with ⟨afterSound, gained, tabled⟩
  refine ⟨slots, sound, known, opened, afterSound, ?_, ?_, ?_, ?_⟩
  · rw [gained.closing, enteredOpened]
  · rw [gained.detectors, count, slots]
  · intro other bound
    rw [← slots] at bound
    exact (others other).trans (gained.agree (Nat.ne_of_lt bound))
  · rw [← slots]
    exact tabled

theorem Coherent.takenBack {graph : Graph α σ} (coherent : graph.Coherent) {registry : Registry}
    {table : List Payload} (wired : graph.Wired registry table) :
    ({ graph with registry := registry.takeBack graph.shapes.length } : Graph α σ).Coherent where
  registry := wired.sound.takeBack wired.count
  fits := by
    apply coherent.fits.agree
    · rw [Registry.takeBack, if_pos wired.count.symm, List.length_dropLast, wired.count]
      rfl
    · intro other bound
      exact (wired.agree other bound).trans (Registry.agree_takeBack (Nat.ne_of_lt bound) _)
  order := fun closed => absurd (wired.sealing.symm.trans closed) Bool.false_ne_true
  unarmed := fun _ => coherent.unarmed wired.opened

theorem Coherent.joined {graph : Graph α σ} (coherent : graph.Coherent) {registry : Registry}
    {slot : Slot α σ} (wired : graph.Wired registry slot.subscriptions)
    (idle : slot.armed? = none)
    (lagged : ∀ lag, slot.resident = .lag lag → slot.subscriptions = [lag.source] ∧
      registry.isDeclared graph.shapes.length (.lagged lag.source) .delayed = true) :
    ({ graph with registry, slots := graph.slots ++ [slot] } : Graph α σ).Coherent where
  registry := wired.sound
  fits := by
    have shapes : Live.shapes { graph.toLive with slots := graph.slots ++ [slot] } =
        graph.shapes ++ [slot.control.shape] := by
      rw [Live.shapes, Live.shapes, Live.controls, Live.controls, List.map_append, List.map_append]
      rfl
    have fitting : registry.Fits (graph.shapes ++ [slot.control.shape]) := by
      apply coherent.fits.append wired.count wired.agree wired.tabled
      intro source isLag
      rcases Option.map_eq_some_iff.mp isLag with ⟨lag, holds, rfl⟩
      exact lagged lag (Slot.resident_of_lag? holds)
    rw [← shapes] at fitting
    exact fitting
  order := fun closed => absurd (wired.sealing.symm.trans closed) Bool.false_ne_true
  unarmed := fun _ => (graph.armed_append idle).trans (coherent.unarmed wired.opened)

/-- Whether or not its wiring succeeds, a new detector leaves the graph
coherent. -/
theorem Coherent.install {graph : Graph α σ} (coherent : graph.Coherent) (typeName : String)
    (wiring : DetectorId → Wiring) (resident : Resident α σ)
    (unarmed : ∀ lag, resident = .lag lag → lag.armed = none)
    (lagged : ∀ lag, resident = .lag lag → ∀ detector, wiring detector = Lag.wiring lag.source) :
    (graph.install typeName wiring resident).1.Coherent := by
  rw [Graph.install]
  cases added : graph.registry.addDetector (shortName typeName) with
  | error error => exact coherent
  | ok entered =>
      rcases entered with ⟨detector, entered⟩
      rcases coherent.wired added (wiring detector) with ⟨rfl, sound, known, wired⟩
      dsimp only
      cases result : ((wiring graph.shapes.length).run graph.shapes.length entered []).result with
      | error error => exact coherent.takenBack wired
      | ok =>
          apply coherent.joined wired (armed?_of_unarmed unarmed)
          intro lag isLag
          have same := lagged lag isLag graph.shapes.length
          rw [same] at result
          have ok := Lag.wiring_ok sound known result
          rw [← same] at ok
          exact ok

theorem Coherent.resolve {graph : Graph α σ} (coherent : graph.Coherent) (topic : Payload) :
    (graph.resolve topic).1.Coherent := by
  rw [Graph.resolve]
  rcases graph.registry.ensureTopic_frame topic with ⟨detectors, sealing⟩
  refine ⟨coherent.registry.ensureTopic topic, ?_, ?_, ?_⟩
  · apply coherent.fits.agree
    · rw [coherent.fits.count, ← detectors]
    · intro detector _ other
      rcases graph.registry.edges_ensureTopic topic other with ⟨subscribers, publishers⟩
      refine ⟨by rw [subscribers], fun timing => ?_⟩
      rw [Registry.isDeclared_iff, Registry.isDeclared_iff, publishers]
  · intro closed
    have before : graph.isSealed = true := sealing.symm.trans closed
    dsimp only
    rw [Registry.ensureTopic_sealed before]
    exact coherent.order before
  · intro opened
    exact coherent.unarmed (sealing.symm.trans opened)

theorem Coherent.close {graph closed : Graph α σ} (coherent : graph.Coherent)
    (ok : graph.close = .ok closed) : closed.Coherent := by
  cases before : graph.isSealed with
  | true =>
      rw [close_sealed before] at ok
      cases ok
      exact coherent
  | false =>
      rcases close_open before ok with ⟨order, computed, rfl⟩
      exact
        { registry := ⟨coherent.registry.distinct, coherent.registry.entries⟩
          fits := ⟨coherent.fits.count,
            fun detector table source? found =>
              ⟨(coherent.fits.tables detector table source? found).nodup,
                (coherent.fits.tables detector table source? found).agrees⟩,
            coherent.fits.lags⟩
          order := fun _ => computed
          unarmed := fun opened => absurd opened.symm Bool.false_ne_true }

theorem Coherent.serve {graph : Graph α σ} (coherent : graph.Coherent) (service : Service α) :
    ({ graph with toService := service } : Graph α σ).Coherent :=
  ⟨coherent.registry, coherent.fits, coherent.order, coherent.unarmed⟩

/-- The slots and topics of a sealed graph are free to change as well, as
long as the slots keep their shapes. -/
theorem Coherent.sealed {graph after : Graph α σ} (coherent : graph.Coherent)
    (closed : graph.isSealed = true) (registry : after.registry = graph.registry)
    (order : after.order = graph.order) (shapes : after.shapes = graph.shapes) :
    after.Coherent where
  registry := by
    rw [registry]
    exact coherent.registry
  fits := by
    rw [registry, shapes]
    exact coherent.fits
  order := by
    intro _
    rw [registry, order]
    exact coherent.order closed
  unarmed := by
    intro opened
    rw [isSealed, registry] at opened
    exact absurd (opened.symm.trans closed) Bool.false_ne_true

theorem shapes_nextPass (graph : Graph α σ) : graph.nextPass.state.shapes = graph.shapes := by
  have kept : Outcome.Follows Live.Kept graph.poised.prepare graph.nextPass :=
    Live.pass_kept _ _ _ _
  rw [kept.shapes, Live.shapes_prepare]
  rfl

theorem Coherent.stepSealed {graph : Graph α σ} (coherent : graph.Coherent)
    (closed : graph.isSealed = true) : graph.stepSealed.state.Coherent := by
  rcases graph.stepSealed_cases with ⟨_, _, idle⟩ | ⟨_, _, _, givenUp⟩ | ⟨_, passes⟩
  · rw [idle]
    exact coherent
  · rw [givenUp]
    exact coherent.sealed closed rfl rfl (Live.shapes_disarm rfl)
  · rw [passes]
    exact coherent.sealed closed rfl rfl graph.shapes_nextPass

theorem Coherent.step {graph : Graph α σ} (coherent : graph.Coherent) :
    graph.step.state.Coherent := by
  rw [Graph.step]
  cases answer : graph.close with
  | error error => exact coherent
  | ok closed => exact (coherent.close answer).stepSealed (isSealed_close answer)

/-- No operation makes a graph incoherent, even if it fails. -/
theorem Coherent.perform (operation : Operation α σ) {graph : Graph α σ}
    (coherent : graph.Coherent) : (Graph.perform operation graph).state.Coherent := by
  cases operation with
  | add detector =>
      refine coherent.install detector.typeName detector.wiring _ ?_ ?_
      · intro _ isLag
        cases isLag
      · intro _ isLag
        cases isLag
  | addLag source =>
      refine coherent.install source.lagName (fun _ => Lag.wiring source) _ ?_ ?_
      · intro lag isLag
        cases isLag
        rfl
      · intro lag isLag _
        cases isLag
        rfl
  | resolve topic => exact coherent.resolve topic
  | close =>
      rw [Graph.perform]
      split
      next closed answer => exact coherent.close answer
      next => exact coherent
  | push input =>
      rw [Graph.perform, Outcome.regardless, Graph.push]
      split
      · exact coherent.serve _
      · exact coherent
  | submit input => exact coherent.serve _
  | fire now => exact coherent.serve _
  | schedule input delay => exact coherent.serve _
  | scheduleEvery input period => exact coherent.serve _
  | cancel handle => exact coherent.serve _
  | step => exact coherent.step

theorem Reachable.coherent {graph : Graph α σ} (reachable : graph.Reachable) : graph.Coherent :=
  reachable.invariant coherent_ofConfig fun operation _ coherent => coherent.perform operation

/-- When a step has run a pass, every detector is booked, and the step has
made exactly the calls that the board asks for. -/
theorem Coherent.step_settles {graph : Graph α σ} (coherent : graph.Coherent)
    (ran : graph.step.result = .ok true) :
    Live.Midway graph.step.state.registry graph.step.state.order.walk graph.step.state.toLive ∧
      graph.step.events.filter Event.isCall =
        graph.step.state.order.walk.flatMap
          (graph.step.state.registry.due graph.step.state.board) := by
  rcases step_true ran with ⟨closed, answer, ok, state, events⟩
  have closedCoherent := coherent.close answer
  have fits : closed.registry.Fits closed.poised.shapes := closedCoherent.fits
  rcases Live.pass_settles closedCoherent.registry
    (closedCoherent.isWalk (isSealed_close answer)) fits ok with ⟨midway, calls⟩
  rw [state, events, List.filter_append, Log.calls_map .consumed fun _ => rfl]
  exact ⟨⟨midway.fits, midway.settled, midway.booked⟩, calls⟩

end Graph
end ReactiveGraph
