import ReactiveGraph.Proofs.Coherence
import ReactiveGraph.Proofs.Publishing

namespace ReactiveGraph

/-!
# What a detector may delay

A detector declares one thing when it is going to publish a topic later, and
another when it is going to schedule timeouts for it, but the registry keeps
the same edge of both, and that edge is all that is looked at when the
detector runs.  So either declaration is good for both.  Without one of them
nothing is delayed, and the first attempt to schedule something makes the pass
fail.
-/

variable {α σ : Type}

namespace Registry

/-- An edge shows as a publication if it is one, and nothing else does. -/
theorem isDeclared_addEdge {registry after : Registry}
    (distinct : (registry.topics.map TopicRecord.payload).Nodup)
    {detector : DetectorId} {topic : Payload} {request : EdgeRequest} {id : TopicId}
    (taken : registry.addEdge detector topic request = (after, .ok id)) (other : Payload)
    (timing : Timing) :
    after.isDeclared detector other timing = true ↔
      registry.isDeclared detector other timing = true ∨
        other = topic ∧ request = .publisher timing := by
  rcases edges_addEdge distinct taken with ⟨entry, _, _, published, record, elsewhere⟩
  rw [isDeclared_iff, isDeclared_iff]
  by_cases same : other = topic
  · subst same
    have here : after.publishers other = (withEdge entry detector request).publishers := by
      rw [publishers, record]
      rfl
    rw [here, ← published]
    cases request with
    | publisher declared => simp [withEdge, eq_comm]
    | subscriber => simp [withEdge]
  · rw [(elsewhere other same).2]
    simp [same]

end Registry

namespace Wiring

def accepted (detector : DetectorId) : Wiring → Registry → List (Capability × Payload)
  | finish _, _ => []
  | declare capability topic next, registry =>
      match registry.addEdge detector topic capability.request with
      | (registry, .error error) => accepted detector (next (.error error)) registry
      | (registry, .ok _) => (capability, topic) :: accepted detector (next (.ok ())) registry

/-- The declarations say that the detector publishes the topic in this way. -/
def Grants (declarations : List (Capability × Payload)) (topic : Payload) (timing : Timing) :
    Prop :=
  ∃ capability, (capability, topic) ∈ declarations ∧ capability.request = .publisher timing

theorem grants_cons {capability : Capability} {topic other : Payload} {timing : Timing}
    {rest : List (Capability × Payload)} :
    Grants ((capability, topic) :: rest) other timing ↔
      other = topic ∧ capability.request = .publisher timing ∨ Grants rest other timing := by
  simp [Grants]
  grind

/-- What the registry has of a detector that was wired comes of the accepted
declarations. -/
theorem isDeclared_run (wiring : Wiring) {registry : Registry} (sound : registry.Sound)
    {detector : DetectorId} (known : detector < registry.detectors.length)
    (table : List Payload) (topic : Payload) (timing : Timing) :
    (wiring.run detector registry table).registry.isDeclared detector topic timing = true ↔
      registry.isDeclared detector topic timing = true ∨
        Grants (wiring.accepted detector registry) topic timing := by
  induction wiring generalizing registry table with
  | finish result => simp [run, accepted, Grants]
  | declare capability declared next ih =>
      have afterSound := sound.addEdge known declared capability.request
      have gained := Registry.Gained.addEdge sound.distinct detector declared capability.request
      have afterKnown := known
      rw [← gained.detectors] at afterKnown
      rw [run, accepted]
      cases answer : registry.addEdge detector declared capability.request with
      | mk after result =>
          rw [answer] at afterSound afterKnown
          cases result with
          | error error =>
              have same := (Registry.edges_addEdge_refused sound.distinct answer topic).2
              rw [ih (.error error) afterSound afterKnown, Registry.isDeclared_iff, same,
                ← Registry.isDeclared_iff]
          | ok id =>
              rw [ih (.ok ()) afterSound afterKnown, grants_cons,
                Registry.isDeclared_addEdge sound.distinct answer, or_assoc]

end Wiring

namespace Graph

/-- What the detector that joins the graph has declared, if its wiring
succeeds. -/
def joining (graph : Graph α σ) (typeName : String) (wiring : DetectorId → Wiring) :
    List (DetectorId × Capability × Payload) :=
  match graph.registry.addDetector (shortName typeName) with
  | .error _ => []
  | .ok (id, registry) =>
      match ((wiring id).run id registry []).result with
      | .error _ => []
      | .ok () => ((wiring id).accepted id registry).map (Prod.mk id)

def declaring : Operation α σ → Graph α σ → List (DetectorId × Capability × Payload)
  | .add detector, graph => graph.joining detector.typeName detector.wiring
  | .addLag source, graph => graph.joining source.lagName fun _ => Lag.wiring source
  | _, _ => []

/-- What has been declared in a history, and by whom of those that have joined
the graph. -/
def declarations : List (Operation α σ) → Graph α σ → List (DetectorId × Capability × Payload)
  | [], _ => []
  | operation :: rest, graph =>
      declaring operation graph ++ declarations rest (perform operation graph).state

def Permits (declared : List (DetectorId × Capability × Payload)) (detector : DetectorId)
    (topic : Payload) (timing : Timing) : Prop :=
  ∃ capability, (detector, capability, topic) ∈ declared ∧ capability.request = .publisher timing

theorem permits_append {front back : List (DetectorId × Capability × Payload)}
    {detector : DetectorId} {topic : Payload} {timing : Timing} :
    Permits (front ++ back) detector topic timing ↔
      Permits front detector topic timing ∨ Permits back detector topic timing := by
  simp only [Permits, List.mem_append, or_and_right, exists_or]

theorem permits_own {declared : List (Capability × Payload)} {id detector : DetectorId}
    {topic : Payload} {timing : Timing} :
    Permits (declared.map (Prod.mk id)) detector topic timing ↔
      detector = id ∧ Wiring.Grants declared topic timing := by
  simp only [Permits, Wiring.Grants, List.mem_map, Prod.mk.injEq]
  grind

theorem not_permits_nil (detector : DetectorId) (topic : Payload) (timing : Timing) :
    ¬Permits [] detector topic timing := by
  rintro ⟨_, member, _⟩
  cases member

theorem Coherent.declared_install {graph : Graph α σ} (coherent : graph.Coherent)
    (typeName : String) (wiring : DetectorId → Wiring) (resident : Resident α σ)
    (detector : DetectorId) (topic : Payload) (timing : Timing) :
    (graph.install typeName wiring resident).1.registry.isDeclared detector topic timing = true ↔
      graph.registry.isDeclared detector topic timing = true ∨
        Permits (graph.joining typeName wiring) detector topic timing := by
  rw [Graph.install, joining]
  cases added : graph.registry.addDetector (shortName typeName) with
  | error error => exact (or_iff_left (not_permits_nil _ _ _)).symm
  | ok entered =>
      rcases entered with ⟨id, entered⟩
      rcases coherent.registry.addDetector added with
        ⟨sound, _, _, place, count, blank, entering⟩
      have known : id < entered.detectors.length := by
        rw [count]
        exact Nat.lt_succ_self id
      rcases (wiring id).run_leaves sound known blank with ⟨_, gained, _⟩
      have own := (wiring id).isDeclared_run sound known [] topic timing
      dsimp only
      generalize (wiring id).run id entered [] = report at gained own ⊢
      have others : detector ≠ id → (report.registry.isDeclared detector topic timing = true ↔
          graph.registry.isDeclared detector topic timing = true) := fun different =>
        ((gained.agree different topic).2 timing).trans ((entering detector topic).2 timing)
      cases report.result with
      | error error =>
          dsimp only
          rw [or_iff_left (not_permits_nil _ _ _)]
          by_cases same : detector = id
          · subst same
            have gone : ¬(report.registry.takeBack detector).isDeclared detector topic timing := by
              rw [Registry.isDeclared_iff, Registry.publishers_takeBack]
              simp
            have unknown : ¬graph.registry.isDeclared detector topic timing := by
              rw [Registry.isDeclared_iff]
              intro publishes
              exact absurd (coherent.registry.publisher_known publishes) (by simp [place])
            exact iff_of_false gone unknown
          · exact ((Registry.agree_takeBack same _ topic).2 timing).trans (others same)
      | ok =>
          dsimp only
          rw [permits_own]
          by_cases same : detector = id
          · subst same
            rw [own, (entering detector topic).2 timing]
            simp
          · rw [others same]
            simp [same]

theorem Coherent.declared_perform {graph : Graph α σ} (coherent : graph.Coherent)
    (operation : Operation α σ) (detector : DetectorId) (topic : Payload) (timing : Timing) :
    (Graph.perform operation graph).state.registry.isDeclared detector topic timing = true ↔
      graph.registry.isDeclared detector topic timing = true ∨
        Permits (declaring operation graph) detector topic timing := by
  have same : ∀ {after : Registry}, (∀ other, after.publishers other =
      graph.registry.publishers other) → (after.isDeclared detector topic timing = true ↔
        graph.registry.isDeclared detector topic timing = true ∨
          Permits [] detector topic timing) := by
    intro after kept
    rw [or_iff_left (not_permits_nil _ _ _), Registry.isDeclared_iff, Registry.isDeclared_iff,
      kept]
  cases operation with
  | add joins => exact coherent.declared_install _ _ _ detector topic timing
  | addLag source => exact coherent.declared_install _ _ _ detector topic timing
  | resolve other =>
      exact same fun topic => (graph.registry.edges_ensureTopic other topic).2
  | close =>
      apply same
      intro other
      rw [Graph.perform]
      split
      next closed answer =>
        rw [Outcome.done, registry_close answer]
        rfl
      next => rfl
  | step =>
      apply same
      intro other
      rw [Graph.perform, Outcome.regardless]
      rcases graph.registry_step with kept | closed
      · rw [kept]
      · rw [closed]
        rfl
  | push input =>
      apply same
      intro other
      rw [Graph.perform, Outcome.regardless, Graph.push]
      split <;> rfl
  | submit input => exact same fun _ => rfl
  | fire now => exact same fun _ => rfl
  | schedule input delay => exact same fun _ => rfl
  | scheduleEvery input period => exact same fun _ => rfl
  | cancel handle => exact same fun _ => rfl

/-- What the registry of a graph says of the publications of its detectors is
what they have declared. -/
theorem Coherent.declared_run {graph : Graph α σ} (coherent : graph.Coherent)
    (operations : List (Operation α σ)) (detector : DetectorId) (topic : Payload)
    (timing : Timing) :
    (Graph.run operations graph).state.registry.isDeclared detector topic timing = true ↔
      graph.registry.isDeclared detector topic timing = true ∨
        Permits (declarations operations graph) detector topic timing := by
  induction operations generalizing graph with
  | nil => exact (or_iff_left (not_permits_nil _ _ _)).symm
  | cons operation rest ih =>
      rw [run_cons, declarations, permits_append, ← or_assoc,
        ← coherent.declared_perform operation]
      exact ih (coherent.perform operation)

end Graph

/-! ## What a running detector schedules -/

/-- The detector that asked for a timeout, with the topic, and the handle if
it was given one. -/
def Event.asked? : Event α → Option (DetectorId × Payload × Option Handle)
  | scheduled detector topic handle => some (detector, topic, handle)
  | _ => none

/-- The requests for timeouts that were refused, each with the detector and the
topic. -/
def Log.refusals (log : List (Event α)) : List (DetectorId × Payload) :=
  (log.filterMap Event.asked?).filterMap fun asked =>
    if asked.2.2.isNone then some (asked.1, asked.2.1) else none

/-- Whoever has been given a handle may delay the topic, and whoever has not
may not. -/
def Log.BornOut (registry : Registry) (log : List (Event α)) : Prop :=
  ∀ asked ∈ log.filterMap Event.asked?,
    asked.2.2.isSome = registry.isDeclared asked.1 asked.2.1 .delayed

namespace Log

theorem refusals_append (front back : List (Event α)) :
    refusals (front ++ back) = refusals front ++ refusals back := by
  rw [refusals, List.filterMap_append, List.filterMap_append]
  rfl

theorem BornOut.append {registry : Registry} {front back : List (Event α)}
    (before : BornOut registry front) (after : BornOut registry back) :
    BornOut registry (front ++ back) := by
  intro asked member
  rw [List.filterMap_append] at member
  rcases List.mem_append.mp member with inFront | inBack
  · exact before asked inFront
  · exact after asked inBack

theorem bornOut_unasked {log : List (Event α)} (unasked : log.filterMap Event.asked? = [])
    (registry : Registry) : refusals log = [] ∧ BornOut registry log := by
  rw [refusals, BornOut, unasked]
  refine ⟨rfl, ?_⟩
  intro asked member
  cases member

theorem unasked_intake {log : List (Event α)} (intake : ∀ event ∈ log, event.isIntake = true) :
    log.filterMap Event.asked? = [] := by
  apply List.filterMap_eq_nil_iff.mpr
  intro event member
  have taken := intake event member
  cases event <;> first | rfl | cases taken

end Log

/-- What a running detector asks for is granted as the registry says, and its
outbox gains the topics that were refused. -/
structure Asks (registry : Registry) (detector : DetectorId) (before : Surroundings α)
    (log : List (Event α)) (after : Surroundings α) : Prop where
  rejected : after.outbox.rejected.map (Prod.mk detector) =
    before.outbox.rejected.map (Prod.mk detector) ++ Log.refusals log
  bornOut : Log.BornOut registry log

namespace Asks

variable {registry : Registry} {detector : DetectorId}

theorem append {first middle last : Surroundings α} {front back : List (Event α)}
    (before : Asks registry detector first front middle)
    (after : Asks registry detector middle back last) :
    Asks registry detector first (front ++ back) last where
  rejected := by
    rw [after.rejected, before.rejected, Log.refusals_append, List.append_assoc]
  bornOut := before.bornOut.append after.bornOut

theorem aside {before : Surroundings α} (after : Surroundings α) {log : List (Event α)}
    (rejected : after.outbox.rejected = before.outbox.rejected)
    (unasked : log.filterMap Event.asked? = []) : Asks registry detector before log after := by
  rcases Log.bornOut_unasked unasked registry with ⟨none, bornOut⟩
  exact ⟨by rw [none, rejected, List.append_nil], bornOut⟩

theorem schedule (around : Surroundings α) (topic : Payload)
    (enter : Timetable α → Handle × Timetable α) :
    Asks registry detector around
      [.scheduled detector topic (around.schedule registry detector topic enter).1]
      (around.schedule registry detector topic enter).2 := by
  rw [Surroundings.schedule]
  split
  next declared => exact ⟨(List.append_nil _).symm, by simp [Log.BornOut, Event.asked?, declared]⟩
  next undeclared =>
    exact ⟨by simp [Log.refusals, Event.asked?], by simp [Log.BornOut, Event.asked?, undeclared]⟩

end Asks

theorem Routine.run_asks {β : Type} (registry : Registry) (detector : DetectorId)
    (routine : Routine α β) (around : Surroundings α) :
    Asks registry detector around (routine.run registry detector around).events
      (routine.run registry detector around).around := by
  induction routine generalizing around with
  | done result => exact .aside _ rfl rfl
  | publish topic value next ih =>
      exact .append (.aside (around.publish ⟨topic, value⟩) rfl rfl) (ih _)
  | publishLater topic value next ih =>
      exact .append (.aside (around.publishLater ⟨topic, value⟩) rfl rfl) (ih _)
  | schedule topic value delay next ih => exact .append (.schedule around topic _) (ih _ _)
  | scheduleEvery topic value period next ih => exact .append (.schedule around topic _) (ih _ _)
  | cancel handle next ih =>
      exact .append (.aside { around with timers := (around.timers.cancel handle).2 } rfl rfl)
        (ih _ _)
  | fire now next ih =>
      have unasked := Log.unasked_intake (Service.fire_intake around.toService now)
      refine .append (.aside (around.fire now).state rfl ?_) (ih _ _)
      rw [List.filterMap_append]
      exact List.append_eq_nil_iff.mpr ⟨unasked, rfl⟩
  | submit topic value next ih =>
      have unasked := Log.unasked_intake (Service.submit_intake around.toService ⟨topic, value⟩)
      refine .append (.aside (around.submit ⟨topic, value⟩).state rfl ?_) (ih _ _)
      rw [List.filterMap_append]
      exact List.append_eq_nil_iff.mpr ⟨unasked, rfl⟩
  | look next ih => exact .append (.aside around rfl rfl) (ih _ _)

namespace Live

/-- Whoever asks for a timeout is answered as the registry says, and the first
refusal is what the activity fails for. -/
structure Heeds (registry : Registry) (outcome : Outcome α (Live α σ) Unit) : Prop where
  bornOut : Log.BornOut registry outcome.events
  unrefused : outcome.result = .ok () →
    Log.refusals outcome.events = [] ∧ outcome.state.outbox = {}
  first : ∀ detector topic rest, Log.refusals outcome.events = (detector, topic) :: rest →
    outcome.result = .error (undeclared registry detector topic)

theorem heeds_done (registry : Registry) {live : Live α σ} (empty : live.outbox = {}) :
    Heeds registry (.done live ()) where
  bornOut := (Log.bornOut_unasked rfl registry).2
  unrefused _ := ⟨rfl, empty⟩
  first _ _ _ refused := nomatch refused

theorem Heeds.andThen {registry : Registry} {first : Outcome α (Live α σ) Unit}
    {next : Unit → Live α σ → Outcome α (Live α σ) Unit} (before : Heeds registry first)
    (after : first.state.outbox = {} → Heeds registry (next () first.state)) :
    Heeds registry (first.andThen next) := by
  cases result : first.result with
  | error error =>
      rw [Outcome.andThen_error result]
      exact before
  | ok value =>
      rcases before.unrefused result with ⟨none, empty⟩
      have later := after empty
      have both : first.andThen next = (next () first.state).behind first.events := by
        rw [Outcome.andThen, result]
      have refusals : Log.refusals (first.events ++ (next () first.state).events) =
          Log.refusals (next () first.state).events := by
        rw [Log.refusals_append, none, List.nil_append]
      rw [both]
      exact ⟨before.bornOut.append later.bornOut,
        fun ok => ⟨refusals.trans (later.unrefused ok).1, (later.unrefused ok).2⟩,
        fun detector topic rest refused =>
          later.first detector topic rest (refusals.symm.trans refused)⟩

/-- What is logged first does not matter if nothing is asked for. -/
theorem Heeds.behind {registry : Registry} {outcome : Outcome α (Live α σ) Unit}
    (heeds : Heeds registry outcome) {log : List (Event α)}
    (unasked : log.filterMap Event.asked? = []) : Heeds registry (outcome.behind log) := by
  rcases Log.bornOut_unasked unasked registry with ⟨none, bornOut⟩
  have refusals : Log.refusals (log ++ outcome.events) = Log.refusals outcome.events := by
    rw [Log.refusals_append, none, List.nil_append]
  exact ⟨bornOut.append heeds.bornOut,
    fun ok => ⟨refusals.trans (heeds.unrefused ok).1, (heeds.unrefused ok).2⟩,
    fun detector topic rest refused =>
      heeds.first detector topic rest (refusals.symm.trans refused)⟩

def Unasked {S : Type} (_ : S) (log : List (Event α)) (_ : S) : Prop :=
  log.filterMap Event.asked? = []

theorem composes_unasked {S : Type} : Outcome.Composes (Unasked (α := α) (S := S)) where
  stay _ := rfl
  append before after :=
    List.filterMap_append.trans (List.append_eq_nil_iff.mpr ⟨before, after⟩)

theorem emptyOutbox_unasked (registry : Registry) (detector : DetectorId) (live : Live α σ) :
    (emptyOutbox registry detector live).events.filterMap Event.asked? = [] := by
  have now : ∀ (input : Input α) (before : Live α σ),
      Outcome.Follows Unasked before (publish registry detector input before) := by
    intro input before
    rw [publish, receive]
    split
    · split <;> rfl
    · rfl
  have later : ∀ (input : Input α) (before : Live α σ),
      Outcome.Follows Unasked before (publishLater registry detector input before) := by
    intro input before
    rw [publishLater]
    split
    · exact Log.unasked_intake (Service.submit_intake before.toService input)
    · rfl
  have whole : Outcome.Follows Unasked live (emptyOutbox registry detector live) := by
    rw [emptyOutbox]
    cases live.outbox.rejected with
    | cons topic rest => rfl
    | nil =>
        apply composes_unasked.andThen (composes_unasked.each (fun input _ => now input) _)
        intro _ _
        exact composes_unasked.each (fun input _ => later input) _
  exact whole

theorem call_heeds (registry : Registry) (detector : DetectorId) (slot : Slot α σ)
    (routine : Routine α (Resident α σ)) {live : Live α σ} (empty : live.outbox = {}) :
    Heeds registry (call registry detector slot routine live) := by
  have asks := routine.run_asks registry detector live.toSurroundings
  rw [call]
  generalize routine.run registry detector live.toSurroundings = report at asks ⊢
  have rejected := asks.rejected
  rw [empty, List.map_nil, List.nil_append] at rejected
  have unasked := emptyOutbox_unasked registry detector (live.called detector slot report)
  rcases Log.bornOut_unasked unasked registry with ⟨none, bornOut⟩
  have refusals : Log.refusals (report.events ++
      (emptyOutbox registry detector (live.called detector slot report)).events) =
        report.around.outbox.rejected.map (Prod.mk detector) := by
    rw [Log.refusals_append, none, List.append_nil, rejected]
  have reported : ∀ topic rest, report.around.outbox.rejected = topic :: rest →
      (emptyOutbox registry detector (live.called detector slot report)).result =
        .error (undeclared registry detector topic) := by
    intro topic rest refused
    have refused : (live.called detector slot report).outbox.rejected = topic :: rest := refused
    rw [emptyOutbox, refused]
    rfl
  refine ⟨asks.bornOut.append bornOut, ?_, ?_⟩
  · intro ok
    refine ⟨refusals.trans ?_, (emptyOutbox_published registry detector _).2 ok⟩
    cases refused : report.around.outbox.rejected with
    | nil => rfl
    | cons topic rest => cases (reported topic rest refused).symm.trans ok
  · intro other topic rest refused
    rcases List.map_eq_cons_iff.mp (refusals.symm.trans refused) with
      ⟨first, others, present, same, _⟩
    cases same
    exact reported topic others present

theorem coversWalk_heeds (registry : Registry) :
    CoversWalk registry (Heeds (α := α) (σ := σ) registry) where
  done := heeds_done registry
  andThen := Heeds.andThen
  call := by
    intro event isCall detector slot routine live empty
    refine (call_heeds registry detector slot routine empty).behind ?_
    cases event <;> first | rfl | cases isCall

theorem pass_heeds {registry : Registry} (order : VisitOrder) (input : Option (Input α))
    {live : Live α σ} (fits : registry.Fits live.shapes) :
    Heeds registry (pass registry order input live) := by
  have unasked : ∀ inputs : List (Input α),
      (inputs.map fun given => Event.wrote given.topic given.value).filterMap Event.asked? =
        [] := by
    intro inputs
    rw [List.filterMap_map]
    exact List.filterMap_eq_nil_iff.mpr fun _ _ => rfl
  rcases pass_cases order input fits with ⟨given, rfl, _, same⟩ | ⟨_, same⟩
  · rw [same]
    rcases Log.bornOut_unasked (unasked live.armed) registry with ⟨none, bornOut⟩
    exact ⟨bornOut, fun ok => (nomatch ok), fun _ _ _ refused => nomatch none.symm.trans refused⟩
  · rw [same]
    exact ((coversWalk_heeds registry).walk order.walk rfl).behind (unasked _)

end Live

namespace Graph

theorem Coherent.step_heeds {graph : Graph α σ} (coherent : graph.Coherent) :
    Log.BornOut graph.registry graph.step.events ∧
      ∀ detector topic rest, Log.refusals graph.step.events = (detector, topic) :: rest →
        graph.step.result = .error (Live.undeclared graph.registry detector topic) := by
  by_cases still : graph.step.state.passCount = graph.passCount
  · have unasked : ([] : List (Event α)).filterMap Event.asked? = [] := rfl
    rcases Log.bornOut_unasked unasked graph.registry with ⟨none, bornOut⟩
    rw [(step_still still).1]
    exact ⟨bornOut, fun _ _ _ refused => nomatch none.symm.trans refused⟩
  · rcases step_passed still with ⟨closed, answer, same⟩
    have fits : closed.registry.Fits closed.poised.shapes := (coherent.close answer).fits
    have unasked : (closed.queue.waiting.head?.toList.map Event.consumed).filterMap
        Event.asked? = [] := by
      rw [List.filterMap_map]
      exact List.filterMap_eq_nil_iff.mpr fun _ _ => rfl
    have heeds := (Live.pass_heeds closed.order closed.queue.waiting.head? fits).behind unasked
    -- Closing the registry changes neither its edges nor its names.
    have bornOut : Log.BornOut (α := α) closed.registry = Log.BornOut graph.registry := by
      rw [registry_close answer]
      rfl
    have complaint : Live.undeclared closed.registry = Live.undeclared graph.registry := by
      rw [registry_close answer]
      rfl
    rw [same, ← bornOut, ← complaint]
    refine ⟨heeds.bornOut, ?_⟩
    intro detector topic rest refused
    have failed : closed.nextPass.result =
        .error (Live.undeclared closed.registry detector topic) :=
      heeds.first detector topic rest refused
    rw [failed]
    rfl

/-! ## All delays -/

/-- The detector has declared that it publishes the topic later, or that it
schedules timeouts for it. -/
def MayDelay (declared : List (DetectorId × Capability × Payload)) (detector : DetectorId)
    (topic : Payload) : Prop :=
  (detector, .publishLater, topic) ∈ declared ∨ (detector, .schedule, topic) ∈ declared

theorem permits_delayed {declared : List (DetectorId × Capability × Payload)}
    {detector : DetectorId} {topic : Payload} :
    Permits declared detector topic .delayed ↔ MayDelay declared detector topic := by
  constructor
  · rintro ⟨capability, member, request⟩
    cases capability with
    | subscribe => cases request
    | publish => cases request
    | publishLater => exact Or.inl member
    | schedule => exact Or.inr member
  · rintro (member | member)
    · exact ⟨.publishLater, member, rfl⟩
    · exact ⟨.schedule, member, rfl⟩

/-- A way to enter the value into a timetable, once or periodically. -/
inductive Enters (input : Input α) : (Timetable α → Handle × Timetable α) → Prop where
  | once (delay : Time) : Enters input fun timers => timers.schedule input delay
  | periodically (period : Time) : Enters input fun timers => timers.scheduleEvery input period

theorem Enters.inserts {input : Input α} {enter : Timetable α → Handle × Timetable α}
    (enters : Enters input enter) (timers : Timetable α) :
    ∃ timer : Timer α, timer.input = input ∧ enter timers =
      (timer.handle, { timers with
        nextHandle := timers.nextHandle + 1
        timers := timers.timers ++ [timer] }) := by
  cases enters with
  | once delay => exact ⟨⟨timers.nextHandle, _, _, input⟩, rfl, rfl⟩
  | periodically period => exact ⟨⟨timers.nextHandle, _, _, input⟩, rfl, rfl⟩

/-- What the detectors of a graph may delay, given what they have declared.
Either declaration lets a detector schedule a value, which takes one timer,
and publish one later.  Without any, there is no handle and no timer, nothing
is queued, and the first request that is refused makes the pass fail. -/
structure Delays (declared : List (DetectorId × Capability × Payload)) (graph : Graph α σ) :
    Prop where
  scheduled : ∀ detector topic, MayDelay declared detector topic → ∀ value enter,
    Enters ⟨topic, value⟩ enter → ∀ around : Surroundings α, ∃ timer : Timer α,
      timer.input = ⟨topic, value⟩ ∧
        around.schedule graph.registry detector topic enter =
          (some timer.handle, { around with
            timers := { around.timers with
              nextHandle := around.timers.nextHandle + 1
              timers := around.timers.timers ++ [timer] } })
  refused : ∀ detector topic, ¬MayDelay declared detector topic → ∀ enter,
    ∀ around : Surroundings α,
      around.schedule graph.registry detector topic enter =
        (none, { around with
          outbox := { around.outbox with rejected := around.outbox.rejected ++ [topic] } })
  postponed : ∀ detector input, MayDelay declared detector input.topic → ∀ live : Live α σ,
    Live.publishLater graph.registry detector input live =
      (live.toService.submit input).within fun service => { live with toService := service }
  unpostponed : ∀ detector input, ¬MayDelay declared detector input.topic → ∀ live : Live α σ,
    Live.publishLater graph.registry detector input live =
      .fail live (.undeclaredPublish (graph.registry.detectorName detector) input.topic.name)
  answered : ∀ detector topic handle, .scheduled detector topic handle ∈ graph.step.events →
    (handle.isSome = true ↔ MayDelay declared detector topic)
  reported : ∀ detector topic rest, Log.refusals graph.step.events = (detector, topic) :: rest →
    graph.step.result =
      .error (.undeclaredPublish (graph.registry.detectorName detector) topic.name)

theorem either_declaration_delays (config : Config) (operations : List (Operation α σ)) :
    Delays (declarations operations (ofConfig config))
      (run operations (ofConfig config)).state := by
  have coherent : (run operations (ofConfig config)).state.Coherent :=
    Reachable.coherent ⟨config, operations, rfl⟩
  have decided : ∀ detector topic,
      (run operations (ofConfig config)).state.registry.isDeclared detector topic .delayed = true ↔
        MayDelay (declarations operations (ofConfig config)) detector topic := by
    intro detector topic
    rw [(coherent_ofConfig config).declared_run operations, permits_delayed]
    exact or_iff_right Bool.false_ne_true
  generalize (run operations (ofConfig config)).state = graph at coherent decided ⊢
  constructor
  case scheduled =>
    intro detector topic allowed value enter enters around
    rcases enters.inserts around.timers with ⟨timer, holds, entered⟩
    refine ⟨timer, holds, ?_⟩
    rw [Surroundings.schedule, if_pos ((decided detector topic).mpr allowed), entered]
  case refused =>
    intro detector topic forbidden enter around
    rw [Surroundings.schedule, if_neg (mt (decided detector topic).mp forbidden)]
  case postponed =>
    intro detector input allowed live
    rw [Live.publishLater, if_pos ((decided detector input.topic).mpr allowed)]
  case unpostponed =>
    intro detector input forbidden live
    rw [Live.publishLater, if_neg (mt (decided detector input.topic).mp forbidden)]
    rfl
  case answered =>
    intro detector topic handle asked
    have bornOut := coherent.step_heeds.1 (detector, topic, handle)
      (List.mem_filterMap.mpr ⟨_, asked, rfl⟩)
    rw [bornOut, decided]
  case reported => exact coherent.step_heeds.2

/-- A detector that has declared to publish a topic later and schedules it
instead. -/
def hasty : Detector Nat Unit where
  typeName := "Hasty"
  wiring _ := .ofList [⟨.subscribe, .plain "A", false⟩, ⟨.publishLater, .plain "B", false⟩]
  behaviour :=
    { onValue := fun _ _ value _ => .schedule (.plain "B") value 3 fun _ => .done ()
      onComplete := fun _ _ => .done () }
  state := ()

/-- It is given a handle, there is a timer, and the pass succeeds. -/
theorem hasty_schedules :
    let operations : List (Operation Nat Unit) := [.add hasty, .push ⟨.plain "A", 7⟩]
    let graph := (run operations (ofConfig {})).state
    (0, .schedule, .plain "B") ∉ declarations operations (ofConfig {}) ∧
      graph.step.events.filterMap Event.asked? = [(0, .plain "B", some 0)] ∧
      graph.step.result = .ok true ∧ graph.step.state.timers.size = 1 := by
  decide +kernel

end Graph
end ReactiveGraph
