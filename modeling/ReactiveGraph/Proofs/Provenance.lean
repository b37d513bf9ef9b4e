import ReactiveGraph.Proofs.Failures
import ReactiveGraph.Proofs.Timetable

namespace ReactiveGraph

/-!
# Where inputs come from

An input that is pushed, postponed or scheduled by a detector is checked when
it is accepted, and it may be taken much later.  Between the two, wirings
fail and passes are abandoned, but no topic is ever lost.  So if a step meets
an input without a topic, the input has got into the queue or the timetable
without any check: it was submitted or scheduled from outside, or a detector
has submitted it as it was.
-/

variable {α σ : Type}

/-- A running detector has submitted the input, which was accepted. -/
def Log.Submits (log : List (Event α)) (input : Input α) : Prop :=
  ∃ detector, .submitted detector input (.ok ()) ∈ log

namespace Service

/-- The input waits in the queue or for its due time. -/
def Holds (service : Service α) (input : Input α) : Prop :=
  input ∈ service.queue.waiting ∨ ∃ timer ∈ service.timers.timers, timer.input = input

theorem holds_submit {service : Service α} {given input : Input α}
    (held : (service.submit given).state.Holds input) :
    service.Holds input ∨ input = given ∧ (service.submit given).result = .ok () := by
  rw [submit] at held ⊢
  rcases service.queue.submit_cases given with ⟨_, same⟩ | ⟨limit, _, _, same⟩
  · rw [same] at held ⊢
    rcases held with waits | scheduled
    · rcases List.mem_append.mp waits with before | last
      · exact Or.inl (Or.inl before)
      · exact Or.inr ⟨List.mem_singleton.mp last, rfl⟩
    · exact Or.inl (Or.inr scheduled)
  · rw [same] at held
    exact Or.inl held

theorem holds_insert {service : Service α} {due : Time} {period : Option Time}
    {given input : Input α}
    (held : ({ service with timers := (service.timers.insert due period given).2 } :
      Service α).Holds input) :
    service.Holds input ∨ input = given := by
  rcases held with waits | ⟨timer, member, rfl⟩
  · exact Or.inl (Or.inl waits)
  · rcases List.mem_append.mp member with before | last
    · exact Or.inl (Or.inr ⟨timer, before, rfl⟩)
    · rw [List.mem_singleton.mp last]
      exact Or.inr rfl

def Hoards (before : Service α) (_ : List (Event α)) (after : Service α) : Prop :=
  ∀ input, after.Holds input → before.Holds input

theorem composes_hoards : Outcome.Composes (Hoards (α := α)) where
  stay _ _ held := held
  append first second input held := first input (second input held)

/-- A timetable that has lost timers or put them off holds nothing new. -/
theorem hoards_timers {service : Service α} {timers : Timetable α}
    (known : ∀ timer ∈ timers.timers, ∃ old ∈ service.timers.timers, old.input = timer.input) :
    Hoards service [] { service with timers } := by
  rintro input (waits | ⟨timer, member, rfl⟩)
  · exact Or.inl waits
  · exact Or.inr (known timer member)

theorem hoards_remove (service : Service α) (handle : Handle) :
    Hoards service [] { service with timers := service.timers.remove handle } := by
  apply hoards_timers
  intro timer member
  exact ⟨timer, (List.mem_filter.mp member).1, rfl⟩

theorem hoards_cancel (service : Service α) (handle : Handle) :
    Hoards service [] { service with timers := (service.timers.cancel handle).2 } := by
  rw [Timetable.cancel]
  split
  · exact hoards_remove service handle
  · exact composes_hoards.stay service

theorem hoards_conclude (service : Service α) (handle : Handle) (now : Time) :
    Hoards service [] { service with timers := service.timers.conclude handle now } := by
  rcases service.timers.conclude_cases handle now with
    ⟨_, same⟩ | ⟨timer, _, ⟨_, same⟩ | ⟨due, _, same⟩⟩
  · rw [same]
    exact composes_hoards.stay service
  · rw [same]
    exact hoards_remove service handle
  · rw [same]
    apply hoards_timers
    intro later member
    rcases List.mem_map.mp member with ⟨old, present, rfl⟩
    refine ⟨old, present, ?_⟩
    split <;> rfl

theorem fireOne_hoards (now : Time) {timer : Timer α} {service : Service α}
    (pending : timer ∈ service.timers.timers) :
    Outcome.Follows Hoards service (fireOne now timer service) := by
  have submits : Outcome.Follows Hoards service (service.submit timer.input) := by
    intro input held
    rcases holds_submit held with before | ⟨rfl, _⟩
    · exact before
    · exact Or.inr ⟨timer, pending, rfl⟩
  apply composes_hoards.andThen submits
  intro _ _
  exact hoards_conclude _ timer.handle now

theorem fire_hoards (service : Service α) (now : Time) :
    Outcome.Follows Hoards service (service.fire now) := by
  have each : ∀ (now : Time) (handles : List Handle) (service : Service α),
      Outcome.Follows Hoards service (fireEach now handles service) := by
    intro now handles
    induction handles with
    | nil => exact fun service => composes_hoards.done service 0
    | cons handle rest ih =>
        intro service
        rw [fireEach]
        cases found : service.timers.find? handle with
        | none => exact ih service
        | some timer =>
            apply composes_hoards.andThen (fireOne_hoards now (List.mem_of_find?_eq_some found))
            intro _ _
            apply composes_hoards.andThen (ih _)
            intro _ _
            exact composes_hoards.done _ _
  exact each _ _ { service with timers := service.timers.advance now }

/-- Whatever is held afterwards was held before, has a topic or was submitted
by a detector as it was. -/
def Gains (registry : Registry) (before : Service α) (log : List (Event α)) (after : Service α) :
    Prop :=
  ∀ input, after.Holds input →
    before.Holds input ∨ registry.hasTopic input.topic = true ∨ Log.Submits log input

variable {registry : Registry}

theorem composes_gains : Outcome.Composes (Gains (α := α) registry) where
  stay _ _ held := Or.inl held
  append := by
    intro first middle last front back before after input held
    rcases after input held with held | known | ⟨detector, member⟩
    · rcases before input held with held | known | ⟨detector, member⟩
      · exact Or.inl held
      · exact Or.inr (Or.inl known)
      · exact Or.inr (Or.inr ⟨detector, List.mem_append_left back member⟩)
    · exact Or.inr (Or.inl known)
    · exact Or.inr (Or.inr ⟨detector, List.mem_append_right front member⟩)

theorem Hoards.gains {before after : Service α} {log : List (Event α)}
    (hoards : Hoards before log after) (other : List (Event α)) :
    Gains registry before other after :=
  fun input held => Or.inl (hoards input held)

theorem gains_stay (service : Service α) (log : List (Event α)) :
    Gains registry service log service :=
  fun _ held => Or.inl held

theorem gains_insert {service : Service α} {input : Input α}
    (known : registry.hasTopic input.topic = true) (due : Time) (period : Option Time)
    (log : List (Event α)) :
    Gains registry service log
      { service with timers := (service.timers.insert due period input).2 } := by
  intro other held
  rcases holds_insert held with before | rfl
  · exact Or.inl before
  · exact Or.inr (Or.inl known)

theorem gains_submit {service : Service α} {input : Input α}
    (known : registry.hasTopic input.topic = true) :
    Outcome.Follows (Gains registry) service (service.submit input) := by
  intro other held
  rcases holds_submit held with before | ⟨rfl, _⟩
  · exact Or.inl before
  · exact Or.inr (Or.inl known)

/-- A running detector can get inputs without a topic into the queue in no
other way than by submitting them. -/
theorem coversPasses_gains (registry : Registry) : CoversPasses registry (Gains (α := α) registry)
    where
  composes := composes_gains
  published service _ _ _ := gains_stay service _
  postponed service _ _ _ := gains_stay service _
  looked service _ := gains_stay service _
  unscheduled service _ _ := gains_stay service _
  scheduled _ _ _ _ declared := gains_insert (Registry.hasTopic_of_isDeclared declared) _ _ _
  scheduledEvery _ _ _ _ declared := gains_insert (Registry.hasTopic_of_isDeclared declared) _ _ _
  cancelled service _ handle := (hoards_cancel service handle).gains _
  fired service _ now := (fire_hoards service now).gains _
  submitted := by
    intro service detector input other held
    rcases holds_submit held with before | ⟨rfl, ok⟩
    · exact Or.inl before
    · refine Or.inr (Or.inr ⟨detector, List.mem_append_right _ ?_⟩)
      rw [ok]
      exact List.mem_singleton_self _
  wrote service _ _ := gains_stay service _
  evaluated service _ _ _ := gains_stay service _
  completed service _ := gains_stay service _
  delayed _ _ _ declared := gains_submit (Registry.hasTopic_of_isDeclared declared)

end Service

namespace Graph

open Service

theorem hasTopic_install {graph : Graph α σ} (coherent : graph.Coherent)
    (typeName : String) (wiring : DetectorId → Wiring) (resident : Resident α σ) {topic : Payload}
    (known : graph.registry.hasTopic topic = true) :
    (graph.install typeName wiring resident).1.registry.hasTopic topic = true := by
  rw [install]
  cases added : graph.registry.addDetector (shortName typeName) with
  | error error => exact known
  | ok entered =>
      rcases entered with ⟨detector, entered⟩
      rcases coherent.registry.addDetector added with ⟨sound, _, _, _, count, blank, _⟩
      have placed : detector < entered.detectors.length := by
        rw [count]
        exact Nat.lt_succ_self _
      have topics : entered.topics = graph.registry.topics := by
        rw [Registry.addDetector] at added
        split at added
        · cases added
        · cases added
          rfl
      have entering : entered.hasTopic topic = true := by
        rw [Registry.hasTopic_iff, topics, ← Registry.hasTopic_iff]
        exact known
      rcases (wiring detector).run_leaves sound placed blank with ⟨_, gained, _⟩
      have wired := gained.hasTopic entering
      dsimp only
      cases ((wiring detector).run detector entered []).result with
      | error error =>
          dsimp only
          rw [Registry.hasTopic_takeBack]
          exact wired
      | ok => exact wired

theorem hasTopic_perform {graph : Graph α σ} (coherent : graph.Coherent)
    (operation : Operation α σ) {topic : Payload} (known : graph.registry.hasTopic topic = true) :
    (perform operation graph).state.registry.hasTopic topic = true := by
  apply registry_perform (P := fun registry => registry.hasTopic topic = true) known
  · exact fun _ _ _ => hasTopic_install coherent _ _ _ known
  · exact fun other => (Registry.Gained.ensureTopic 0 graph.registry other).hasTopic known
  · exact known

theorem step_gains (graph : Graph α σ) :
    Gains graph.registry graph.toService graph.step.events graph.step.state.toService := by
  rcases graph.step_cases with
    ⟨cause, _, same⟩ | ⟨closed, answer, ⟨_, _, same⟩ | ⟨_, _, _, same⟩ | ⟨_, same⟩⟩
  · rw [same]
    exact gains_stay graph.toService _
  · rw [same, ← service_close answer]
    exact gains_stay closed.toService _
  · rw [same, ← service_close answer]
    exact gains_stay closed.toService _
  · have topics : Gains (α := α) graph.registry = Gains closed.registry := by
      rw [registry_close answer]
      rfl
    rw [same, topics, ← service_close answer]
    have taken : Hoards closed.toService [] closed.poised.toService := by
      rintro input (waits | scheduled)
      · exact Or.inl (List.mem_of_mem_tail waits)
      · exact Or.inr scheduled
    have passed : Gains closed.registry closed.poised.toService closed.nextPass.events
        closed.nextPass.state.toService :=
      Live.pass_serves (coversPasses_gains closed.registry) _ _ _
    have ended : Hoards closed.nextPass.state.toService []
        (closed.rested closed.nextPass.state).toService := fun _ held => held
    have front := composes_gains.append
      (taken.gains (closed.queue.waiting.head?.toList.map .consumed)) passed
    have whole := composes_gains.append front (ended.gains [])
    rw [List.append_nil] at whole
    exact whole

/-- If a value without a topic makes a step fail, that is the input of the
step, and nothing has been called. -/
theorem step_unknownTopic {graph : Graph α σ} (coherent : graph.Coherent) {name : String}
    (failed : graph.step.result = .error (.unknownTopic name)) :
    ∃ input, .consumed input ∈ graph.step.events ∧ graph.queue.waiting.head? = some input ∧
      input.topic.name = name ∧ graph.registry.hasTopic input.topic = false := by
  rcases step_error failed with
    ⟨cause, wrong, _, _⟩ | ⟨closed, answer, ⟨_, _, _, wrong, _⟩ | ⟨ended, same⟩⟩
  · cases wrong
  · cases wrong
  have fits : closed.registry.Fits closed.poised.shapes := (coherent.close answer).fits
  rw [nextPass] at ended
  rcases Live.pass_cases closed.order closed.queue.waiting.head? fits with
    ⟨input, first, unknown, passed⟩ | ⟨_, passed⟩
  · rw [passed] at ended
    cases ended
    refine ⟨input, ?_, ?_, rfl, ?_⟩
    · rw [same, first]
      exact List.mem_append_left _ (List.mem_singleton_self _)
    · rcases close_frame answer with ⟨order, registry, rfl⟩
      exact first
    · rw [registry_close answer] at unknown
      exact unknown
  · rw [passed] at ended
    rcases Live.walk_stops _ _ _ _ ended with ⟨_, _, wrong⟩ | ⟨_, wrong, _⟩
    · cases wrong
    · cases wrong

/-! ## Histories -/

/-- The operations and the log show that the input has got into the queue or
the timetable without a check: it was submitted or scheduled from outside, or
a running detector has submitted it. -/
def Raw (operations : List (Operation α σ)) (log : List (Event α)) (input : Input α) : Prop :=
  .submit input ∈ operations ∨ (∃ delay, .schedule input delay ∈ operations) ∨
    (∃ period, .scheduleEvery input period ∈ operations) ∨ Log.Submits log input

theorem Raw.mono {operations more : List (Operation α σ)} {log events : List (Event α)}
    {input : Input α} (raw : Raw operations log input) (known : operations ⊆ more)
    (logged : log ⊆ events) : Raw more events input := by
  rcases raw with submitted | ⟨delay, scheduled⟩ | ⟨period, scheduled⟩ | ⟨detector, submitted⟩
  · exact Or.inl (known submitted)
  · exact Or.inr (Or.inl ⟨delay, known scheduled⟩)
  · exact Or.inr (Or.inr (Or.inl ⟨period, known scheduled⟩))
  · exact Or.inr (Or.inr (Or.inr ⟨detector, logged submitted⟩))

/-- Whatever an operation brings into the queue or the timetable has a topic
or is raw. -/
theorem holds_perform (operation : Operation α σ) {graph : Graph α σ} {input : Input α}
    (held : (perform operation graph).state.toService.Holds input) :
    graph.toService.Holds input ∨ graph.registry.hasTopic input.topic = true ∨
      Raw [operation] (perform operation graph).events input := by
  cases operation with
  | add detector =>
      have same : (graph.add detector).1.toService = graph.toService :=
        graph.service_install _ _ _
      rw [← same]
      exact Or.inl held
  | addLag source =>
      have same : (graph.addLag source).1.toService = graph.toService :=
        graph.service_install _ _ _
      rw [← same]
      exact Or.inl held
  | resolve topic => exact Or.inl held
  | close =>
      rw [perform] at held
      split at held
      next closed answer =>
        rw [← service_close answer]
        exact Or.inl held
      next => exact Or.inl held
  | push given =>
      rw [perform, Outcome.regardless, push] at held
      split at held
      next known =>
        rcases holds_submit held with before | ⟨rfl, _⟩
        · exact Or.inl before
        · exact Or.inr (Or.inl known)
      next => exact Or.inl held
  | submit given =>
      rcases holds_submit held with before | ⟨rfl, _⟩
      · exact Or.inl before
      · exact Or.inr (Or.inr (Or.inl (List.mem_singleton_self _)))
  | fire now => exact Or.inl (fire_hoards graph.toService now input held)
  | schedule given delay =>
      rcases holds_insert held with before | rfl
      · exact Or.inl before
      · exact Or.inr (Or.inr (Or.inr (Or.inl ⟨delay, List.mem_singleton_self _⟩)))
  | scheduleEvery given period =>
      rcases holds_insert held with before | rfl
      · exact Or.inl before
      · exact Or.inr (Or.inr (Or.inr (Or.inr (Or.inl ⟨period, List.mem_singleton_self _⟩))))
  | cancel handle => exact Or.inl (hoards_cancel graph.toService handle input held)
  | step =>
      rcases graph.step_gains input held with before | known | submitted
      · exact Or.inl before
      · exact Or.inr (Or.inl known)
      · exact Or.inr (Or.inr (Or.inr (Or.inr (Or.inr submitted))))

theorem holds_run (config : Config) (operations : List (Operation α σ)) {input : Input α}
    (held : (run operations (ofConfig config)).state.toService.Holds input) :
    (run operations (ofConfig config)).state.registry.hasTopic input.topic = true ∨
      Raw operations (run operations (ofConfig config)).events input := by
  induction operations using List.reverseRecOn with
  | nil =>
      rcases held with waits | ⟨timer, member, _⟩
      · cases waits
      · cases member
  | append_singleton operations operation ih =>
      have reachable : (run operations (ofConfig config)).state.Reachable :=
        ⟨config, operations, rfl⟩
      rw [run_concat] at held ⊢
      have topics : (run operations (ofConfig config)).state.registry.hasTopic input.topic = true →
          (perform operation (run operations (ofConfig config)).state).state.registry.hasTopic
            input.topic = true := hasTopic_perform reachable.coherent operation
      rcases holds_perform operation held with before | known | now
      · rcases ih before with known | earlier
        · exact Or.inl (topics known)
        · exact Or.inr
            (earlier.mono (List.subset_append_left _ _) (List.subset_append_left _ _))
      · exact Or.inl (topics known)
      · exact Or.inr (now.mono (List.subset_append_right _ _) (List.subset_append_right _ _))

theorem raised_run (config : Config) (operations : List (Operation α σ)) {name : String}
    (failed : (run operations (ofConfig config)).state.step.result =
      .error (.unknownTopic name)) :
    (run operations (ofConfig config)).state.step.events.filter Event.isCall = [] ∧
      ∃ input, .consumed input ∈ (run operations (ofConfig config)).state.step.events ∧
        input.topic.name = name ∧
        (run operations (ofConfig config)).state.registry.hasTopic input.topic = false ∧
        Raw operations (run operations (ofConfig config)).events input := by
  have reachable : (run operations (ofConfig config)).state.Reachable := ⟨config, operations, rfl⟩
  rcases step_unknownTopic reachable.coherent failed with ⟨input, taken, first, named, unknown⟩
  refine ⟨(step_unknown reachable.coherent taken unknown).2.1, input, taken, named, unknown, ?_⟩
  rcases holds_run config operations (Or.inl (List.mem_of_mem_head? first)) with known | raw
  · exact absurd (unknown.symm.trans known) Bool.false_ne_true
  · exact raw

/-- Inputs without a topic are raw, and they are all that makes a step fail
for want of a topic.  It fails for one that it has taken from the queue, and
no detector has been called before. -/
structure Vetted (operations : List (Operation α σ)) (log : List (Event α)) (graph : Graph α σ) :
    Prop where
  waiting : ∀ input ∈ graph.queue.waiting,
    graph.registry.hasTopic input.topic = true ∨ Raw operations log input
  scheduled : ∀ timer ∈ graph.timers.timers,
    graph.registry.hasTopic timer.input.topic = true ∨ Raw operations log timer.input
  raised : ∀ name, graph.step.result = .error (.unknownTopic name) →
    graph.step.events.filter Event.isCall = [] ∧
      ∃ input, .consumed input ∈ graph.step.events ∧ input.topic.name = name ∧
        graph.registry.hasTopic input.topic = false ∧ Raw operations log input
  never : (∀ input, ¬Raw operations log input) →
    ∀ name, graph.step.result ≠ .error (.unknownTopic name)

/-- Accepted inputs have a topic, unless they are raw, whatever happens between
their acceptance and their pass. -/
theorem inputs_vetted (config : Config) (operations : List (Operation α σ)) :
    Vetted operations (run operations (ofConfig config)).events
      (run operations (ofConfig config)).state := by
  refine ⟨?_, ?_, fun _ failed => raised_run config operations failed, ?_⟩
  · intro input waits
    exact holds_run config operations (Or.inl waits)
  · intro timer member
    exact holds_run config operations (Or.inr ⟨timer, member, rfl⟩)
  · intro vetted name failed
    rcases (raised_run config operations failed).2 with ⟨input, _, _, _, raw⟩
    exact vetted input raw

end Graph
end ReactiveGraph
