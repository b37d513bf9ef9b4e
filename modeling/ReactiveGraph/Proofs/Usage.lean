import ReactiveGraph.Proofs.History
import ReactiveGraph.Proofs.Uses

namespace ReactiveGraph

/-!
# Graphs as users of their service

Whatever a graph goes through, in its passes and between them, its timetable
goes through nothing but uses: those made from outside and those made by
running detectors, in the order in which they happen, while the queue is fed
and drained in between.  What holds of all lists of uses therefore holds of
all histories of graphs.
-/

variable {α σ : Type}

namespace Service

/-- A sound service has been used, and the log tells of the timers that were
fired. -/
def Used (before : Service α) (log : List (Event α)) (after : Service α) : Prop :=
  before.timers.Sound → ∃ uses, after = before.after uses ∧
    log.filterMap Event.elapsed? = (before.fired uses).map Firing.handle

theorem composes_used : Outcome.Composes (Used (α := α)) where
  stay := fun _ _ => ⟨[], rfl, rfl⟩
  append := by
    intro first middle last front back before after sound
    rcases before sound with ⟨uses, rfl, fired⟩
    rcases after (sound_after sound uses) with ⟨further, rfl, later⟩
    refine ⟨uses ++ further, (first.after_append uses further).symm, ?_⟩
    rw [List.filterMap_append, fired, later, Service.fired, collect_append, List.map_append]

theorem used_event {event : Event α} (other : event.elapsed? = none) (service : Service α) :
    Used service [event] service :=
  fun _ => ⟨[], rfl, List.filterMap_cons_none other⟩

/-- A use that fires nothing and is logged as firing nothing. -/
theorem used_quiet (use : Use α) {service : Service α} {log : List (Event α)}
    (silent : service.fires use = []) (quiet : log.filterMap Event.elapsed? = []) :
    Used service log (service.perform use) := by
  intro _
  refine ⟨[use], rfl, ?_⟩
  rw [quiet, fired, collect, collect, silent]
  rfl

theorem used_fire (service : Service α) (now : Time) :
    Outcome.Follows Used service (service.fire now) := by
  intro sound
  refine ⟨[.fire now], rfl, ?_⟩
  rcases exists_volley sound now with ⟨timers, volley⟩
  have logged : ∀ timers : List (Timer α),
      (timers.flatMap Timer.log).filterMap Event.elapsed? = timers.map Timer.handle := by
    intro timers
    induction timers with
    | nil => rfl
    | cons timer rest ih => exact congrArg (timer.handle :: ·) ih
  rw [volley.log, logged, fired, collect, collect, List.append_nil, fires,
    volley.firings, List.map_map]
  rfl

theorem used_submit (service : Service α) (input : Input α) :
    Outcome.Follows Used service (service.submit input) := by
  have quiet : (service.submit input).events.filterMap Event.elapsed? = [] := by
    rw [submit]
    rcases service.queue.submit_cases input with ⟨_, same⟩ | ⟨limit, _, _, same⟩
    · rw [same]
      rfl
    · rw [same]
      rfl
  exact used_quiet (.meanwhile (service.queue.submit input).state) rfl quiet

theorem coversPasses_used (registry : Registry) : CoversPasses registry (Used (α := α)) where
  composes := composes_used
  published service _ _ _ := used_event rfl service
  postponed service _ _ _ := used_event rfl service
  looked service _ := used_event rfl service
  unscheduled service _ _ := used_event rfl service
  scheduled _ _ input delay _ := used_quiet (.schedule input delay) rfl rfl
  scheduledEvery _ _ input period _ := used_quiet (.scheduleEvery input period) rfl rfl
  cancelled _ _ handle := used_quiet (.cancel handle) rfl rfl
  fired service _ now := composes_used.append (used_fire service now) (used_event rfl _)
  submitted service _ input := composes_used.append (used_submit service input) (used_event rfl _)
  wrote service _ _ := used_event rfl service
  evaluated service _ _ _ := used_event rfl service
  completed service _ := used_event rfl service
  delayed service _ input _ := used_submit service input

end Service

namespace Graph

open Service

theorem step_used (graph : Graph α σ) :
    Used graph.toService graph.step.events graph.step.state.toService := by
  rcases graph.step_cases with
    ⟨cause, _, same⟩ | ⟨closed, answer, ⟨_, _, same⟩ | ⟨_, _, _, same⟩ | ⟨_, same⟩⟩
  · rw [same]
    exact composes_used.stay graph.toService
  · rw [same, ← service_close answer]
    exact composes_used.stay closed.toService
  · rw [same, ← service_close answer]
    exact composes_used.stay closed.toService
  · rw [same, ← service_close answer]
    have taken : Used closed.toService (closed.queue.waiting.head?.toList.map .consumed)
        closed.poised.toService := by
      apply used_quiet (.meanwhile closed.poised.queue) rfl
      cases closed.queue.waiting.head? <;> rfl
    have passed : Used closed.poised.toService closed.nextPass.events
        closed.nextPass.state.toService :=
      Live.pass_serves (coversPasses_used closed.registry) _ _ _
    have ended : Used closed.nextPass.state.toService []
        (closed.rested closed.nextPass.state).toService :=
      used_quiet (.meanwhile (closed.rested closed.nextPass.state).queue) rfl rfl
    have both := composes_used.append (composes_used.append taken passed) ended
    rw [List.append_nil] at both
    exact both

theorem perform_used (operation : Operation α σ) (graph : Graph α σ) :
    Used graph.toService (perform operation graph).events
      (perform operation graph).state.toService := by
  have same : ∀ {after : Service α}, after = graph.toService → Used graph.toService [] after := by
    rintro _ rfl
    exact composes_used.stay graph.toService
  cases operation with
  | add detector => exact same (graph.service_install _ _ _)
  | addLag source => exact same (graph.service_install _ _ _)
  | resolve topic => exact same rfl
  | close =>
      rw [perform]
      split
      next closed answer => exact same (service_close answer)
      next => exact same rfl
  | push input =>
      rw [perform, Outcome.regardless, push]
      split
      · exact used_submit graph.toService input
      · exact same rfl
  | submit input => exact used_submit graph.toService input
  | fire now => exact used_fire graph.toService now
  | schedule input delay => exact used_quiet (.schedule input delay) rfl rfl
  | scheduleEvery input period => exact used_quiet (.scheduleEvery input period) rfl rfl
  | cancel handle => exact used_quiet (.cancel handle) rfl rfl
  | step => exact graph.step_used

/-- The history of a graph amounts to a list of uses of its service, which
fire the timers that the log tells of, in that order. -/
theorem run_used (config : Config) (operations : List (Operation α σ)) :
    ∃ uses, (run operations (ofConfig config)).state.toService =
        (feeding (ofConfig config : Graph α σ).queue).after uses ∧
      (run operations (ofConfig config)).events.filterMap Event.elapsed? =
        ((feeding (ofConfig config : Graph α σ).queue).fired uses).map Firing.handle := by
  have used : Used (feeding (ofConfig config : Graph α σ).queue)
      (run operations (ofConfig config)).events
      (run operations (ofConfig config)).state.toService :=
    (composes_used.on fun graph : Graph α σ => graph.toService).each
      (fun operation _ graph => perform_used operation graph) (ofConfig config)
  exact used (sound_feeding _)

end Graph
end ReactiveGraph
