import ReactiveGraph.Container
import ReactiveGraph.Proofs.Publishing
import ReactiveGraph.Proofs.Rest

namespace ReactiveGraph

/-!
# What a container sees

A container has a loop of its own that drives its graph, beside the one by
which a graph settles without it.  The two stay in step, pass by pass and up
to the same failure: if the observations are left out of the container's log,
nothing remains of the container.  The observations themselves come one by one
behind the passes that succeed, while the topics still tell which values were
written last.
-/

variable {α σ ω : Type}

namespace Container

def Entry.event? : Entry α ω → Option (Event α)
  | .event happened => some happened
  | .output _ => none

def Report.outcome (report : Report α σ ω) : Outcome α (Graph α σ) Nat :=
  ⟨report.graph, report.log.filterMap Entry.event?, report.result⟩

theorem events_logged (events : List (Event α)) :
    (events.map (Entry.event (ω := ω))).filterMap Entry.event? = events := by
  rw [List.filterMap_map]
  exact List.filterMap_some

theorem outcome_behind (report : Report α σ ω) (events : List (Event α)) :
    (report.behind (events.map .event)).outcome = report.outcome.behind events := by
  rw [Report.outcome, Report.behind, List.filterMap_append, events_logged]
  rfl

/-- The loops stay in step for as long as they run. -/
theorem outcome_settle (observe : Graph α σ → ω) (fuel : Nat) (graph : Graph α σ) :
    (settle observe fuel graph).map Report.outcome = graph.settle fuel := by
  induction fuel generalizing graph with
  | zero => rfl
  | succ fuel ih =>
      rw [settle, Graph.settle]
      cases graph.step.result with
      | error error => simp only [Option.map_some, Report.outcome, events_logged]
      | ok ran =>
          cases ran with
          | false => simp only [Option.map_some, Report.outcome, events_logged]
          | true =>
              have output : ∀ (seen : ω) (log : List (Entry α ω)),
                  (Entry.output seen :: log).filterMap Entry.event? =
                    log.filterMap Entry.event? := fun _ _ => rfl
              simp only [← ih, Option.map_map, Function.comp_def, Report.outcome,
                List.filterMap_append, events_logged, output]

theorem outcome_settleAfter {β : Type} (observe : Graph α σ → ω) (fuel : Nat)
    (first : Outcome α (Graph α σ) β) :
    (settleAfter observe fuel first).map Report.outcome = Graph.settleAfter fuel first := by
  rw [settleAfter, Graph.settleAfter]
  cases first.result with
  | error error => simp only [Option.map_some, Report.outcome, events_logged]
  | ok value =>
      simp only [← outcome_settle observe, Option.map_map, Function.comp_def, outcome_behind]

/-- What is logged of a pass that succeeds: what has happened, and then what
the container sees. -/
def chapter (observe : Graph α σ → ω) (graph : Graph α σ) : List (Entry α ω) :=
  graph.step.events.map .event ++ [.output (observe graph.step.state)]

/-- What a container sees after a step as new is what the step has written
last to each topic, and nothing else. -/
def Shows (graph : Graph α σ) : Prop :=
  ∀ topic, graph.step.state.board.new? topic =
    (Input.valuesFor topic (graph.step.events.filterMap Event.written?)).getLast?

/-- The container has gone with its graph through the given number of passes,
all of which succeeded, and through one more step, which found nothing more to
do or failed.  One observation follows each pass that succeeded, ahead of the
next step, and there are no others. -/
structure Watches (observe : Graph α σ → ω) (graph : Graph α σ) (passes : Nat)
    (report : Report α σ ω) : Prop where
  ran : ∀ pass, pass < passes → (graph.stepped pass).state.step.result = .ok true ∧
    (graph.stepped pass).state.step.state.passCount = graph.passCount + (pass + 1)
  ended : (graph.stepped passes).state.step.result = .ok false ∧ report.result = .ok passes ∨
    ∃ error, (graph.stepped passes).state.step.result = .error error ∧
      report.result = .error error
  reached : report.graph = (graph.stepped passes).state.step.state
  log : report.log =
    ((List.range passes).flatMap fun pass => chapter observe (graph.stepped pass).state) ++
      (graph.stepped passes).state.step.events.map .event
  seen : ∀ pass, pass < passes → Shows (graph.stepped pass).state

theorem shows_of_true {graph : Graph α σ} (ran : graph.step.result = .ok true) : Shows graph := by
  intro topic
  rw [Graph.board_step (Graph.counted_of_true ran), Board.new?_writeAll, Board.new?_age,
    Option.or_none]
  rfl

/-- A step that runs no pass or fails is not observed. -/
theorem watches_stop (observe : Graph α σ → ω) {graph : Graph α σ}
    {result : Except GraphError Nat}
    (ended : graph.step.result = .ok false ∧ result = .ok 0 ∨
      ∃ error, graph.step.result = .error error ∧ result = .error error) :
    Watches observe graph 0 ⟨graph.step.state, graph.step.events.map .event, result⟩ where
  ran _ early := absurd early (Nat.not_lt_zero _)
  ended := ended
  reached := rfl
  log := rfl
  seen _ early := absurd early (Nat.not_lt_zero _)

/-- A pass that succeeds is observed before anything else happens. -/
theorem Watches.cons {observe : Graph α σ → ω} {graph : Graph α σ}
    (ran : graph.step.result = .ok true) {passes : Nat} {rest : Report α σ ω}
    (later : Watches observe graph.step.state passes rest) :
    Watches observe graph (passes + 1)
      { rest with
        log := graph.step.events.map .event ++ .output (observe graph.step.state) :: rest.log
        result := rest.result.map (· + 1) } := by
  have onward : ∀ pass,
      (graph.stepped (pass + 1)).state = (graph.step.state.stepped pass).state := by
    intro pass
    rw [Graph.stepped_succ]
    rfl
  refine ⟨?_, ?_, ?_, ?_, ?_⟩
  · intro pass early
    cases pass with
    | zero => exact ⟨ran, Graph.passCount_of_true ran⟩
    | succ pass =>
        rcases later.ran pass (Nat.lt_of_succ_lt_succ early) with ⟨ok, counted⟩
        rw [onward, counted, Graph.passCount_of_true ran]
        exact ⟨ok, by omega⟩
  · rw [onward]
    rcases later.ended with ⟨idle, all⟩ | ⟨error, failed, stopped⟩
    · exact Or.inl ⟨idle, by rw [all]; rfl⟩
    · exact Or.inr ⟨error, failed, by rw [stopped]; rfl⟩
  · rw [onward]
    exact later.reached
  · rw [onward, List.range_succ_eq_map, List.flatMap_cons, List.flatMap_map, later.log]
    simp only [onward, chapter, List.append_assoc, List.singleton_append]
    rfl
  · intro pass early
    cases pass with
    | zero => exact shows_of_true ran
    | succ pass =>
        rw [onward]
        exact later.seen pass (Nat.lt_of_succ_lt_succ early)

theorem settle_watches {observe : Graph α σ → ω} {fuel : Nat} {graph : Graph α σ}
    {report : Report α σ ω} (settled : settle observe fuel graph = some report) :
    ∃ passes, Watches observe graph passes report := by
  induction fuel generalizing graph report with
  | zero => cases settled
  | succ fuel ih =>
      rw [settle] at settled
      cases result : graph.step.result with
      | error error =>
          simp only [result] at settled
          cases settled
          exact ⟨0, watches_stop observe (Or.inr ⟨error, result, rfl⟩)⟩
      | ok ran =>
          cases ran with
          | false =>
              simp only [result] at settled
              cases settled
              exact ⟨0, watches_stop observe (Or.inl ⟨result, rfl⟩)⟩
          | true =>
              simp only [result] at settled
              rcases Option.map_eq_some_iff.mp settled with ⟨rest, later, rfl⟩
              rcases ih later with ⟨passes, watches⟩
              exact ⟨passes + 1, watches.cons result⟩

/-- The container has gone on from an activity, unless that failed. -/
inductive Proceeds {β : Type} (observe : Graph α σ → ω) (first : Outcome α (Graph α σ) β) :
    Report α σ ω → Prop where
  | stopped {error : GraphError} (failed : first.result = .error error) :
      Proceeds observe first ⟨first.state, first.events.map .event, .error error⟩
  | watching {value : β} {passes : Nat} {rest : Report α σ ω} (ok : first.result = .ok value)
      (watches : Watches observe first.state passes rest) :
      Proceeds observe first (rest.behind (first.events.map .event))

theorem settleAfter_proceeds {β : Type} {observe : Graph α σ → ω} {fuel : Nat}
    {first : Outcome α (Graph α σ) β} {report : Report α σ ω}
    (settled : settleAfter observe fuel first = some report) : Proceeds observe first report := by
  rw [settleAfter] at settled
  cases result : first.result with
  | error error =>
      simp only [result] at settled
      cases settled
      exact .stopped result
  | ok value =>
      simp only [result] at settled
      rcases Option.map_eq_some_iff.mp settled with ⟨rest, later, rfl⟩
      rcases settle_watches later with ⟨passes, watches⟩
      exact .watching result watches

/-- A container brings about in its graph what comes about without it, and
sees the graph after each pass that succeeds.  The timeouts may also be those
of a service that feeds another queue. -/
structure Accompanies (observe : Graph α σ → ω) (graph : Graph α σ) : Prop where
  pending : ∀ fuel, (settle observe fuel graph).map Report.outcome = graph.settle fuel
  data : ∀ fuel input, (feed observe fuel graph input).map Report.outcome = graph.feed fuel input
  timeouts : ∀ fuel now, (tick observe fuel graph now).map Report.outcome = graph.tick fuel now
  elsewhere : ∀ fuel (service : Service α) now,
    (settleAfter observe fuel ((service.fire now).within fun _ => graph)).map Report.outcome =
      Graph.settleAfter fuel ((service.fire now).within fun _ => graph)
  pendingSeen : ∀ fuel report, settle observe fuel graph = some report →
    ∃ passes, Watches observe graph passes report
  dataSeen : ∀ fuel input report, feed observe fuel graph input = some report →
    Proceeds observe (graph.push input) report
  timeoutsSeen : ∀ fuel now report, tick observe fuel graph now = some report →
    Proceeds observe (graph.fire now) report
  elsewhereSeen : ∀ fuel (service : Service α) now report,
    settleAfter observe fuel ((service.fire now).within fun _ => graph) = some report →
      Proceeds observe ((service.fire now).within fun _ => graph) report

/-- Whatever graph it is and whatever the container makes of it, the container
does not interfere. -/
theorem container_unobtrusive (observe : Graph α σ → ω) (graph : Graph α σ) :
    Accompanies observe graph where
  pending fuel := outcome_settle observe fuel graph
  data fuel input := outcome_settleAfter observe fuel (graph.push input)
  timeouts fuel now := outcome_settleAfter observe fuel (graph.fire now)
  elsewhere fuel _ _ := outcome_settleAfter observe fuel _
  pendingSeen _ _ := settle_watches
  dataSeen _ _ _ := settleAfter_proceeds
  timeoutsSeen _ _ _ := settleAfter_proceeds
  elsewhereSeen _ _ _ _ := settleAfter_proceeds

/-- The second of two inputs has no topic, so the container sees only what the
first has brought. -/
example :
    let graph : Graph Nat Unit := (Graph.run [.add (.relay [.plain "in"] [.plain "out"]),
      .push ⟨.plain "in", 3⟩, .submit ⟨.plain "lost", 4⟩] (Graph.ofConfig {})).state
    (settle (fun seen => seen.board.new? (.plain "out")) 4 graph).map
        (fun report => (report.log, report.result)) =
      some ([.event (.consumed ⟨.plain "in", 3⟩), .event (.wrote (.plain "in") 3),
        .event (.evaluated 0 (.plain "in") 3), .event (.published 0 (.plain "out") 3),
        .event (.wrote (.plain "out") 3), .event (.completed 0), .output (some 3),
        .event (.consumed ⟨.plain "lost", 4⟩)], .error (.unknownTopic "lost")) := rfl

end Container
end ReactiveGraph
