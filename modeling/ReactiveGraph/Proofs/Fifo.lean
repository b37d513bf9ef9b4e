import ReactiveGraph.Proofs.History
import ReactiveGraph.Proofs.Queue

namespace ReactiveGraph

/-!
# First in, first out

Inputs are taken in the order in which they were accepted, whoever submitted
them and whenever: none is lost, none is taken twice, and the queue never
holds more than it may.  This is so at every point of a graph's history, in
the middle of a pass as well as after one that failed.
-/

variable {α σ : Type}

namespace Live

/-- The log of a pass accounts for the queue, and the pass takes no input
from it. -/
theorem pass_queue (registry : Registry) (order : VisitOrder) (input : Option (Input α))
    (live : Live α σ) :
    live.queue.Serves (pass registry order input live).events
      (pass registry order input live).state.queue :=
  pass_serves (Service.coversPasses_serves registry) order input live

/-- What can stop a pass: a value without a topic, a value that the detector
did not declare, or a full queue. -/
def FailsBy (live : Live α σ) (error : GraphError) : Prop :=
  (∃ topic, error = .unknownTopic topic) ∨
    (∃ detector topic, error = .undeclaredPublish detector topic) ∨ live.queue.Refuses error

/-- What can stop a walk: since whatever was declared has a topic, only the
other two. -/
def StopsBy (live : Live α σ) (error : GraphError) : Prop :=
  (∃ detector topic, error = .undeclaredPublish detector topic) ∨ live.queue.Refuses error

theorem receive_fails (registry : Registry) (input : Input α) (live : Live α σ) :
    Outcome.FailsOnly FailsBy (receive registry input live) := by
  rw [receive]
  split
  · intro error failed
    cases failed
  · exact Outcome.failsOnly_fail (Or.inl ⟨_, rfl⟩)

theorem publish_eq {registry : Registry} {detector : DetectorId} {input : Input α}
    (declared : registry.isDeclared detector input.topic .immediate = true) (live : Live α σ) :
    publish registry detector input live =
      ⟨{ live with board := live.board.write input.topic input.value },
        [.wrote input.topic input.value], .ok ()⟩ := by
  simp [publish, declared, receive, Registry.hasTopic_of_isDeclared declared]

theorem publish_undeclared {registry : Registry} {detector : DetectorId} {input : Input α}
    (refused : ¬registry.isDeclared detector input.topic .immediate = true) (live : Live α σ) :
    publish registry detector input live =
      .fail live (undeclared registry detector input.topic) := by
  rw [publish, if_neg refused]

theorem emptyOutbox_stops (registry : Registry) (detector : DetectorId) (live : Live α σ) :
    Outcome.FailsOnly StopsBy (emptyOutbox registry detector live) := by
  have undeclared : ∀ (live : Live α σ) topic, StopsBy live (undeclared registry detector topic) :=
    fun _ _ => Or.inl ⟨_, _, rfl⟩
  rw [emptyOutbox]
  cases live.outbox.rejected with
  | cons topic rest => exact Outcome.failsOnly_fail (undeclared _ topic)
  | nil =>
      apply Outcome.FailsOnly.andThen
      · apply Outcome.failsOnly_each
        intro input _ other
        by_cases declared : registry.isDeclared detector input.topic .immediate = true
        · rw [publish_eq declared]
          intro error failed
          cases failed
        · rw [publish_undeclared declared]
          exact Outcome.failsOnly_fail (undeclared other input.topic)
      · intro _ _
        apply Outcome.failsOnly_each
        intro input _ other
        rw [publishLater]
        split
        · intro error failed
          exact Or.inr (other.queue.submit_refuses input error failed)
        · exact Outcome.failsOnly_fail (undeclared other input.topic)

theorem visit_stops (registry : Registry) (vertex : Vertex) (live : Live α σ) :
    Outcome.FailsOnly StopsBy (visit registry vertex live) := by
  cases vertex with
  | topic topic =>
      rw [visit]
      split
      · apply Outcome.failsOnly_each
        intro detector _ other
        rw [deliver]
        split
        next =>
          split
          · exact emptyOutbox_stops registry detector _
          · exact Outcome.failsOnly_done _ other ()
        next => exact Outcome.failsOnly_done _ other ()
      · exact Outcome.failsOnly_done _ live ()
  | detector detector =>
      rw [visit, complete]
      split
      next => exact Outcome.failsOnly_done _ live ()
      next =>
        split
        · exact emptyOutbox_stops registry detector _
        · exact Outcome.failsOnly_done _ live ()

theorem walk_stops (registry : Registry) (walk : List Vertex) (live : Live α σ) :
    Outcome.FailsOnly StopsBy (Outcome.each (visit registry) walk live) :=
  Outcome.failsOnly_each (fun vertex _ => visit_stops registry vertex) live

theorem pass_fails (registry : Registry) (order : VisitOrder) (input : Option (Input α))
    (live : Live α σ) : Outcome.FailsOnly FailsBy (pass registry order input live) := by
  rw [pass]
  apply Outcome.FailsOnly.andThen
  · apply Outcome.failsOnly_each
    intro id _ other
    rw [releaseLag]
    split
    next => exact Outcome.failsOnly_done _ other ()
    next slot _ =>
      split
      next => exact Outcome.failsOnly_done _ other ()
      next input _ => exact receive_fails registry input _
  · intro _ _
    apply Outcome.FailsOnly.andThen
    · exact Outcome.failsOnly_each (fun input _ => receive_fails registry input) _
    · intro _ _ error failed
      exact Or.inr (walk_stops registry order.walk _ error failed)

end Live

/-! ## Operations and histories -/

namespace Graph

theorem consumed_nextPass (graph : Graph α σ) :
    graph.nextPass.events.filterMap Event.consumed? = [] :=
  (Live.pass_queue graph.registry graph.order graph.queue.waiting.head? graph.poised).untaken

/-- A step that gets past sealing first takes the input at the front, if any
waits.  Whatever it accepts comes after that, and it takes nothing else. -/
theorem step_takes {graph closed : Graph α σ} (answer : graph.close = .ok closed) :
    ∃ rest, graph.step.events = graph.queue.waiting.head?.toList.map .consumed ++ rest ∧
      ({ graph.queue with waiting := graph.queue.waiting.tail } : InputQueue α).Serves rest
        graph.step.state.queue := by
  rw [step, answer, ← service_close answer]
  have idle : closed.queue.waiting = [] →
      ({ closed.queue with waiting := closed.queue.waiting.tail } : InputQueue α).Serves []
        closed.queue := by
    intro empty
    refine ⟨⟨rfl, fun _ => ?_⟩, rfl⟩
    rw [empty]
    exact .nil []
  rcases closed.stepSealed_cases with ⟨empty, _, nothing⟩ | ⟨empty, _, _, givenUp⟩ | ⟨_, passes⟩
  · refine ⟨[], ?_, ?_⟩
    · simp only [nothing, empty]
      rfl
    · simp only [nothing]
      exact idle empty
  · refine ⟨[], ?_, ?_⟩
    · simp only [givenUp, empty]
      rfl
    · simp only [givenUp]
      exact idle empty
  · refine ⟨closed.nextPass.events, ?_, ?_⟩
    · simp only [passes]
    · simp only [passes]
      have passed : closed.poised.queue.Serves closed.nextPass.events closed.nextPass.state.queue :=
        Live.pass_queue _ _ _ _
      exact ⟨⟨passed.capacity, passed.flows⟩, passed.untaken⟩

theorem step_accounts (graph : Graph α σ) :
    graph.queue.Accounts graph.step.events graph.step.state.queue := by
  cases answer : graph.close with
  | error error =>
      rw [step, answer]
      exact InputQueue.accounts_nil graph.queue
  | ok closed =>
      rcases step_takes answer with ⟨rest, events, serves⟩
      rw [events]
      refine ⟨serves.capacity, ?_⟩
      intro fitting
      cases waiting : graph.queue.waiting with
      | nil =>
          have flows := serves.flows
          rw [waiting] at fitting flows
          exact flows fitting
      | cons input others =>
          have flows := serves.flows
          rw [waiting] at fitting flows
          exact .cons rfl (flows fun limit bounded => Nat.le_of_succ_le (fitting limit bounded))

theorem step_fails {graph : Graph α σ} {error : GraphError}
    (failed : graph.step.result = .error error) :
    (∃ cause, error = .wiring cause) ∨ (∃ limit, error = .feedbackLimit limit) ∨
      Live.FailsBy graph.step.state.toLive error := by
  rcases step_error failed with
    ⟨cause, wrong, _, _⟩ | ⟨closed, _, ⟨_, _, _, limited, _⟩ | ⟨ended, same⟩⟩
  · exact Or.inl ⟨cause, wrong⟩
  · exact Or.inr (Or.inl ⟨_, limited⟩)
  · rw [same]
    exact Or.inr (Or.inr (Live.pass_fails _ _ _ _ error ended))

theorem perform_accounts (operation : Operation α σ) (graph : Graph α σ) :
    graph.queue.Accounts (perform operation graph).events
      (perform operation graph).state.queue := by
  have same : ∀ {after : InputQueue α}, after = graph.queue → graph.queue.Accounts [] after := by
    rintro _ rfl
    exact InputQueue.accounts_nil graph.queue
  cases operation with
  | add detector => exact same (congrArg Service.queue (graph.service_install _ _ _))
  | addLag source => exact same (congrArg Service.queue (graph.service_install _ _ _))
  | resolve topic => exact same rfl
  | close =>
      rw [perform]
      split
      next closed answer => exact same (congrArg Service.queue (service_close answer))
      next => exact same rfl
  | push input =>
      rw [perform, Outcome.regardless, push]
      split
      · exact (graph.queue.submit_serves input).toAccounts
      · exact same rfl
  | submit input => exact (graph.queue.submit_serves input).toAccounts
  | fire now => exact (graph.toService.fire_serves now).toAccounts
  | schedule input delay => exact same rfl
  | scheduleEvery input period => exact same rfl
  | cancel handle => exact same rfl
  | step => exact graph.step_accounts

theorem run_accounts (operations : List (Operation α σ)) (graph : Graph α σ) :
    graph.queue.Accounts (run operations graph).events (run operations graph).state.queue := by
  have composes := InputQueue.composes_accounts fun graph : Graph α σ => graph.queue
  exact composes.each (fun operation _ graph => perform_accounts operation graph) graph

theorem Reachable.fitting {graph : Graph α σ} (reachable : graph.Reachable) :
    InputQueue.Fitting graph.queue.capacity graph.queue.waiting := by
  rcases reachable with ⟨config, operations, rfl⟩
  have account := run_accounts operations (ofConfig config : Graph α σ)
  have start : InputQueue.Fitting (ofConfig config : Graph α σ).queue.capacity
      (ofConfig config : Graph α σ).queue.waiting := fun limit _ => Nat.zero_le limit
  rw [account.capacity]
  exact (account.flows start).fitting start

end Graph

/-- An input that is submitted joins the others at the back, unless the queue
is full: then it is refused, and nothing changes. -/
structure Submits {S : Type} (queueOf : S → InputQueue α) (input : Input α) (before : S)
    (outcome : Outcome α S Unit) : Prop where
  refused_iff : ∀ error, outcome.result = .error error ↔
    InputQueue.IsFull (queueOf before).capacity (queueOf before).waiting error
  refused : ∀ error, outcome.result = .error error →
    outcome.state = before ∧ outcome.events = []
  accepted : outcome.result = .ok () →
    (queueOf outcome.state).waiting = (queueOf before).waiting ++ [input] ∧
      outcome.events = [.accepted input]

theorem InputQueue.submits {queue : InputQueue α} (fitting : Fitting queue.capacity queue.waiting)
    (input : Input α) : Submits id input queue (queue.submit input) := by
  rcases queue.submit_cases input with ⟨room, same⟩ | ⟨limit, bounded, full, same⟩
  · rw [same]
    refine ⟨?_, ?_, fun _ => ⟨rfl, rfl⟩⟩
    · intro error
      constructor
      · intro refused
        cases refused
      · rintro ⟨limit, _, bounded, full⟩
        exact absurd full (Nat.ne_of_lt (room limit bounded))
    · intro error refused
      cases refused
  · rw [same]
    refine ⟨?_, fun _ _ => ⟨rfl, rfl⟩, ?_⟩
    · intro error
      constructor
      · intro refused
        cases refused
        exact Refuses.isFull ⟨limit, rfl, bounded, full⟩ fitting
      · rintro ⟨other, rfl, sameBound, _⟩
        cases bounded.symm.trans sameBound
        rfl
    · intro accepted
      cases accepted

theorem Submits.within {S : Type} (queueOf : S → InputQueue α) (embed : InputQueue α → S)
    {input : Input α} {before : S} {outcome : Outcome α (InputQueue α) Unit}
    (submits : Submits id input (queueOf before) outcome)
    (embeds : ∀ queue, queueOf (embed queue) = queue) (same : embed (queueOf before) = before) :
    Submits queueOf input before (outcome.within embed) where
  refused_iff := submits.refused_iff
  refused := by
    intro error failed
    rcases submits.refused error failed with ⟨state, events⟩
    refine ⟨?_, events⟩
    rw [Outcome.within, state]
    exact same
  accepted := by
    intro accepted
    rcases submits.accepted accepted with ⟨state, events⟩
    refine ⟨?_, events⟩
    rw [Outcome.within, embeds]
    exact state

/-! ## The whole history -/

/-- The inputs that wait at the end of a log: those that were accepted and
not yet consumed. -/
def Log.backlog (log : List (Event α)) : List (Input α) :=
  (log.filterMap Event.accepted?).drop (log.filterMap Event.consumed?).length

theorem InputQueue.Flows.backlog {capacity : Option Nat} {log : List (Event α)}
    {waiting : List (Input α)} (flows : InputQueue.Flows capacity [] log waiting) :
    Log.backlog log = waiting := by
  have accounts := flows.accounts
  rw [List.nil_append] at accounts
  rw [Log.backlog, accounts, List.drop_left]

/-- A graph, with the log of its history, keeps its inputs in order.  At every
point, what was accepted is what was consumed and then what waits, which is
never more than may wait and is what detectors find when they look.  An input
that is submitted, by whomever and by whatever means, joins the others behind
or is refused because the queue is full.  A step past sealing takes exactly
the input at the front, if any waits, even if it fails. -/
structure Fifo (capacity : Option Nat) (log : List (Event α)) (graph : Graph α σ) : Prop where
  accounts : ∀ front back, log = front ++ back →
    front.filterMap Event.accepted? = front.filterMap Event.consumed? ++ Log.backlog front
  bounded : ∀ front back, log = front ++ back →
    InputQueue.Fitting capacity (Log.backlog front)
  holds : graph.queue.capacity = capacity ∧ graph.queue.waiting = Log.backlog log
  looked : ∀ front detector count evaluating back,
    log = front ++ .looked detector count evaluating :: back → count = (Log.backlog front).length
  submitted : ∀ front detector input back,
    log = front ++ .submitted detector input (.ok ()) :: back →
      (Log.backlog front).getLast? = some input
  unsubmitted : ∀ front detector input error back,
    log = front ++ .submitted detector input (.error error) :: back →
      InputQueue.IsFull capacity (Log.backlog front) error
  fired : ∀ front detector error back,
    log = front ++ .fired detector (.error error) :: back →
      InputQueue.IsFull capacity (Log.backlog front) error
  submits : ∀ front back, log = front ++ back → ∀ queue : InputQueue α,
    queue.capacity = capacity → queue.waiting = Log.backlog front →
      ∀ input, Submits id input queue (queue.submit input)
  takes : ∀ closed, graph.close = .ok closed → ∃ rest,
    graph.step.events = graph.queue.waiting.head?.toList.map .consumed ++ rest ∧
      rest.filterMap Event.consumed? = [] ∧
      graph.step.state.queue.waiting =
        graph.queue.waiting.tail ++ rest.filterMap Event.accepted?
  stopped : ∀ limit, graph.step.result = .error (.inputQueueFull limit) →
    InputQueue.IsFull capacity graph.step.state.queue.waiting (.inputQueueFull limit)
  unfired : ∀ now error, (graph.fire now).result = .error error →
    InputQueue.IsFull capacity (graph.fire now).state.queue.waiting error
  handed : ∀ input, Submits (fun graph => graph.queue) input graph (graph.submit input)
  pushed : ∀ input, graph.registry.hasTopic input.topic = true →
    Submits (fun graph => graph.queue) input graph (graph.push input)

theorem InputQueue.Flows.moves {capacity : Option Nat} {front back : List (Event α)}
    {event : Event α} {waiting : List (Input α)}
    (flows : InputQueue.Flows capacity [] (front ++ event :: back) waiting) :
    ∃ after, InputQueue.Moves capacity event (Log.backlog front) after := by
  rcases flows.split with ⟨middle, upTo, beyond⟩
  rw [upTo.backlog]
  cases beyond with
  | cons first _ => exact ⟨_, first⟩

namespace Graph

theorem step_takes_front {graph closed : Graph α σ}
    (fitting : InputQueue.Fitting graph.queue.capacity graph.queue.waiting)
    (answer : graph.close = .ok closed) :
    ∃ rest, graph.step.events = graph.queue.waiting.head?.toList.map .consumed ++ rest ∧
      rest.filterMap Event.consumed? = [] ∧
      graph.step.state.queue.waiting =
        graph.queue.waiting.tail ++ rest.filterMap Event.accepted? := by
  rcases step_takes answer with ⟨rest, events, serves⟩
  refine ⟨rest, events, serves.untaken, ?_⟩
  have tailFitting : InputQueue.Fitting graph.queue.capacity graph.queue.waiting.tail := by
    intro limit bounded
    rw [List.length_tail]
    exact Nat.le_trans (Nat.sub_le _ _) (fitting limit bounded)
  have accounts := (serves.flows tailFitting).accounts
  rw [serves.untaken] at accounts
  exact accounts.symm

theorem step_isFull {graph : Graph α σ}
    (fitting : InputQueue.Fitting graph.queue.capacity graph.queue.waiting) {limit : Nat}
    (failed : graph.step.result = .error (.inputQueueFull limit)) :
    InputQueue.IsFull graph.queue.capacity graph.step.state.queue.waiting
      (.inputQueueFull limit) := by
  have account := graph.step_accounts
  have after := (account.flows fitting).fitting fitting
  rw [← account.capacity] at after ⊢
  rcases step_fails failed with ⟨cause, wrong⟩ | ⟨other, wrong⟩ | fails
  · cases wrong
  · cases wrong
  · rcases fails with ⟨topic, wrong⟩ | ⟨detector, topic, wrong⟩ | refuses
    · cases wrong
    · cases wrong
    · exact refuses.isFull after

theorem fire_isFull {graph : Graph α σ}
    (fitting : InputQueue.Fitting graph.queue.capacity graph.queue.waiting) {now : Time}
    {error : GraphError} (failed : (graph.fire now).result = .error error) :
    InputQueue.IsFull graph.queue.capacity (graph.fire now).state.queue.waiting error := by
  have serves : graph.queue.Serves (graph.fire now).events (graph.fire now).state.queue :=
    graph.toService.fire_serves now
  have after := (serves.flows fitting).fitting fitting
  rw [← serves.capacity] at after ⊢
  have refuses : (graph.fire now).state.queue.Refuses error :=
    graph.toService.fire_refuses now error failed
  exact refuses.isFull after

theorem submit_submits {graph : Graph α σ}
    (fitting : InputQueue.Fitting graph.queue.capacity graph.queue.waiting) (input : Input α) :
    Submits (fun graph => graph.queue) input graph (graph.submit input) := by
  have submits := InputQueue.submits fitting input
  exact submits.within (fun graph : Graph α σ => graph.queue) (fun queue => { graph with queue })
    (fun _ => rfl) rfl

/-- A log that accounts for the queue of a graph, which was empty before it,
shows that the graph keeps its inputs in order. -/
theorem fifo_of_flows {capacity : Option Nat} {log : List (Event α)} {graph : Graph α σ}
    (same : graph.queue.capacity = capacity)
    (flows : InputQueue.Flows capacity [] log graph.queue.waiting) : Fifo capacity log graph := by
  subst same
  have start : InputQueue.Fitting graph.queue.capacity ([] : List (Input α)) :=
    fun limit _ => Nat.zero_le limit
  have fitting := flows.fitting start
  have upTo : ∀ front back, log = front ++ back →
      InputQueue.Flows graph.queue.capacity [] front (Log.backlog front) := by
    rintro front back rfl
    rcases flows.split with ⟨middle, upTo, _⟩
    rw [upTo.backlog]
    exact upTo
  have moves : ∀ front event back, log = front ++ event :: back →
      ∃ after, InputQueue.Moves graph.queue.capacity event (Log.backlog front) after := by
    rintro front event back rfl
    exact flows.moves
  refine
    { accounts := fun front back split => (upTo front back split).accounts
      bounded := fun front back split => (upTo front back split).fitting start
      holds := ⟨rfl, flows.backlog.symm⟩
      looked := ?_, submitted := ?_, unsubmitted := ?_, fired := ?_, submits := ?_
      takes := fun closed answer => step_takes_front fitting answer
      stopped := fun limit failed => step_isFull fitting failed
      unfired := fun now error failed => fire_isFull fitting failed
      handed := fun input => submit_submits fitting input
      pushed := ?_ }
  · intro front detector count evaluating back split
    rcases moves front _ back split with ⟨after, looks⟩
    exact looks.2
  · intro front detector input back split
    rcases moves front _ back split with ⟨after, accepted⟩
    exact accepted.2
  · intro front detector input error back split
    rcases moves front _ back split with ⟨after, refused⟩
    exact refused.2
  · intro front detector error back split
    rcases moves front _ back split with ⟨after, refused⟩
    exact refused.2
  · intro front back split queue sameCapacity sameWaiting input
    have bound := (upTo front back split).fitting start
    rw [← sameWaiting, ← sameCapacity] at bound
    exact InputQueue.submits bound input
  · intro input known
    rw [push, if_pos known]
    exact submit_submits fitting input

theorem queue_is_fifo (config : Config) (operations : List (Operation α σ)) :
    Fifo (config.maxPendingInputs.map UInt64.toNat) (run operations (ofConfig config)).events
      (run operations (ofConfig config)).state := by
  have account := run_accounts operations (ofConfig config : Graph α σ)
  exact fifo_of_flows account.capacity (account.flows fun limit _ => Nat.zero_le limit)

end Graph
end ReactiveGraph
