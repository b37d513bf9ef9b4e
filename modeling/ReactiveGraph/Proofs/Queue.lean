import ReactiveGraph.Proofs.Calls

namespace ReactiveGraph

/-!
# What happens to the queue

Inputs join the queue at its back and leave it at its front, one event each.
Other events only tell what the queue is like at that point: how many inputs
wait when a detector looks, and that none more may wait when a submission is
refused.  The queue before an activity, the log and the queue after it
therefore have to match event by event.
-/

variable {α : Type}

namespace InputQueue

def IsFull (capacity : Option Nat) (waiting : List (Input α)) (error : GraphError) : Prop :=
  ∃ limit, error = .inputQueueFull limit ∧ capacity = some limit ∧ waiting.length = limit

/-- What an event tells about the inputs that wait before and after it. -/
def Moves (capacity : Option Nat) : Event α → List (Input α) → List (Input α) → Prop
  | .accepted input, before, after =>
      after = before ++ [input] ∧ ∀ limit, capacity = some limit → before.length < limit
  | .consumed input, before, after => before = input :: after
  | .looked _ count _, before, after => after = before ∧ count = before.length
  | .submitted _ input (.ok ()), before, after => after = before ∧ before.getLast? = some input
  | .submitted _ _ (.error error), before, after => after = before ∧ IsFull capacity before error
  | .fired _ (.error error), before, after => after = before ∧ IsFull capacity before error
  | _, before, after => after = before

/-- A log leads from the inputs waiting before it to those waiting after
it. -/
inductive Flows (capacity : Option Nat) :
    List (Input α) → List (Event α) → List (Input α) → Prop where
  | nil (waiting : List (Input α)) : Flows capacity waiting [] waiting
  | cons {before middle after : List (Input α)} {event : Event α} {log : List (Event α)}
      (first : Moves capacity event before middle) (rest : Flows capacity middle log after) :
      Flows capacity before (event :: log) after

theorem Flows.append {capacity : Option Nat} {before middle after : List (Input α)}
    {front back : List (Event α)} (first : Flows capacity before front middle)
    (second : Flows capacity middle back after) : Flows capacity before (front ++ back) after := by
  induction first with
  | nil => exact second
  | cons event _ ih => exact .cons event (ih second)

theorem Flows.split {capacity : Option Nat} {before after : List (Input α)}
    {front back : List (Event α)} (flows : Flows capacity before (front ++ back) after) :
    ∃ middle, Flows capacity before front middle ∧ Flows capacity middle back after := by
  induction front generalizing before with
  | nil => exact ⟨before, .nil before, flows⟩
  | cons event front ih =>
      cases flows with
      | cons first rest =>
          rcases ih rest with ⟨middle, upTo, beyond⟩
          exact ⟨middle, .cons first upTo, beyond⟩

/-- Apart from acceptance and consumption no event changes what waits. -/
theorem Moves.accounts {capacity : Option Nat} {event : Event α} {before after : List (Input α)}
    (moves : Moves capacity event before after) :
    before ++ event.accepted?.toList = event.consumed?.toList ++ after := by
  have still : after = before → before ++ [] = [] ++ after := by
    rintro rfl
    exact List.append_nil after
  cases event with
  | accepted input => exact moves.1.symm
  | consumed input =>
      rw [show before = input :: after from moves]
      exact List.append_nil _
  | looked detector count evaluating => exact still moves.1
  | submitted detector input result =>
      cases result with
      | error error => exact still moves.1
      | ok => exact still moves.1
  | fired detector result =>
      cases result with
      | error error => exact still moves.1
      | ok count => exact still moves
  | _ => exact still moves

/-- What waited before and what was accepted is what was consumed and what
waits now, in this order. -/
theorem Flows.accounts {capacity : Option Nat} {before after : List (Input α)}
    {log : List (Event α)} (flows : Flows capacity before log after) :
    before ++ log.filterMap Event.accepted? = log.filterMap Event.consumed? ++ after := by
  induction flows with
  | nil waiting => exact List.append_nil waiting
  | @cons before middle after event log first rest ih =>
      have accepted : (event :: log).filterMap Event.accepted? =
          event.accepted?.toList ++ log.filterMap Event.accepted? := by
        rw [List.filterMap_cons]
        cases event.accepted? <;> rfl
      have consumed : (event :: log).filterMap Event.consumed? =
          event.consumed?.toList ++ log.filterMap Event.consumed? := by
        rw [List.filterMap_cons]
        cases event.consumed? <;> rfl
      calc before ++ (event :: log).filterMap Event.accepted?
          = (before ++ event.accepted?.toList) ++ log.filterMap Event.accepted? := by
            rw [accepted, List.append_assoc]
        _ = event.consumed?.toList ++ (middle ++ log.filterMap Event.accepted?) := by
            rw [first.accounts, List.append_assoc]
        _ = (event :: log).filterMap Event.consumed? ++ after := by
            rw [ih, consumed, List.append_assoc]

def Fitting (capacity : Option Nat) (waiting : List (Input α)) : Prop :=
  ∀ limit, capacity = some limit → waiting.length ≤ limit

theorem Moves.fitting {capacity : Option Nat} {event : Event α} {before after : List (Input α)}
    (moves : Moves capacity event before after) (fitting : Fitting capacity before) :
    Fitting capacity after := by
  intro limit bounded
  have bound := fitting limit bounded
  have still : after = before → after.length ≤ limit := by
    rintro rfl
    exact bound
  cases event with
  | accepted input =>
      rw [moves.1, List.length_append]
      exact moves.2 limit bounded
  | consumed input =>
      rw [show before = input :: after from moves] at bound
      exact Nat.le_of_succ_le bound
  | looked detector count evaluating => exact still moves.1
  | submitted detector input result =>
      cases result with
      | error error => exact still moves.1
      | ok => exact still moves.1
  | fired detector result =>
      cases result with
      | error error => exact still moves.1
      | ok count => exact still moves
  | _ => exact still moves

theorem Flows.fitting {capacity : Option Nat} {before after : List (Input α)}
    {log : List (Event α)} (flows : Flows capacity before log after)
    (fitting : Fitting capacity before) : Fitting capacity after := by
  induction flows with
  | nil => exact fitting
  | cons first _ ih => exact ih (first.fitting fitting)

/-! ## Queues in activities -/

/-- The log accounts for what an activity has done to the queue. -/
structure Accounts (before : InputQueue α) (log : List (Event α)) (after : InputQueue α) :
    Prop where
  capacity : after.capacity = before.capacity
  flows : Fitting before.capacity before.waiting →
    Flows before.capacity before.waiting log after.waiting

/-- The log accounts for what the activity has done to the queue, and no
input was taken. -/
structure Serves (before : InputQueue α) (log : List (Event α)) (after : InputQueue α) : Prop
    extends Accounts before log after where
  untaken : log.filterMap Event.consumed? = []

theorem Accounts.append {first middle last : InputQueue α} {front back : List (Event α)}
    (before : Accounts first front middle) (after : Accounts middle back last) :
    Accounts first (front ++ back) last where
  capacity := after.capacity.trans before.capacity
  flows := by
    intro fitting
    have flows := before.flows fitting
    have reached := flows.fitting fitting
    rw [← before.capacity] at reached
    have further := after.flows reached
    rw [before.capacity] at further
    exact flows.append further

theorem Serves.append {first middle last : InputQueue α} {front back : List (Event α)}
    (before : Serves first front middle) (after : Serves middle back last) :
    Serves first (front ++ back) last where
  toAccounts := before.toAccounts.append after.toAccounts
  untaken := by
    rw [List.filterMap_append, before.untaken, after.untaken]
    rfl

theorem accounts_nil (queue : InputQueue α) : Accounts queue [] queue :=
  ⟨rfl, fun _ => .nil _⟩

theorem serves_nil (queue : InputQueue α) : Serves queue [] queue :=
  ⟨accounts_nil queue, rfl⟩

theorem composes_accounts {S : Type} (queue : S → InputQueue α) :
    Outcome.Composes fun before log after => Accounts (queue before) log (queue after) :=
  ⟨fun state => accounts_nil (queue state), Accounts.append⟩

theorem composes_serves {S : Type} (queue : S → InputQueue α) :
    Outcome.Composes fun before log after => Serves (queue before) log (queue after) :=
  ⟨fun state => serves_nil (queue state), Serves.append⟩

theorem serves_event {queue : InputQueue α} (event : Event α)
    (moves : Fitting queue.capacity queue.waiting →
      Moves queue.capacity event queue.waiting queue.waiting)
    (untaken : event.consumed? = none) : Serves queue [event] queue where
  capacity := rfl
  flows fitting := .cons (moves fitting) (.nil _)
  untaken := List.filterMap_cons_none untaken

/-- A submission finds room behind the waiting inputs, or it is refused and
changes nothing. -/
theorem submit_cases (queue : InputQueue α) (input : Input α) :
    ((∀ limit, queue.capacity = some limit → queue.waiting.length < limit) ∧
        queue.submit input =
          ⟨{ queue with waiting := queue.waiting ++ [input] }, [.accepted input], .ok ()⟩) ∨
      ∃ limit, queue.capacity = some limit ∧ limit ≤ queue.waiting.length ∧
        queue.submit input = .fail queue (.inputQueueFull limit) := by
  rw [submit]
  cases bounded : queue.capacity with
  | none =>
      refine Or.inl ⟨?_, rfl⟩
      intro limit impossible
      cases impossible
  | some limit =>
      dsimp only
      by_cases full : limit ≤ queue.waiting.length
      · rw [if_pos full]
        exact Or.inr ⟨limit, rfl, full, rfl⟩
      · rw [if_neg full]
        refine Or.inl ⟨?_, rfl⟩
        intro other same
        cases same
        exact Nat.lt_of_not_le full

theorem submit_serves (queue : InputQueue α) (input : Input α) :
    Serves queue (queue.submit input).events (queue.submit input).state := by
  rcases queue.submit_cases input with ⟨room, same⟩ | ⟨limit, _, _, same⟩
  · rw [same]
    exact ⟨⟨rfl, fun _ => .cons ⟨rfl, room⟩ (.nil _)⟩, rfl⟩
  · rw [same]
    exact serves_nil queue

/-- The error tells that the queue is full, which is as many inputs as may
wait and not more, if it never held more. -/
def Refuses (queue : InputQueue α) (error : GraphError) : Prop :=
  ∃ limit, error = .inputQueueFull limit ∧ queue.capacity = some limit ∧
    limit ≤ queue.waiting.length

theorem Refuses.isFull {queue : InputQueue α} {error : GraphError} (refuses : queue.Refuses error)
    (fitting : Fitting queue.capacity queue.waiting) :
    IsFull queue.capacity queue.waiting error := by
  rcases refuses with ⟨limit, same, bounded, full⟩
  exact ⟨limit, same, bounded, Nat.le_antisymm (fitting limit bounded) full⟩

theorem submit_refuses (queue : InputQueue α) (input : Input α) :
    Outcome.FailsOnly Refuses (queue.submit input) := by
  rcases queue.submit_cases input with ⟨_, same⟩ | ⟨limit, bounded, full, same⟩
  · rw [same]
    intro error failed
    cases failed
  · rw [same]
    exact Outcome.failsOnly_fail ⟨limit, rfl, bounded, full⟩

end InputQueue

namespace Service

theorem fireOne_serves (now : Time) (timer : Timer α) (service : Service α) :
    Outcome.Follows (fun before log after => before.queue.Serves log after.queue) service
      (fireOne now timer service) := by
  have composes := InputQueue.composes_serves (Service.queue (α := α))
  apply composes.andThen
  · exact service.queue.submit_serves timer.input
  · intro _ _
    exact InputQueue.serves_event (.elapsed timer.handle) (fun _ => rfl) rfl

theorem fireEach_serves (now : Time) (handles : List Handle) (service : Service α) :
    Outcome.Follows (fun before log after => before.queue.Serves log after.queue) service
      (fireEach now handles service) := by
  have composes := InputQueue.composes_serves (Service.queue (α := α))
  induction handles generalizing service with
  | nil => exact composes.done service 0
  | cons handle rest ih =>
      rw [fireEach]
      cases service.timers.find? handle with
      | none => exact ih service
      | some timer =>
          apply composes.andThen (fireOne_serves now timer service)
          intro _ _
          apply composes.andThen (ih _)
          intro count _
          exact composes.done _ (count + 1)

theorem fire_serves (service : Service α) (now : Time) :
    Outcome.Follows (fun before log after => before.queue.Serves log after.queue) service
      (service.fire now) :=
  fireEach_serves _ _ { service with timers := service.timers.advance now }

theorem fireEach_refuses (now : Time) (handles : List Handle) (service : Service α) :
    Outcome.FailsOnly (fun service => service.queue.Refuses) (fireEach now handles service) := by
  induction handles generalizing service with
  | nil => exact Outcome.failsOnly_done _ _ _
  | cons handle rest ih =>
      rw [fireEach]
      cases service.timers.find? handle with
      | none => exact ih service
      | some timer =>
          apply Outcome.FailsOnly.andThen
          · apply Outcome.FailsOnly.andThen
            · exact service.queue.submit_refuses timer.input
            · intro _ _ error failed
              cases failed
          · intro _ _
            apply (ih _).andThen
            intro _ _
            exact Outcome.failsOnly_done _ _ _

theorem fire_refuses (service : Service α) (now : Time) :
    Outcome.FailsOnly (fun service => service.queue.Refuses) (service.fire now) :=
  fireEach_refuses _ _ _

end Service

namespace Service

/-- What a running detector is told about the timers that it had fired is
true of the queue. -/
theorem serves_fired (service : Service α) (detector : DetectorId) (now : Time) :
    service.queue.Serves ((service.fire now).events ++ [.fired detector (service.fire now).result])
      (service.fire now).state.queue := by
  refine (service.fire_serves now).append (InputQueue.serves_event _ ?_ rfl)
  intro fitting
  cases failed : (service.fire now).result with
  | error error => exact ⟨rfl, (service.fire_refuses now error failed).isFull fitting⟩
  | ok count => rfl

theorem serves_submitted (service : Service α) (detector : DetectorId) (input : Input α) :
    service.queue.Serves
      ((service.submit input).events ++ [.submitted detector input (service.submit input).result])
      (service.submit input).state.queue := by
  have submission : service.queue.Serves (service.submit input).events
      (service.submit input).state.queue := service.queue.submit_serves input
  refine submission.append (InputQueue.serves_event _ ?_ rfl)
  intro fitting
  have result : (service.submit input).result = (service.queue.submit input).result := rfl
  have state : (service.submit input).state.queue = (service.queue.submit input).state := rfl
  rw [state] at fitting
  rw [result, state]
  rcases service.queue.submit_cases input with ⟨_, same⟩ | ⟨limit, bounded, full, same⟩
  · rw [same]
    exact ⟨rfl, List.getLast?_concat⟩
  · rw [same] at fitting ⊢
    exact ⟨rfl, InputQueue.Refuses.isFull ⟨limit, rfl, bounded, full⟩ fitting⟩

/-- A running detector submits and has timers fired, and otherwise looks at
the queue at most; a pass submits what was published for later. -/
theorem coversPasses_serves (registry : Registry) :
    CoversPasses registry fun (before : Service α) log after =>
      before.queue.Serves log after.queue where
  composes := InputQueue.composes_serves Service.queue
  published _ _ _ _ := InputQueue.serves_event _ (fun _ => rfl) rfl
  postponed _ _ _ _ := InputQueue.serves_event _ (fun _ => rfl) rfl
  looked _ _ := InputQueue.serves_event _ (fun _ => ⟨rfl, rfl⟩) rfl
  unscheduled _ _ _ := InputQueue.serves_event _ (fun _ => rfl) rfl
  scheduled _ _ _ _ _ := InputQueue.serves_event _ (fun _ => rfl) rfl
  scheduledEvery _ _ _ _ _ := InputQueue.serves_event _ (fun _ => rfl) rfl
  cancelled _ _ _ := InputQueue.serves_event _ (fun _ => rfl) rfl
  fired := serves_fired
  submitted := serves_submitted
  wrote _ _ _ := InputQueue.serves_event _ (fun _ => rfl) rfl
  evaluated _ _ _ _ := InputQueue.serves_event _ (fun _ => rfl) rfl
  completed _ _ := InputQueue.serves_event _ (fun _ => rfl) rfl
  delayed service _ input _ := service.queue.submit_serves input

end Service
end ReactiveGraph
