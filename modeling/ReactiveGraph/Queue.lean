import ReactiveGraph.Outcome

namespace ReactiveGraph

/-!
# The input queue

Stimuli reach a graph one at a time.  The queue keeps them in the order of
submission; the graph takes exactly one per pass.  Submitting never
evaluates anything, so a value submitted in the middle of a pass waits
behind the inputs that were there before it.
-/

/-- The inputs that wait for a pass of their own, the next one first.  Without
a capacity, any number may wait.  Whether a pass is running has no effect on
submissions. -/
structure InputQueue (α : Type) where
  waiting : List (Input α) := []
  capacity : Option Nat := none
  evaluating : Bool := false

namespace InputQueue

variable {α : Type}

def submit (queue : InputQueue α) (input : Input α) : Outcome α (InputQueue α) Unit :=
  let room : Outcome α (InputQueue α) Unit :=
    ⟨{ queue with waiting := queue.waiting ++ [input] }, [.accepted input], .ok ()⟩
  match queue.capacity with
  | none => room
  | some capacity =>
      if capacity ≤ queue.waiting.length then .fail queue (.inputQueueFull capacity) else room

def size (queue : InputQueue α) : Nat :=
  queue.waiting.length

def isEmpty (queue : InputQueue α) : Bool :=
  queue.waiting.isEmpty

end InputQueue

namespace Input

variable {α : Type}

/-- The value, if it is one of the given payload type. -/
def value? (input : Input α) (topic : Payload) : Option α :=
  if input.topic = topic then some input.value else none

end Input
end ReactiveGraph
