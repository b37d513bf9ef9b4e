import ReactiveGraph.Error
import ReactiveGraph.Payload

namespace ReactiveGraph

/-!
# Inputs, events and outcomes

Everything a graph does is described by an outcome: the state that was
reached, the events that happened on the way, in order, and a result or the
error that stopped the activity.  An activity that fails is abandoned where
it stood, so the state and the events are meaningful in both cases.
-/

/-- The position of a detector in the order of construction. -/
abbrev DetectorId := Nat

abbrev Handle := Nat

/-- A value on its way to the topic of its payload type. -/
structure Input (α : Type) where
  topic : Payload
  value : α
  deriving DecidableEq

/-- One thing that happened while a graph was running.  The queue, the topics
and the timeouts have events of their own; the others tell what the running
detector was called for and what it did.  A timeout that is asked for without
a declared edge is given no handle. -/
inductive Event (α : Type) where
  | consumed (input : Input α)
  | accepted (input : Input α)
  | elapsed (handle : Handle)
  | wrote (topic : Payload) (value : α)
  | evaluated (detector : DetectorId) (topic : Payload) (value : α)
  | completed (detector : DetectorId)
  | published (detector : DetectorId) (topic : Payload) (value : α)
  | postponed (detector : DetectorId) (topic : Payload) (value : α)
  | scheduled (detector : DetectorId) (topic : Payload) (handle : Option Handle)
  | submitted (detector : DetectorId) (input : Input α) (result : Except GraphError Unit)
  | cancelled (detector : DetectorId) (handle : Handle) (wasPending : Bool)
  | fired (detector : DetectorId) (result : Except GraphError Nat)
  | looked (detector : DetectorId) (waiting : Nat) (evaluating : Bool)

structure Outcome (α S β : Type) where
  state : S
  events : List (Event α)
  result : Except GraphError β

namespace Outcome

variable {α S β γ X : Type}

def done (state : S) (value : β) : Outcome α S β :=
  ⟨state, [], .ok value⟩

def fail (state : S) (error : GraphError) : Outcome α S β :=
  ⟨state, [], .error error⟩

def behind (outcome : Outcome α S β) (events : List (Event α)) : Outcome α S β :=
  { outcome with events := events ++ outcome.events }

/-- Continue from the state reached, unless the first activity failed. -/
def andThen (first : Outcome α S β) (next : β → S → Outcome α S γ) : Outcome α S γ :=
  match first.result with
  | .error error => ⟨first.state, first.events, .error error⟩
  | .ok value => (next value first.state).behind first.events

/-- Carry the activity out for each item in turn, up to the first failure. -/
def each (act : X → S → Outcome α S Unit) : List X → S → Outcome α S Unit
  | [], state => done state ()
  | item :: rest, state => (act item state).andThen fun _ => each act rest

theorem andThen_fail (state : S) (error : GraphError) (next : β → S → Outcome α S γ) :
    (fail state error).andThen next = fail state error :=
  rfl

theorem andThen_done (state : S) (value : β) (next : β → S → Outcome α S γ) :
    (done state value).andThen next = next value state :=
  rfl

theorem andThen_assoc {δ : Type} (first : Outcome α S β) (second : β → S → Outcome α S γ)
    (third : γ → S → Outcome α S δ) :
    (first.andThen second).andThen third =
      first.andThen fun value state => (second value state).andThen third := by
  obtain ⟨state, events, result⟩ := first
  cases result with
  | error error => rfl
  | ok value =>
      simp only [andThen, behind]
      cases (second value state).result with
      | error error => rfl
      | ok value => simp only [List.append_assoc]

theorem each_append (act : X → S → Outcome α S Unit) (front back : List X) (state : S) :
    each act (front ++ back) state = (each act front state).andThen fun _ => each act back := by
  induction front generalizing state with
  | nil => rfl
  | cons item rest ih =>
      simp only [List.cons_append, each, andThen_assoc]
      congr 1
      funext _ next
      exact ih next

/-- The same outcome seen in a larger state, into which `embed` puts the
state that was reached. -/
def within {T : Type} (embed : S → T) (outcome : Outcome α S β) : Outcome α T β :=
  ⟨embed outcome.state, outcome.events, outcome.result⟩

end Outcome
end ReactiveGraph
