import ReactiveGraph.Routine
import ReactiveGraph.Declaration

namespace ReactiveGraph

/-!
# Detectors

A detector is a node that turns the values it is handed into values it
publishes.  The application supplies what the detector declares and what it
does when it is called; its own state may be of any type.  One detector is
built in: the lag, which hands a value on one pass later and is the only way
to close a loop.
-/

/-- What a detector with states of type `σ` does with each new value of a
topic it subscribes to, and when all new values of a pass have been handed
over. -/
structure Behaviour (α σ : Type) where
  onValue : DetectorId → Payload → α → σ → Routine α σ
  onComplete : DetectorId → σ → Routine α σ

/-- A detector as the application adds it to a graph, with the full name of
its type.  Its declarations may depend on the identifier it is going to have.
-/
structure Detector (α σ : Type) where
  typeName : String
  wiring : DetectorId → Wiring
  behaviour : Behaviour α σ
  state : σ

/-- A one-pass delay of the topic `source`.  `latest` was handed over in the
current pass; `armed` is delivered at the start of the next one. -/
structure Lag (α : Type) where
  source : Payload
  latest : Option α := none
  armed : Option α := none
  deriving DecidableEq

namespace Lag

variable {α : Type}

/-- A lag subscribes to its source and publishes the lagged source into
later passes. -/
def wiring (source : Payload) : Wiring :=
  .ofList [⟨.subscribe, source, false⟩, ⟨.publishLater, .lagged source, false⟩]

def capture (lag : Lag α) (value : α) : Lag α :=
  { lag with latest := some value }

def arm (lag : Lag α) : Lag α :=
  match lag.latest with
  | some value => { lag with latest := none, armed := some value }
  | none => lag

def disarm (lag : Lag α) : Lag α :=
  { lag with armed := none }

end Lag

inductive Resident (α σ : Type) where
  | custom (behaviour : Behaviour α σ) (state : σ)
  | lag (lag : Lag α)

namespace Resident

variable {α σ : Type}

def onValue (detector : DetectorId) (topic : Payload) (value : α) :
    Resident α σ → Routine α (Resident α σ)
  | custom behaviour state => do
      let state ← behaviour.onValue detector topic value state
      return custom behaviour state
  | lag inner => .done (lag (inner.capture value))

def onComplete (detector : DetectorId) : Resident α σ → Routine α (Resident α σ)
  | custom behaviour state => do
      let state ← behaviour.onComplete detector state
      return custom behaviour state
  | lag inner => .done (lag inner.arm)

end Resident

/-- A detector in its place, with the topics that are dispatched to it.  It is
pending once it was called in a pass, until it completes. -/
structure Slot (α σ : Type) where
  resident : Resident α σ
  subscriptions : List Payload
  pending : Bool := false

namespace Slot

variable {α σ : Type}

def lag? (slot : Slot α σ) : Option (Lag α) :=
  match slot.resident with
  | .lag lag => some lag
  | .custom .. => none

def state? (slot : Slot α σ) : Option σ :=
  match slot.resident with
  | .custom _ state => some state
  | .lag _ => none

def armed? (slot : Slot α σ) : Option (Input α) :=
  slot.lag?.bind fun lag => lag.armed.map fun value => ⟨.lagged lag.source, value⟩

def disarm (slot : Slot α σ) : Slot α σ :=
  match slot.resident with
  | .lag lag => { slot with resident := .lag lag.disarm }
  | .custom .. => slot

/-- The slot at the start of a pass, when no call is outstanding. -/
def reset (slot : Slot α σ) : Slot α σ :=
  { slot with pending := false }

end Slot
end ReactiveGraph
