import ReactiveGraph.Registry

namespace ReactiveGraph

/-!
# Wiring

When a detector joins a graph it declares what it reads and what it writes.
Its declarations form a small program: after each one the detector learns
whether the declaration was taken, and decides how to go on.  What was
subscribed to is recorded twice, as edges of the registry and in the
detector's own table, by which values are dispatched to it.
-/

/-- What a detector can declare about a topic: that it wants its values, that
it publishes it within a pass or into later ones, or that it schedules
timeouts for it. -/
inductive Capability where
  | subscribe
  | publish
  | publishLater
  | schedule
  deriving DecidableEq

namespace Capability

/-- The edge that the registry keeps of a declaration.  Publishing later and
scheduling both leave a delayed edge. -/
def request : Capability → EdgeRequest
  | subscribe => .subscriber
  | publish => .publisher .immediate
  | publishLater => .publisher .delayed
  | schedule => .publisher .delayed

end Capability

/-- The declarations of a detector, each followed by others that may depend on
whether it succeeded. -/
inductive Wiring where
  | finish (result : Except WiringError Unit)
  | declare (capability : Capability) (topic : Payload)
      (next : Except WiringError Unit → Wiring)

/-- A declaration as one item of a list.  If an optional one is refused, the
wiring goes on. -/
structure Declaration where
  capability : Capability
  topic : Payload
  optional : Bool := false
  deriving DecidableEq

namespace Wiring

/-- Declare the items of a list in turn, up to the first one that is refused
without being optional. -/
def ofList : List Declaration → Wiring
  | [] => finish (.ok ())
  | item :: rest =>
      declare item.capability item.topic fun answer =>
        match answer with
        | .ok () => ofList rest
        | .error error => if item.optional then ofList rest else finish (.error error)

structure Report where
  registry : Registry
  subscriptions : List Payload
  result : Except WiringError Unit

/-- Make the declarations on behalf of a detector that has subscribed to
`subscriptions` so far. -/
def run (detector : DetectorId) :
    Wiring → (registry : Registry) → (subscriptions : List Payload) → Report
  | finish result, registry, subscriptions => ⟨registry, subscriptions, result⟩
  | declare capability topic next, registry, subscriptions =>
      match registry.addEdge detector topic capability.request with
      | (registry, .error error) =>
          run detector (next (.error error)) registry subscriptions
      | (registry, .ok _) =>
          run detector (next (.ok ())) registry
            (if capability = .subscribe then subscriptions ++ [topic] else subscriptions)

end Wiring
end ReactiveGraph
