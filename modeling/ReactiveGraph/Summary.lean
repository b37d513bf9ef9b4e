import ReactiveGraph.Graph.Basic
import ReactiveGraph.Text.Quoted

namespace ReactiveGraph

/-!
# Summaries

One line of text per object, for logs and debuggers.
-/

namespace Summary

def ofBool : Bool → String
  | true => "true"
  | false => "false"

def ofBound : Option Nat → String
  | some bound => "Some(" ++ Text.decimal bound ++ ")"
  | none => "None"

/-- The name of a type of object and its fields, with a mark at the end if
there is more to the object than is shown. -/
def ofFields (typeName : String) (fields : List (String × String)) (more : Bool) : String :=
  typeName ++ " \x7b " ++
    ", ".intercalate ((fields.map fun field => field.1 ++ ": " ++ field.2) ++
      if more then [".."] else []) ++ " \x7d"

end Summary

open Summary

/-- An input shows the type of its value. -/
def Input.summary {α : Type} (input : Input α) : String :=
  ofFields "PendingInput" [("type_name", Text.quoted input.topic.fullName)] true

def InputQueue.summary {α : Type} (queue : InputQueue α) : String :=
  ofFields "GraphInputQueue"
    [("pending", Text.decimal queue.size), ("capacity", ofBound queue.capacity),
      ("evaluating", ofBool queue.evaluating)] false

def Timetable.summary {α : Type} (table : Timetable α) : String :=
  ofFields "TimeoutPublisherService"
    [("now", Text.decimal table.now.toNat), ("pending", Text.decimal table.size)] true

def Registry.summary (registry : Registry) : String :=
  ofFields "TopicRegistry"
    [("topic_count", Text.decimal registry.topics.length),
      ("detector_count", Text.decimal registry.detectors.length),
      ("sealed", ofBool registry.sealed)] true

def Lag.summary {α : Type} (lag : Lag α) : String :=
  ofFields "Lag" [("armed", ofBool lag.armed.isSome)] false

def Graph.summary {α σ : Type} (graph : Graph α σ) : String :=
  ofFields "Graph"
    [("name", Text.quoted graph.config.name),
      ("topics", Text.decimal graph.registry.topics.length),
      ("detectors", Text.decimal graph.slots.length),
      ("sealed", ofBool graph.isSealed),
      ("pending_inputs", Text.decimal graph.queue.size),
      ("pass_count", Text.decimal graph.passCount)] true

end ReactiveGraph
