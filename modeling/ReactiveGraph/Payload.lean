import ReactiveGraph.TypeName

namespace ReactiveGraph

/-!
# Payload types

A topic is identified by the type of the values it carries.  Such a type is
either declared by the application, and then known by its full name, or it
is the lagged form of another one: the type under which a value is seen
again one pass later.
-/

/-- The type of the values of one topic, and with it the topic's identity: a
type of the application, by its full name, or the type that carries the values
of another one a pass later. -/
inductive Payload where
  | plain (typeName : String)
  | lagged (source : Payload)
  deriving DecidableEq

namespace Payload

def fullName : Payload → String
  | plain typeName => typeName
  | lagged source => "detector_graph_core::lag::Lagged<" ++ source.fullName ++ ">"

/-- The short name, under which the topic appears in messages and views. -/
def name (payload : Payload) : String :=
  shortName payload.fullName

def lagName (source : Payload) : String :=
  "detector_graph_core::lag::Lag<" ++ source.fullName ++ ">"

end Payload
end ReactiveGraph
