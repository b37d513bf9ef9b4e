import ReactiveGraph.Config
import ReactiveGraph.Json.Parser
import ReactiveGraph.Json.Printer

namespace ReactiveGraph
namespace Config

/-!
# Configurations as JSON

A document names the settings that differ from the defaults.  Written out, a
configuration names all of them.
-/

def fieldNames : List String :=
  ["name", "max_pending_inputs", "max_feedback_passes"]

/-- A setting, which keeps its default if the document does not name it. -/
def setting? {β : Type} (value? : Json → Option β) (default : β) : Option Json → Option β
  | none => some default
  | some json => value? json

def word? (json : Json) : Option UInt64 :=
  json.nat?.map UInt64.ofNat

def bound? : Json → Option (Option UInt64)
  | .null => some none
  | json => (word? json).map some

def ofJson? (json : Json) : Option Config := do
  match ← json.fields? fieldNames with
  | [name, pending, passes] =>
      return {
        name := ← setting? Json.text? ({} : Config).name name
        maxPendingInputs := ← setting? bound? ({} : Config).maxPendingInputs pending
        maxFeedbackPasses := ← setting? word? ({} : Config).maxFeedbackPasses passes }
  | _ => none

def toJson (config : Config) : Json :=
  .record [("name", .ofText config.name),
    ("max_pending_inputs", config.maxPendingInputs.elim .null fun bound => .ofNat bound.toNat),
    ("max_feedback_passes", .ofNat config.maxFeedbackPasses.toNat)]

def parse (reason : String → String) (text : String) : Except GraphError Config :=
  Json.decode reason ofJson? text

def render (config : Config) : String :=
  String.ofList config.toJson.compact

end Config
end ReactiveGraph
