namespace ReactiveGraph

/-!
# Configuration

Every setting of a graph has a default.
-/

/-- A configuration bounds how many inputs may wait in the queue, if at all,
and how many passes in a row may be driven by lags alone. -/
structure Config where
  name : String := "graph"
  maxPendingInputs : Option UInt64 := none
  maxFeedbackPasses : UInt64 := 64
  deriving DecidableEq

namespace Config

def named (config : Config) (name : String) : Config :=
  { config with name }

def withMaxPendingInputs (config : Config) (capacity : UInt64) : Config :=
  { config with maxPendingInputs := some capacity }

def withMaxFeedbackPasses (config : Config) (passes : UInt64) : Config :=
  { config with maxFeedbackPasses := passes }

end Config

end ReactiveGraph
