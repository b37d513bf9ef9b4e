import ReactiveGraph.Graph.Evaluation

namespace ReactiveGraph
namespace Container

/-!
# Containers

A container wraps a graph and looks at it after every pass, while the topics
still tell which values are new.  What it sees is an observation computed
from the graph; the graph itself is driven exactly as without it.
-/

variable {α σ ω : Type}

inductive Entry (α ω : Type) where
  | event (event : Event α)
  | output (observation : ω)

structure Report (α σ ω : Type) where
  graph : Graph α σ
  log : List (Entry α ω)
  result : Except GraphError Nat

def Report.behind (report : Report α σ ω) (log : List (Entry α ω)) : Report α σ ω :=
  { report with log := log ++ report.log }

/-- Run every pass that is pending and observe the graph after each. -/
def settle (observe : Graph α σ → ω) :
    (fuel : Nat) → Graph α σ → Option (Report α σ ω)
  | 0, _ => none
  | fuel + 1, graph =>
      let step := graph.step
      let events := step.events.map Entry.event
      match step.result with
      | .error error => some ⟨step.state, events, .error error⟩
      | .ok false => some ⟨step.state, events, .ok 0⟩
      | .ok true =>
          (settle observe fuel step.state).map fun rest =>
            { rest with
              log := events ++ .output (observe step.state) :: rest.log
              result := rest.result.map (· + 1) }

/-- Run what is pending after an activity on the graph, unless it failed. -/
def settleAfter {β : Type} (observe : Graph α σ → ω) (fuel : Nat)
    (first : Outcome α (Graph α σ) β) : Option (Report α σ ω) :=
  let events := first.events.map Entry.event
  match first.result with
  | .error error => some ⟨first.state, events, .error error⟩
  | .ok _ => (settle observe fuel first.state).map (·.behind events)

def feed (observe : Graph α σ → ω) (fuel : Nat) (graph : Graph α σ) (input : Input α) :
    Option (Report α σ ω) :=
  settleAfter observe fuel (graph.push input)

def tick (observe : Graph α σ → ω) (fuel : Nat) (graph : Graph α σ) (now : Time) :
    Option (Report α σ ω) :=
  settleAfter observe fuel (graph.fire now)

end Container
end ReactiveGraph
