import ReactiveGraph.Proofs.Delivery

namespace ReactiveGraph

/-!
# How far a pass reaches

A pass touches only what the values it opens with can reach along the edges
within a pass: nowhere else does a topic become new, is a detector handed
anything or a lag armed.  This is so wherever the pass stands, whatever the
detectors do, and also if one of them makes the pass fail.
-/

variable {α σ : Type}

/-- Values spread no further than this: from a topic to its subscribers and
from a detector to the topics that it publishes within a pass. -/
structure Registry.Spreads (registry : Registry) (reached : Vertex → Prop) : Prop where
  subscribed : ∀ topic detector, detector ∈ registry.subscribers topic →
    reached (.topic topic) → reached (.detector detector)
  published : ∀ detector topic, registry.isDeclared detector topic .immediate = true →
    reached (.detector detector) → reached (.topic topic)

namespace Live

/-- Whatever has been touched is reached. -/
structure Within (reached : Vertex → Prop) (live : Live α σ) : Prop where
  fresh : ∀ topic, live.board.isFresh topic = true → reached (.topic topic)
  touched : ∀ detector control, live.controls[detector]? = some control →
    control.pending = true ∨ control.armed?.isSome = true → reached (.detector detector)

variable {registry : Registry} {reached : Vertex → Prop}

/-- Calling a detector that is reached touches nothing beyond. -/
theorem Within.called (spreads : registry.Spreads reached) {detector : DetectorId}
    {control : Control α} {calls log : List (Event α)} {before after : Live α σ}
    (within : before.Within reached) (here : reached (.detector detector))
    (called : Called registry detector control calls before log after) : after.Within reached where
  fresh := by
    intro topic fresh
    rw [called.board, Board.isFresh_writeAll] at fresh
    rcases fresh with ⟨input, member, rfl⟩ | fresh
    · exact spreads.published detector input.topic (called.declared input member) here
    · exact within.fresh topic fresh
  touched := by
    intro other found placed touched
    by_cases same : detector = other
    · exact same ▸ here
    · rw [called.controls, List.getElem?_set_ne same] at placed
      exact within.touched other found placed touched

/-- What is reached before stays all there is. -/
def Confined (reached : Vertex → Prop) (before : Live α σ) (_ : List (Event α))
    (after : Live α σ) : Prop :=
  before.Within reached → after.Within reached

theorem composes_confined : Outcome.Composes (Confined (α := α) (σ := σ) reached) where
  stay _ := id
  append first second within := second (first within)

theorem deliver_confined (spreads : registry.Spreads reached) {topic : Payload}
    {detector : DetectorId} (here : reached (.detector detector)) (live : Live α σ) :
    Outcome.Follows (Confined reached) live (deliver registry topic detector live) := by
  intro within
  rcases deliver_cases registry topic detector live with idle | ⟨slot, value, found, new, listed⟩
  · rw [idle]
    exact within
  · exact within.called spreads here (deliver_called found new listed)

theorem complete_confined (spreads : registry.Spreads reached) (detector : DetectorId)
    (live : Live α σ) :
    Outcome.Follows (Confined reached) live (complete registry detector live) := by
  intro within
  rcases complete_cases registry detector live with idle | ⟨slot, found, pending⟩
  · rw [idle]
    exact within
  · have here := within.touched detector slot.control (controls_of_slot found) (Or.inl pending)
    exact within.called spreads here (complete_called found pending)

theorem visit_confined (spreads : registry.Spreads reached) (vertex : Vertex) (live : Live α σ) :
    Outcome.Follows (Confined reached) live (visit registry vertex live) := by
  cases vertex with
  | detector detector => exact complete_confined spreads detector live
  | topic topic =>
      intro within
      rw [visit]
      split
      next fresh =>
        have here := within.fresh topic fresh
        have all : Outcome.Follows (Confined reached) live
            (Outcome.each (deliver registry topic) (registry.subscribers topic) live) := by
          apply composes_confined.each
          intro detector subscribed
          exact deliver_confined spreads (spreads.subscribed topic detector subscribed here)
        exact all within
      next => exact within

/-- At the start of the walk, the opening values are all there is. -/
theorem opened_within {live : Live α σ} {input : Option (Input α)}
    (start : ∀ given ∈ live.armed ++ input.toList, reached (.topic given.topic)) :
    (live.opened input).Within reached where
  fresh := by
    intro topic fresh
    rw [opened, Board.isFresh_writeAll] at fresh
    rcases fresh with ⟨given, member, rfl⟩ | stale
    · exact start given member
    · cases stale
  touched := by
    intro detector control found touched
    rw [controls_opened, List.getElem?_map] at found
    rcases Option.map_eq_some_iff.mp found with ⟨before, _, rfl⟩
    rcases touched with pending | armed
    · cases pending
    · rw [Control.armed?, Control.released] at armed
      cases holds : before.reset.lag? <;> rw [holds] at armed <;> cases armed

/-- Whether or not it fails, a pass stays within reach of its opening. -/
theorem pass_within (spreads : registry.Spreads reached) (order : VisitOrder)
    {input : Option (Input α)} {live : Live α σ} (fits : registry.Fits live.shapes)
    (start : ∀ given ∈ live.armed ++ input.toList, reached (.topic given.topic)) :
    (pass registry order input live).state.Within reached := by
  rcases pass_cases order input fits with ⟨given, _, _, same⟩ | ⟨_, same⟩
  · rw [same]
    apply opened_within
    intro other member
    rw [Option.toList, List.append_nil] at member
    exact start other (List.mem_append_left _ member)
  · rw [same]
    have all : Outcome.Follows (Confined reached) (live.opened input)
        (Outcome.each (visit registry) order.walk (live.opened input)) :=
      composes_confined.each (fun vertex _ => visit_confined spreads vertex) _
    exact all (opened_within start)

end Live
end ReactiveGraph
