import Mathlib.Data.List.Chain
import ReactiveGraph.Proofs.Coherence
import ReactiveGraph.Proofs.Fifo
import ReactiveGraph.Proofs.Spreading

namespace ReactiveGraph

/-!
# Feedback through lags

Values spread along the edges within a pass, and across a lag from one pass
to the next.  The longer passes have been driven by lags alone, the more lags
have the values come through: after as many of these passes as are counted,
an armed lag lies that many lags deep.  Where no walk through the graph comes
through more lags than the limit allows, the limit is never reached.
-/

variable {α σ : Type}

/-- Whether the vertex is one of the detectors that delay a topic. -/
def Vertex.delays (delayed? : DetectorId → Option Payload) : Vertex → Bool
  | .topic _ => false
  | .detector id => (delayed? id).isSome

namespace Registry

inductive Feeds (registry : Registry) (delayed? : DetectorId → Option Payload) :
    Vertex → Vertex → Prop where
  | subscription {topic : Payload} {detector : DetectorId}
      (subscribed : detector ∈ registry.subscribers topic) :
      Feeds registry delayed? (.topic topic) (.detector detector)
  | publication {detector : DetectorId} {topic : Payload}
      (declared : registry.isDeclared detector topic .immediate = true) :
      Feeds registry delayed? (.detector detector) (.topic topic)
  | delay {detector : DetectorId} {source : Payload} (lag : delayed? detector = some source) :
      Feeds registry delayed? (.detector detector) (.topic (.lagged source))

/-- Some walk to the vertex comes through that many lags, or more, before it
gets there. -/
def Deep (registry : Registry) (delayed? : DetectorId → Option Payload) (depth : Nat)
    (vertex : Vertex) : Prop :=
  ∃ front, (front ++ [vertex]).IsChain (registry.Feeds delayed?) ∧
    depth ≤ front.countP (Vertex.delays delayed?)

variable {registry : Registry} {delayed? : DetectorId → Option Payload}

theorem deep_zero (vertex : Vertex) : registry.Deep delayed? 0 vertex :=
  ⟨[], List.isChain_singleton vertex, Nat.zero_le _⟩

/-- One edge further, the lag that has been passed counts as well. -/
theorem Deep.feeds {depth : Nat} {vertex next : Vertex} (deep : registry.Deep delayed? depth vertex)
    (feeds : registry.Feeds delayed? vertex next) :
    registry.Deep delayed? (depth + if vertex.delays delayed? then 1 else 0) next := by
  rcases deep with ⟨front, walk, counted⟩
  refine ⟨front ++ [vertex], ?_, ?_⟩
  · apply walk.append (List.isChain_singleton next)
    intro last isLast first isFirst
    rw [List.getLast?_concat] at isLast
    cases isLast
    cases isFirst
    exact feeds
  · rw [List.countP_append, List.countP_singleton]
    omega

theorem Deep.next {depth : Nat} {vertex next : Vertex} (deep : registry.Deep delayed? depth vertex)
    (feeds : registry.Feeds delayed? vertex next) : registry.Deep delayed? depth next := by
  rcases deep.feeds feeds with ⟨front, walk, counted⟩
  exact ⟨front, walk, Nat.le_trans (Nat.le_add_right _ _) counted⟩

theorem Deep.lagged {depth : Nat} {detector : DetectorId} {source : Payload}
    (deep : registry.Deep delayed? depth (.detector detector))
    (lag : delayed? detector = some source) :
    registry.Deep delayed? (depth + 1) (.topic (.lagged source)) := by
  have further := deep.feeds (.delay lag)
  rw [Vertex.delays, lag] at further
  exact further

theorem spreads_deep (registry : Registry) (delayed? : DetectorId → Option Payload) (depth : Nat) :
    registry.Spreads (registry.Deep delayed? depth) where
  subscribed _ _ subscribed deep := deep.next (.subscription subscribed)
  published _ _ declared deep := deep.next (.publication declared)

end Registry

theorem Live.lagSource?_of_armed {live : Live α σ} {detector : DetectorId} {control : Control α}
    (found : live.controls[detector]? = some control) (armed : control.armed?.isSome = true) :
    ∃ source, live.lagSource? detector = some source := by
  rcases Option.isSome_iff_exists.mp armed with ⟨input, armed⟩
  rcases Option.bind_eq_some_iff.mp armed with ⟨lag, holds, _⟩
  refine ⟨lag.source, ?_⟩
  rw [lagSource?, lag?_iff.mpr ⟨control, found, holds⟩]
  rfl

namespace Graph

/-! ## Walks through a graph -/

/-- The edges of a graph, with those across its lags. -/
def Feeds (graph : Graph α σ) : Vertex → Vertex → Prop :=
  graph.registry.Feeds graph.lagSource?

def delays (graph : Graph α σ) : Vertex → Bool :=
  Vertex.delays graph.lagSource?

/-- No walk comes through more lags than there may be passes in a row that
lags drive alone. -/
def Shallow (graph : Graph α σ) : Prop :=
  ∀ walk : List Vertex, walk.IsChain graph.Feeds →
    walk.countP graph.delays ≤ graph.config.maxFeedbackPasses.toNat

/-- It is enough to rank the vertices up to the limit, such that the rank
never falls along an edge and rises across a lag. -/
theorem shallow_of_rank {graph : Graph α σ} (rank : Vertex → Nat)
    (along : ∀ vertex next, graph.Feeds vertex next →
      rank vertex + (if graph.delays vertex then 1 else 0) ≤ rank next)
    (limited : ∀ vertex, rank vertex + (if graph.delays vertex then 1 else 0) ≤
      graph.config.maxFeedbackPasses.toNat) : graph.Shallow := by
  have starting : ∀ (walk : List Vertex) first, (first :: walk).IsChain graph.Feeds →
      rank first + (first :: walk).countP graph.delays ≤
        graph.config.maxFeedbackPasses.toNat := by
    intro walk
    induction walk with
    | nil =>
        intro first _
        rw [List.countP_singleton]
        exact limited first
    | cons next rest ih =>
        intro first chain
        rcases List.isChain_cons_cons.mp chain with ⟨feeds, chain⟩
        have rises := along first next feeds
        have beyond := ih next chain
        rw [List.countP_cons]
        omega
  intro walk chain
  cases walk with
  | nil => exact Nat.zero_le _
  | cons first rest => exact Nat.le_trans (Nat.le_add_left _ _) (starting rest first chain)

/-- Every armed lag lies as deep as there have been passes in a row that lags
drove alone. -/
def ArmedDeep (graph : Graph α σ) : Prop :=
  ∀ detector control, graph.controls[detector]? = some control →
    control.armed?.isSome = true →
      graph.registry.Deep graph.lagSource? graph.feedbackPasses (.detector detector)

theorem armedDeep_of_unarmed {graph : Graph α σ} (unarmed : graph.armed = []) :
    graph.ArmedDeep := by
  intro detector control found armed
  rcases Live.slot_of_controls found with ⟨slot, placed, rfl⟩
  have idle := List.filterMap_eq_nil_iff.mp unarmed slot (List.mem_of_getElem? placed)
  rw [Slot.control_armed?, idle] at armed
  cases armed

/-- Where lags drive a pass alone, it starts one lag deeper. -/
theorem ArmedDeep.lagged {graph : Graph α σ} (deep : graph.ArmedDeep) :
    ∀ input ∈ graph.armed, graph.registry.Deep graph.lagSource? (graph.feedbackPasses + 1)
      (.topic input.topic) := by
  intro input member
  rcases Live.mem_armed.mp member with ⟨detector, lag, value, holds, armed, rfl⟩
  rcases Live.lag?_iff.mp holds with ⟨control, found, same⟩
  have delivers : control.armed?.isSome = true := by
    rw [Control.armed?, same, Option.bind_some, armed]
    rfl
  apply (deep detector control found delivers).lagged
  rw [Live.lagSource?, holds]
  rfl

theorem lagSource?_nextPass (graph : Graph α σ) :
    graph.nextPass.state.lagSource? = graph.lagSource? := by
  rw [Live.lagSource?_eq, Live.lagSource?_eq, shapes_nextPass]

theorem ArmedDeep.rested {graph : Graph α σ} (coherent : graph.Coherent) (deep : graph.ArmedDeep) :
    (graph.rested graph.nextPass.state).ArmedDeep := by
  have fits : graph.registry.Fits graph.poised.shapes := coherent.fits
  have same : (graph.rested graph.nextPass.state).lagSource? = graph.lagSource? :=
    graph.lagSource?_nextPass
  intro detector control found armed
  rw [same]
  cases waiting : graph.queue.waiting with
  | cons input rest =>
      have fresh : (graph.rested graph.nextPass.state).feedbackPasses = 0 := by
        rw [Graph.rested, waiting]
        rfl
      rw [fresh]
      exact Registry.deep_zero _
  | nil =>
      have counted : (graph.rested graph.nextPass.state).feedbackPasses =
          graph.feedbackPasses + 1 := by
        rw [Graph.rested, waiting]
        rfl
      have within : graph.nextPass.state.Within
          (graph.registry.Deep graph.lagSource? (graph.feedbackPasses + 1)) := by
        apply Live.pass_within (Registry.spreads_deep _ _ _) graph.order fits
        intro given member
        rw [waiting, List.head?_nil, Option.toList, List.append_nil] at member
        exact deep.lagged given member
      rw [counted]
      exact within.touched detector control found (Or.inr armed)

theorem armed_givenUp (graph : Graph α σ) : graph.givenUp.armed = [] := by
  rw [Live.armed, givenUp, List.filterMap_map, List.filterMap_eq_nil_iff]
  intro slot _
  rw [Function.comp_apply, ← Slot.control_armed?, Slot.control_disarm, Control.armed?,
    Control.released]
  cases slot.control.lag? <;> rfl

theorem lag?_givenUp {graph : Graph α σ} {detector : DetectorId} {lag : Lag α}
    (holds : graph.givenUp.lag? detector = some lag) : lag.armed = none := by
  cases armed : lag.armed with
  | none => rfl
  | some value =>
      have member := Live.mem_armed.mpr ⟨detector, lag, value, holds, armed, rfl⟩
      rw [armed_givenUp] at member
      cases member

theorem ArmedDeep.stepSealed {graph : Graph α σ} (coherent : graph.Coherent)
    (deep : graph.ArmedDeep) : graph.stepSealed.state.ArmedDeep := by
  rcases graph.stepSealed_cases with ⟨_, _, idle⟩ | ⟨_, _, _, givenUp⟩ | ⟨_, passes⟩
  · rw [idle]
    exact deep
  · rw [givenUp]
    exact armedDeep_of_unarmed graph.armed_givenUp
  · rw [passes]
    exact deep.rested coherent

theorem ArmedDeep.step {graph : Graph α σ} (coherent : graph.Coherent) (deep : graph.ArmedDeep) :
    graph.step.state.ArmedDeep := by
  rw [Graph.step]
  cases answer : graph.close with
  | error error => exact deep
  | ok closed =>
      have closedDeep : closed.ArmedDeep := by
        cases before : graph.isSealed with
        | true =>
            rw [close_sealed before] at answer
            cases answer
            exact deep
        | false =>
            rcases close_open before answer with ⟨order, _, rfl⟩
            exact armedDeep_of_unarmed (coherent.unarmed before)
      exact closedDeep.stepSealed (coherent.close answer)

theorem armed_perform {operation : Operation α σ} (quiet : operation ≠ .step)
    (graph : Graph α σ) : (perform operation graph).state.armed = graph.armed := by
  rcases (graph.perform_unevaluated quiet).slots with ⟨joined, slots, idle⟩
  simp only [Live.armed, slots, List.filterMap_append, List.filterMap_eq_nil_iff.mpr idle,
    List.append_nil]

theorem ArmedDeep.perform {graph : Graph α σ} (coherent : graph.Coherent) (deep : graph.ArmedDeep)
    (operation : Operation α σ) : (Graph.perform operation graph).state.ArmedDeep := by
  by_cases stepping : operation = .step
  · subst stepping
    exact deep.step coherent
  · cases before : graph.isSealed with
    | false =>
        apply armedDeep_of_unarmed
        rw [armed_perform stepping]
        exact coherent.unarmed before
    | true =>
        rcases perform_sealed before operation with isStep | ⟨service, same⟩
        · exact absurd isStep stepping
        · rw [same]
          exact deep

theorem Reachable.armedDeep {graph : Graph α σ} (reachable : graph.Reachable) :
    graph.ArmedDeep := by
  have both : graph.Coherent ∧ graph.ArmedDeep := by
    apply Reachable.invariant (P := fun graph => graph.Coherent ∧ graph.ArmedDeep) ?_ ?_ reachable
    · intro config
      exact ⟨coherent_ofConfig config, armedDeep_of_unarmed rfl⟩
    · rintro operation before ⟨coherent, deep⟩
      exact ⟨coherent.perform operation, deep.perform coherent operation⟩
  exact both.2

/-! ## The limit -/

/-- What a sealed graph keeps for good. -/
structure Keeps (before after : Graph α σ) : Prop where
  registry : after.registry = before.registry
  config : after.config = before.config
  lags : after.lagSource? = before.lagSource?

theorem Keeps.isSealed {before after : Graph α σ} (keeps : before.Keeps after) :
    after.isSealed = before.isSealed := by
  rw [Graph.isSealed, keeps.registry, Graph.isSealed]

theorem Keeps.shallow {before after : Graph α σ} (keeps : before.Keeps after)
    (shallow : before.Shallow) : after.Shallow := by
  rw [Shallow, Feeds, delays, keeps.registry, keeps.config, keeps.lags]
  exact shallow

theorem Keeps.trans {first middle last : Graph α σ} (before : first.Keeps middle)
    (after : middle.Keeps last) : first.Keeps last :=
  ⟨after.registry.trans before.registry, after.config.trans before.config,
    after.lags.trans before.lags⟩

theorem stepSealed_keeps (graph : Graph α σ) : graph.Keeps graph.stepSealed.state := by
  rcases graph.stepSealed_cases with ⟨_, _, idle⟩ | ⟨_, _, _, givenUp⟩ | ⟨_, passes⟩
  · rw [idle]
    exact ⟨rfl, rfl, rfl⟩
  · rw [givenUp]
    have shapes : graph.givenUp.shapes = graph.shapes := Live.shapes_disarm rfl
    refine ⟨rfl, rfl, ?_⟩
    rw [Live.lagSource?_eq, Live.lagSource?_eq, Outcome.fail, shapes]
  · rw [passes]
    exact ⟨rfl, rfl, graph.lagSource?_nextPass⟩

theorem run_keeps {graph : Graph α σ} (closed : graph.isSealed = true)
    (operations : List (Operation α σ)) : graph.Keeps (run operations graph).state := by
  apply run_invariant (P := graph.Keeps)
  · intro operation other keeps
    have still : other.isSealed = true := keeps.isSealed.trans closed
    apply keeps.trans
    rcases perform_sealed still operation with rfl | ⟨service, same⟩
    · rw [perform, Outcome.regardless, step, close_sealed still]
      exact other.stepSealed_keeps
    · rw [same]
      exact ⟨rfl, rfl, rfl⟩
  · exact ⟨rfl, rfl, rfl⟩

theorem feedbackPasses_lt {graph : Graph α σ} (deep : graph.ArmedDeep) (shallow : graph.Shallow)
    (armed : graph.isArmed = true) :
    graph.feedbackPasses < graph.config.maxFeedbackPasses.toNat := by
  rcases List.any_eq_true.mp armed with ⟨slot, member, delivers⟩
  rcases List.getElem?_of_mem member with ⟨detector, placed⟩
  have found : graph.controls[detector]? = some slot.control := Live.controls_of_slot placed
  rcases deep detector slot.control found delivers with ⟨front, walk, counted⟩
  rcases Live.lagSource?_of_armed found delivers with ⟨source, isLag⟩
  have last : graph.delays (.detector detector) = true := by
    rw [delays, Vertex.delays, isLag]
    rfl
  have walk : (front ++ [Vertex.detector detector]).IsChain graph.Feeds := walk
  have limited := shallow _ walk
  rw [List.countP_append, List.countP_singleton, if_pos last] at limited
  have counted : graph.feedbackPasses ≤ front.countP graph.delays := counted
  omega

/-- A pass is stopped neither by the limit nor by a defect of the wiring. -/
theorem nextPass_fails {graph : Graph α σ} {error : GraphError}
    (failed : graph.nextPass.result = .error error) :
    (∀ limit, error ≠ .feedbackLimit limit) ∧ ∀ cause, error ≠ .wiring cause := by
  have why := Live.pass_fails _ _ _ _ error failed
  constructor
  · rintro limit rfl
    rcases why with ⟨topic, wrong⟩ | ⟨detector, topic, wrong⟩ | ⟨capacity, wrong, _⟩ <;> cases wrong
  · rintro cause rfl
    rcases why with ⟨topic, wrong⟩ | ⟨detector, topic, wrong⟩ | ⟨capacity, wrong, _⟩ <;> cases wrong

theorem step_unlimited {graph : Graph α σ} (deep : graph.ArmedDeep)
    (closed : graph.isSealed = true) (shallow : graph.Shallow) (limit : Nat) :
    graph.step.result ≠ .error (.feedbackLimit limit) := by
  intro failed
  rw [step, close_sealed closed] at failed
  rcases graph.stepSealed_cases with
    ⟨_, _, idle⟩ | ⟨_, armed, exhausted, _⟩ | ⟨_, passes⟩
  · simp only [idle] at failed
    cases failed
  · have below := feedbackPasses_lt deep shallow armed
    omega
  · simp only [passes] at failed
    cases result : graph.nextPass.result with
    | ok =>
        rw [result] at failed
        cases failed
    | error cause =>
        rw [result] at failed
        cases failed
        exact (nextPass_fails result).1 limit rfl

/-- If no walk through a sealed graph comes through more lags than there may
be passes in a row that lags drive alone, then no step of its whole history
exceeds the limit. -/
theorem feedback_settles {graph : Graph α σ} (reachable : graph.Reachable)
    (closed : graph.isSealed = true) (shallow : graph.Shallow)
    (operations : List (Operation α σ)) (limit : Nat) :
    (run operations graph).state.step.result ≠ .error (.feedbackLimit limit) := by
  have keeps := run_keeps closed operations
  have deep := (reachable.run operations).armedDeep
  exact step_unlimited deep (keeps.isSealed.trans closed) (keeps.shallow shallow) limit

/-- A topic whose lagged form is delayed once more, and leave for two passes
that lags drive alone. -/
def echoes : Graph Nat Unit :=
  (run [.addLag (.plain "in"), .addLag (.lagged (.plain "in")), .close]
    (ofConfig { maxFeedbackPasses := 2 })).state

/-- How many lags come before a vertex of the two lags in a row. -/
def echoRank : Vertex → Nat
  | .detector id => min id 2
  | .topic (.plain _) => 0
  | .topic (.lagged (.plain _)) => 1
  | .topic (.lagged (.lagged _)) => 2

theorem lagSource?_echoes {detector : DetectorId} {source : Payload}
    (isLag : echoes.lagSource? detector = some source) :
    (detector = 0 ∧ source = .plain "in") ∨ (detector = 1 ∧ source = .lagged (.plain "in")) := by
  rw [Live.lagSource?_eq] at isLag
  have shapes : echoes.shapes = [([.plain "in"], some (.plain "in")),
      ([.lagged (.plain "in")], some (.lagged (.plain "in")))] := rfl
  rw [shapes] at isLag
  cases detector with
  | zero =>
      cases isLag
      exact Or.inl ⟨rfl, rfl⟩
  | succ before =>
      cases before with
      | zero =>
          cases isLag
          exact Or.inr ⟨rfl, rfl⟩
      | succ beyond => cases isLag

theorem shallow_echoes : echoes.Shallow := by
  have sound : echoes.registry.Sound := (Reachable.coherent ⟨_, _, rfl⟩ : echoes.Coherent).registry
  have edges : echoes.registry.edges =
      [(.topic (.plain "in"), .detector 0), (.topic (.lagged (.plain "in")), .detector 1)] := rfl
  apply shallow_of_rank echoRank
  · intro vertex next feeds
    cases feeds with
    | subscription subscribed =>
        have edge := Registry.edge_of_subscriber sound subscribed
        rw [edges] at edge
        rcases List.mem_pair.mp edge with same | same
        · cases same
          decide
        · cases same
          decide
    | publication declared =>
        have edge := Registry.edge_of_publisher sound declared
        rw [edges] at edge
        rcases List.mem_pair.mp edge with same | same
        · cases same
        · cases same
    | delay isLag =>
        rcases lagSource?_echoes isLag with ⟨rfl, rfl⟩ | ⟨rfl, rfl⟩
        · decide
        · decide
  · intro vertex
    cases vertex with
    | topic payload =>
        rcases payload with name | name | source
        · exact Nat.zero_le 2
        · exact Nat.le_succ 1
        · exact Nat.le_refl 2
    | detector id =>
        cases isLag : echoes.lagSource? id with
        | none =>
            rw [delays, Vertex.delays, isLag]
            exact Nat.min_le_right id 2
        | some source =>
            rcases lagSource?_echoes isLag with ⟨rfl, rfl⟩ | ⟨rfl, rfl⟩
            · decide
            · decide

/-- Fed with three, the two lags come to rest. -/
theorem echoes_settle :
    (run [.push ⟨.plain "in", 3⟩, .step, .step, .step] echoes).state.step.result ≠
      .error (.feedbackLimit 2) :=
  feedback_settles ⟨_, _, rfl⟩ rfl shallow_echoes _ 2

/-- With leave for one such pass only, the second one is too many. -/
example :
    (run [.addLag (.plain "in"), .addLag (.lagged (.plain "in")), .push ⟨.plain "in", 3⟩, .step,
      .step] (ofConfig { maxFeedbackPasses := 1 } : Graph Nat Unit)).state.step.result =
        .error (.feedbackLimit 1) := rfl

end Graph
end ReactiveGraph
