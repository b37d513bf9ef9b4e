import Mathlib.Data.Fintype.Card
import Mathlib.Data.Set.Finite.Basic
import Mathlib.Order.WellFounded
import ReactiveGraph.Proofs.Precedence

namespace ReactiveGraph

/-!
# Cycles

The vertices are placed one by one, each once nothing that it depends on is
left.  A vertex that is never placed waits for another one that is not, and
that one for another.  There are only so many vertices, so whoever goes back
along these dependencies comes to a cycle in the end.  A vertex that has been
placed, on the other hand, has all that it depends on before it, which no
vertex of a cycle can have.  So the vertices left over are just those behind
some cycle.
-/

namespace Registry

/-- One vertex has to be visited before another: a detector before the topics
that it publishes within the pass, and a topic before its subscribers. -/
inductive Precedes (registry : Registry) : Vertex → Vertex → Prop where
  | publication {detector : DetectorId} {topic : Payload}
      (declared : registry.isDeclared detector topic .immediate = true) :
      Precedes registry (.detector detector) (.topic topic)
  | subscription {topic : Payload} {detector : DetectorId}
      (subscribed : detector ∈ registry.subscribers topic) :
      Precedes registry (.topic topic) (.detector detector)

def OnCycle (registry : Registry) (vertex : Vertex) : Prop :=
  Relation.TransGen registry.Precedes vertex vertex

/-- The vertex lies on a cycle, or can be reached from one. -/
def BehindCycle (registry : Registry) (vertex : Vertex) : Prop :=
  ∃ origin, registry.OnCycle origin ∧ Relation.ReflTransGen registry.Precedes origin vertex

theorem Precedes.ne {registry : Registry} {source target : Vertex}
    (precedes : registry.Precedes source target) : source ≠ target := by
  cases precedes <;> exact Vertex.noConfusion

theorem Sound.mem_edges_iff {registry : Registry} (sound : registry.Sound)
    {source target : Vertex} :
    (source, target) ∈ registry.edges ↔ registry.Precedes source target := by
  rw [mem_edges sound]
  constructor
  · rintro (⟨detector, topic, rfl, rfl, declared⟩ | ⟨topic, detector, rfl, rfl, subscribed⟩)
    · exact .publication declared
    · exact .subscription subscribed
  · rintro (declared | subscribed)
    · exact Or.inl ⟨_, _, rfl, rfl, declared⟩
    · exact Or.inr ⟨_, _, rfl, rfl, subscribed⟩

end Registry

namespace VisitOrder

/-- If no vertex was left over for want of rounds, each of those left over
depends on another one. -/
theorem arrange_blocked {edges : List (Vertex × Vertex)} {count : Nat} {waiting : List Vertex}
    (enough : waiting.length ≤ count) {target : Vertex}
    (left : target ∈ (arrange edges count waiting).2) :
    ∃ source ∈ (arrange edges count waiting).2, (source, target) ∈ edges := by
  induction count generalizing waiting with
  | zero =>
      rw [List.length_eq_zero_iff.mp (Nat.le_zero.mp enough)] at left
      cases left
  | succ count ih =>
      rw [arrange] at left ⊢
      cases found : waiting.find? (isReady edges waiting) with
      | none =>
          rw [found] at left
          have unready : ¬isReady edges waiting target = true :=
            List.find?_eq_none.mp found target left
          rw [isReady_iff] at unready
          push Not at unready
          rcases unready with ⟨source, edge, waits⟩
          exact ⟨source, waits, edge⟩
      | some vertex =>
          rw [found] at left
          have fewer := List.length_erase_of_mem (List.mem_of_find?_eq_some found)
          exact ih (by omega) left

end VisitOrder

namespace Registry

variable {registry : Registry}

/-- Whatever can reach a vertex that has been placed has been placed by
then. -/
theorem Sound.upstream_placed (sound : registry.Sound) {visited rest : List Vertex}
    (split : registry.placed = visited ++ rest) {source target : Vertex}
    (way : Relation.ReflTransGen registry.Precedes source target) (reached : target ∈ visited) :
    source ∈ visited := by
  induction way using Relation.ReflTransGen.head_induction_on with
  | refl => exact reached
  | head precedes _ ih =>
      have edge := sound.mem_edges_iff.mpr precedes
      exact VisitOrder.arrange_closed split edge ih (sound.edge_vertices edge).1

theorem Sound.not_placed (sound : registry.Sound) {vertex : Vertex}
    (cyclic : registry.OnCycle vertex) : vertex ∉ registry.placed := by
  intro member
  rcases List.append_of_mem member with ⟨visited, rest, split⟩
  have through : registry.placed = (visited ++ [vertex]) ++ rest := by
    rw [split, List.append_assoc, List.singleton_append]
  -- The last vertex before this one on the cycle has been placed earlier, and
  -- so has this one, from which it can be reached.
  rcases Relation.TransGen.tail'_iff.mp cyclic with ⟨last, way, precedes⟩
  have before : last ∈ visited := by
    have here := sound.upstream_placed through (.single precedes) (by simp)
    rcases List.mem_append.mp here with earlier | same
    · exact earlier
    · exact absurd (List.mem_singleton.mp same) precedes.ne
  have repeated : vertex ∈ visited := sound.upstream_placed split way before
  have nodup := sound.placed_nodup
  rw [split, List.nodup_append] at nodup
  exact nodup.2.2 vertex repeated vertex List.mem_cons_self rfl

/-- Those of the vertices from which the given one can be reached. -/
def Above (registry : Registry) (vertices : List Vertex) (vertex : Vertex) : Type :=
  { source // source ∈ vertices ∧ Relation.ReflTransGen registry.Precedes source vertex }

def Above.Before (registry : Registry) (vertices : List Vertex) (vertex : Vertex)
    (first second : registry.Above vertices vertex) : Prop :=
  Relation.TransGen registry.Precedes first.1 second.1

/-- Where each of finitely many vertices depends on another one of them, they
all lie behind cycles. -/
theorem behindCycle_of_blocked {vertices : List Vertex}
    (blocked : ∀ target ∈ vertices, ∃ source ∈ vertices, registry.Precedes source target)
    {vertex : Vertex} (member : vertex ∈ vertices) : registry.BehindCycle vertex := by
  by_contra free
  -- Without a cycle, some of those above it would have none before it.
  have finite : Finite (registry.Above vertices vertex) :=
    (vertices.finite_toSet.subset fun source above => above.1).to_subtype
  have trans : IsTrans _ (Above.Before registry vertices vertex) :=
    ⟨fun _ _ _ first second => Relation.TransGen.trans first second⟩
  have irrefl : Std.Irrefl (Above.Before registry vertices vertex) :=
    ⟨fun origin cyclic => free ⟨origin.1, cyclic, origin.2.2⟩⟩
  rcases (Finite.wellFounded_of_trans_of_irrefl (Above.Before registry vertices vertex)).has_min
    Set.univ ⟨⟨vertex, member, .refl⟩, trivial⟩ with ⟨first, _, least⟩
  rcases blocked first.1 first.2.1 with ⟨source, inside, precedes⟩
  exact least ⟨source, inside, first.2.2.head precedes⟩ trivial (.single precedes)

theorem Sound.mem_unplaced_iff (sound : registry.Sound) {vertex : Vertex} :
    vertex ∈ registry.unplaced ↔ registry.BehindCycle vertex := by
  constructor
  · apply behindCycle_of_blocked
    intro target left
    rcases VisitOrder.arrange_blocked (Nat.le_refl _) left with ⟨source, waits, edge⟩
    exact ⟨source, waits, sound.mem_edges_iff.mp edge⟩
  · rintro ⟨origin, cyclic, way⟩
    have known : vertex ∈ registry.vertices := by
      rcases Relation.TransGen.tail'_iff.mp (cyclic.trans_left way) with ⟨_, _, precedes⟩
      exact (sound.edge_vertices (sound.mem_edges_iff.mpr precedes)).2
    rcases List.mem_append.mp (registry.placed_perm.mem_iff.mpr known) with placed | left
    · exact absurd (sound.upstream_placed (List.append_nil _).symm way placed)
        (sound.not_placed cyclic)
    · exact left

theorem Sound.unplaced_eq_nil_iff (sound : registry.Sound) :
    registry.unplaced = [] ↔ ∀ vertex, ¬registry.OnCycle vertex := by
  rw [List.eq_nil_iff_forall_not_mem]
  constructor
  · intro empty vertex cyclic
    exact empty vertex (sound.mem_unplaced_iff.mpr ⟨vertex, cyclic, .refl⟩)
  · intro acyclic vertex left
    rcases sound.mem_unplaced_iff.mp left with ⟨origin, cyclic, _⟩
    exact acyclic origin cyclic

end Registry

namespace Graph

variable {α σ : Type}

/-- An evaluation order is refused for cycles and for nothing else, and so is
the seal of an open graph.  The report names those that lie behind a cycle,
and nobody else, by the numbers under which they were registered, which are
all different. -/
structure ReportsCycles (graph : Graph α σ) : Prop where
  refused : (∃ cause, VisitOrder.compute graph.registry = .error cause) ↔
    ∃ vertex, graph.registry.OnCycle vertex
  named : ∀ cause, VisitOrder.compute graph.registry = .error cause →
    ∃ stuck : List Vertex, cause = .cycle (stuck.map graph.registry.nameOf) ∧
      (stuck.Pairwise fun first second =>
        graph.registry.sequenceOf first < graph.registry.sequenceOf second) ∧
      ∀ vertex, vertex ∈ stuck ↔ graph.registry.BehindCycle vertex
  sealing : graph.isSealed = false → ∀ cause,
    graph.close = .error cause ↔ VisitOrder.compute graph.registry = .error cause

theorem cycles_reported (config : Config) (operations : List (Operation α σ)) :
    (run operations (ofConfig config)).state.ReportsCycles := by
  have reachable : (run operations (ofConfig config)).state.Reachable := ⟨config, operations, rfl⟩
  generalize (run operations (ofConfig config)).state = graph at reachable
  have sound := reachable.coherent.registry
  refine ⟨?_, ?_, ?_⟩
  · rw [sound.compute_eq]
    have acyclic := sound.unplaced_eq_nil_iff
    by_cases complete : graph.registry.unplaced = []
    · simpa [complete] using acyclic.mp complete
    · rw [if_neg complete]
      simpa using not_forall_not.mp fun free => complete (acyclic.mpr free)
  · intro cause failed
    rw [sound.compute_eq] at failed
    split at failed
    next => cases failed
    next =>
      refine ⟨graph.registry.unplaced, (Except.error.inj failed).symm, ?_, ?_⟩
      · exact (reachable.numbered.vertices_rising sound).sublist graph.registry.unplaced_sublist
      · exact fun _ => sound.mem_unplaced_iff
  · intro opened cause
    rw [close, opened]
    cases VisitOrder.compute graph.registry <;> simp

/-- Two relays feed each other, and a third one hears of it.  The one that
feeds them is not to blame, nor is the one that stands aside. -/
example :
    let graph : Graph Nat Unit := (run
      [.add (.relay [.plain "in"] [.plain "a"]),
        .add (.relay [.plain "a", .plain "c"] [.plain "b"]),
        .add (.relay [.plain "b"] [.plain "c"]), .add (.relay [.plain "c"] [.plain "out"]),
        .add (.relay [.plain "in"] [.plain "side"])] (ofConfig {})).state
    VisitOrder.compute graph.registry =
      .error (.cycle ["Relay", "c", "b", "Relay", "Relay", "out"]) := by
  decide +kernel

end Graph
end ReactiveGraph
