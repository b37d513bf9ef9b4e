import Mathlib.Data.List.Nodup
import Mathlib.Data.List.Perm.Subperm
import ReactiveGraph.Order
import ReactiveGraph.Proofs.Sorting

namespace ReactiveGraph

/-!
# What is still waiting

The sort keeps counters.  What it does can be told without them, by looking
at the vertices that are still waiting: each time the first of them is placed
that depends on none of the others.  The counters agree with this, since
every edge is counted once.  A vertex becomes ready once, when the last one
that it depends on is placed, and no counter is ever taken below zero.
-/

namespace VisitOrder

/-- Whether nothing that is still waiting has to come before the vertex. -/
def isReady (edges : List (Vertex × Vertex)) (waiting : List Vertex) (vertex : Vertex) : Bool :=
  edges.all fun edge => edge.2 ≠ vertex || !waiting.contains edge.1

/-- Place up to `count` of the waiting vertices, each time the first one
that is ready.  The result is the placed vertices in order, with those left
over. -/
def arrange (edges : List (Vertex × Vertex)) :
    (count : Nat) → (waiting : List Vertex) → List Vertex × List Vertex
  | 0, waiting => ([], waiting)
  | count + 1, waiting =>
      match waiting.find? (isReady edges waiting) with
      | none => ([], waiting)
      | some vertex =>
          let later := arrange edges count (waiting.erase vertex)
          (vertex :: later.1, later.2)

theorem isReady_iff {edges : List (Vertex × Vertex)} {waiting : List Vertex}
    {target : Vertex} :
    isReady edges waiting target = true ↔
      ∀ source, (source, target) ∈ edges → source ∉ waiting := by
  rw [isReady, List.all_eq_true]
  constructor
  · intro held source edge waits
    simpa [waits] using held _ edge
  · rintro gone ⟨source, other⟩ edge
    by_cases here : other = target
    · subst here
      simp [gone source edge]
    · simp [here]

theorem arrange_perm (edges : List (Vertex × Vertex)) (count : Nat) (waiting : List Vertex) :
    ((arrange edges count waiting).1 ++ (arrange edges count waiting).2).Perm waiting := by
  induction count generalizing waiting with
  | zero => exact List.Perm.refl _
  | succ count ih =>
      rw [arrange]
      cases found : waiting.find? (isReady edges waiting) with
      | none => exact List.Perm.refl _
      | some vertex =>
          have member := List.mem_of_find?_eq_some found
          exact ((ih (waiting.erase vertex)).cons vertex).trans (List.perm_cons_erase member).symm

/-- A vertex is placed once nothing it depends on is waiting any more. -/
theorem arrange_closed {edges : List (Vertex × Vertex)} {count : Nat} {waiting : List Vertex}
    {visited rest : List Vertex} (placed : (arrange edges count waiting).1 = visited ++ rest)
    {source target : Vertex} (edge : (source, target) ∈ edges) (reached : target ∈ visited)
    (waits : source ∈ waiting) : source ∈ visited := by
  induction count generalizing waiting visited with
  | zero =>
      rcases List.append_eq_nil_iff.mp placed.symm with ⟨rfl, _⟩
      cases reached
  | succ count ih =>
      rw [arrange] at placed
      cases found : waiting.find? (isReady edges waiting) with
      | none =>
          rw [found] at placed
          rcases List.append_eq_nil_iff.mp placed.symm with ⟨rfl, _⟩
          cases reached
      | some vertex =>
          rw [found] at placed
          cases visited with
          | nil => cases reached
          | cons head tail =>
              rcases List.cons.inj placed with ⟨rfl, later⟩
              by_cases here : source = vertex
              · exact here ▸ List.mem_cons_self
              · rcases List.mem_cons.mp reached with same | inTail
                · subst same
                  exact absurd waits (isReady_iff.mp (List.find?_some found) source edge)
                · exact List.mem_cons_of_mem vertex
                    (ih later inTail ((List.mem_erase_of_ne here).mpr waits))

/-- What is left over has waited from the start, in the same order. -/
theorem arrange_sublist (edges : List (Vertex × Vertex)) (count : Nat) (waiting : List Vertex) :
    (arrange edges count waiting).2.Sublist waiting := by
  induction count generalizing waiting with
  | zero => exact List.Sublist.refl _
  | succ count ih =>
      rw [arrange]
      cases waiting.find? (isReady edges waiting) with
      | none => exact List.Sublist.refl _
      | some vertex => exact (ih _).trans List.erase_sublist

/-- No vertex is listed twice, and the edges lead from one listed vertex to
another. -/
structure Proper (order : VisitOrder) : Prop where
  nodup : order.vertices.Nodup
  source : ∀ {source target}, (source, target) ∈ order.edges → source ∈ order.vertices
  target : ∀ {source target}, (source, target) ∈ order.edges → target ∈ order.vertices

/-- The vertices that have to come before the given one, each once. -/
def sources (order : VisitOrder) (vertex : Vertex) : List Vertex :=
  ((order.edges.filter fun edge => edge.2 = vertex).map Prod.fst).eraseDups

variable {order : VisitOrder}

theorem nodup_eraseDups {α : Type} [DecidableEq α] (items : List α) : items.eraseDups.Nodup := by
  cases items with
  | nil => simp
  | cons head tail =>
      rw [List.eraseDups_cons, List.nodup_cons]
      exact ⟨by simp, nodup_eraseDups _⟩
termination_by items.length
decreasing_by
  have fewer := List.length_filter_le (fun item => !item == head) tail
  rw [List.length_cons]
  omega

theorem pair_sublist {α : Type} {first second : α} {front back : List α}
    (member : first ∈ front) : [first, second].Sublist (front ++ second :: back) :=
  (List.singleton_sublist.mpr member).append (List.singleton_sublist.mpr List.mem_cons_self)

theorem idxOf?_eq_some_iff {α : Type} [DecidableEq α] {items : List α} (nodup : items.Nodup)
    {item : α} {position : Nat} :
    items.idxOf? item = some position ↔ items[position]? = some item := by
  rw [List.idxOf?_eq_some_iff, List.getElem?_eq_some_iff]
  constructor
  · rintro ⟨bound, same, _⟩
    exact ⟨bound, same⟩
  · rintro ⟨bound, same⟩
    refine ⟨bound, same, fun earlier before again => ?_⟩
    have equal := nodup.getElem_inj_iff.mp (again.trans same.symm)
    omega

theorem exists_id {vertex : Vertex} (member : vertex ∈ order.vertices) :
    ∃ id, order.vertex? id = some vertex :=
  List.mem_iff_getElem?.mp member

theorem sources_nodup (order : VisitOrder) (vertex : Vertex) : (order.sources vertex).Nodup :=
  nodup_eraseDups _

theorem mem_sources {source target : Vertex} :
    source ∈ order.sources target ↔ (source, target) ∈ order.edges := by
  simp [sources]

namespace Proper

theorem id_unique (proper : order.Proper) {vertex : Vertex} {first second : VertexId}
    (isFirst : order.vertex? first = some vertex) (isSecond : order.vertex? second = some vertex) :
    first = second := by
  have bound := (List.getElem?_eq_some_iff.mp isFirst).1
  exact (List.getElem?_inj bound proper.nodup).mp (isFirst.trans isSecond.symm)

theorem id?_eq_some_iff (proper : order.Proper) {vertex : Vertex} {id : VertexId} :
    order.id? vertex = some id ↔ order.vertex? id = some vertex :=
  idxOf?_eq_some_iff proper.nodup

/-- A vertex that is listed earlier has the lower identifier. -/
theorem id_lt (proper : order.Proper) {first second : Vertex}
    (before : [first, second].Sublist order.vertices) {low high : VertexId}
    (isFirst : order.vertex? low = some first) (isSecond : order.vertex? high = some second) :
    low < high := by
  have rising : order.vertices.Pairwise fun u v => ∀ m n,
      order.vertex? m = some u → order.vertex? n = some v → m < n := by
    rw [List.pairwise_iff_getElem]
    intro i j iBound jBound smaller m n isU isV
    rw [proper.id_unique isU (List.getElem?_eq_getElem iBound),
      proper.id_unique isV (List.getElem?_eq_getElem jBound)]
    exact smaller
  exact List.pairwise_iff_forall_sublist.mp rising before low high isFirst isSecond

theorem mem_dependents (proper : order.Proper) {vertex : Vertex} {id : VertexId} :
    id ∈ order.dependents vertex ↔
      ∃ target, order.vertex? id = some target ∧ (vertex, target) ∈ order.edges := by
  simp only [dependents, List.mem_filterMap, List.mem_eraseDups, proper.id?_eq_some_iff]
  simp [and_comm]

theorem nodup_dependents (proper : order.Proper) (vertex : Vertex) :
    (order.dependents vertex).Nodup := by
  apply (nodup_eraseDups _).filterMap
  intro first second id isFirst isSecond
  have one := proper.id?_eq_some_iff.mp isFirst
  exact Option.some.inj (one.symm.trans (proper.id?_eq_some_iff.mp isSecond))

end Proper

/-! ## Counting -/

theorem length_dependencies (vertex : Vertex) :
    (order.dependencies vertex).length =
      (order.sources vertex).countP fun source => order.vertices.contains source := by
  rw [dependencies, List.length_filterMap_eq_countP]
  apply List.countP_congr
  intro source _
  rw [id?, List.isSome_idxOf?, List.contains_iff_mem]

/-- A vertex is ready when none of its sources is counted any more. -/
theorem isReady_iff_count {waiting : List Vertex} {target : Vertex} :
    isReady order.edges waiting target = true ↔
      (order.sources target).countP (fun source => waiting.contains source) = 0 := by
  rw [isReady_iff, List.countP_eq_zero]
  simp [mem_sources]

/-- When a waiting vertex is placed, its targets have one source less to wait
for, and nobody else does. -/
theorem countP_erase {sources waiting : List Vertex} (nodup : sources.Nodup)
    (distinct : waiting.Nodup) {vertex : Vertex} (waits : vertex ∈ waiting) :
    sources.countP (fun source => waiting.contains source) =
      sources.countP (fun source => (waiting.erase vertex).contains source) +
        if vertex ∈ sources then 1 else 0 := by
  induction sources with
  | nil => simp
  | cons head tail ih =>
      rcases List.nodup_cons.mp nodup with ⟨fresh, nodup⟩
      rw [List.countP_cons, List.countP_cons, ih nodup]
      by_cases here : head = vertex
      · subst here
        simp [waits, fresh, distinct.mem_erase_iff]
      · have other : vertex ≠ head := fun same => here same.symm
        simp only [List.contains_iff_mem, distinct.mem_erase_iff, here, List.mem_cons, other,
          ne_eq, not_false_eq_true, true_and, false_or]
        omega

namespace Sorter

variable {sorter : Sorter} {id : VertexId} {released : List VertexId}

theorem degrees_release (other : VertexId) :
    (sorter.release id).degrees[other]? =
      if other = id then sorter.degrees[other]?.map (· - 1) else sorter.degrees[other]? := by
  have degrees : (sorter.release id).degrees = sorter.degrees.modify id (· - 1) := by
    simp only [release]
    split <;> rfl
  rw [degrees, List.getElem?_modify]
  by_cases same : other = id
  · simp [same]
  · simp [same, Ne.symm same]

theorem mem_ready_release {other : VertexId} :
    other ∈ (sorter.release id).ready ↔
      other ∈ sorter.ready ∨ other = id ∧ sorter.degrees[id]?.map (· - 1) = some 0 := by
  simp only [release]
  split
  next last =>
    have last : sorter.degrees[id]?.map (· - 1) = some 0 := by simpa using last
    rw [Sorting.insert_eq_orderedInsert, List.mem_orderedInsert]
    simp [last, or_comm]
  next more =>
    have more : sorter.degrees[id]?.map (· - 1) ≠ some 0 := by simpa using more
    simp [more]

/-- The vertices that are ready stay in order, unless one becomes ready a
second time. -/
theorem rising_release (rising : sorter.ready.Pairwise (· < ·)) (fresh : id ∉ sorter.ready) :
    (sorter.release id).ready.Pairwise (· < ·) := by
  simp only [release]
  split
  next =>
    have sorted := (rising.imp Nat.le_of_lt).orderedInsert id
    have nodup : (id :: sorter.ready).Nodup :=
      List.nodup_cons.mpr ⟨fresh, rising.imp Nat.ne_of_lt⟩
    have distinct := (List.perm_orderedInsert (fun a b : Nat => a ≤ b) id _).nodup_iff.mpr nodup
    rw [Sorting.insert_eq_orderedInsert]
    exact (sorted.and distinct).imp fun both => Nat.lt_of_le_of_ne both.1 both.2
  next => exact rising

theorem degrees_releaseAll (nodup : released.Nodup) (other : VertexId) :
    (released.foldl release sorter).degrees[other]? =
      if other ∈ released then sorter.degrees[other]?.map (· - 1) else sorter.degrees[other]? := by
  induction released generalizing sorter with
  | nil => rfl
  | cons head tail ih =>
      rcases List.nodup_cons.mp nodup with ⟨fresh, nodup⟩
      rw [List.foldl_cons, ih nodup, degrees_release]
      by_cases same : other = head
      · subst same
        simp [fresh]
      · simp [same]

theorem mem_ready_releaseAll (nodup : released.Nodup) {other : VertexId} :
    other ∈ (released.foldl release sorter).ready ↔
      other ∈ sorter.ready ∨ other ∈ released ∧ sorter.degrees[other]?.map (· - 1) = some 0 := by
  induction released generalizing sorter with
  | nil => simp
  | cons head tail ih =>
      rcases List.nodup_cons.mp nodup with ⟨fresh, nodup⟩
      rw [List.foldl_cons, ih nodup, mem_ready_release, degrees_release]
      by_cases same : other = head
      · subst same
        simp [fresh]
      · simp [same]

theorem rising_releaseAll (rising : sorter.ready.Pairwise (· < ·)) (nodup : released.Nodup)
    (fresh : ∀ id ∈ released, id ∉ sorter.ready) :
    (released.foldl release sorter).ready.Pairwise (· < ·) := by
  induction released generalizing sorter with
  | nil => exact rising
  | cons head tail ih =>
      rcases List.nodup_cons.mp nodup with ⟨other, nodup⟩
      apply ih (rising_release rising (fresh head List.mem_cons_self)) nodup
      intro id member
      rw [mem_ready_release, not_or]
      refine ⟨fresh id (List.mem_cons_of_mem _ member), ?_⟩
      rintro ⟨rfl, _⟩
      exact other member

end Sorter

/-- The sorter has counted, for each waiting vertex, those of its sources that
are waiting, and its ready vertices are those that wait for none.  What
depends on a waiting vertex is waiting as well. -/
structure Counts (order : VisitOrder) (waiting : List Vertex) (sorter : Sorter) : Prop where
  sublist : waiting.Sublist order.vertices
  closed : ∀ {source target}, (source, target) ∈ order.edges → source ∈ waiting →
    target ∈ waiting
  degrees : ∀ {vertex}, vertex ∈ waiting → ∀ {id}, order.vertex? id = some vertex →
    sorter.degrees[id]? =
      some ((order.sources vertex).countP fun source => waiting.contains source)
  ready : ∀ {id}, id ∈ sorter.ready ↔
    ∃ vertex ∈ waiting, order.vertex? id = some vertex ∧
      isReady order.edges waiting vertex = true
  rising : sorter.ready.Pairwise (· < ·)

theorem Proper.counts (proper : order.Proper) : order.Counts order.vertices order.sorter := by
  have degrees : ∀ {vertex id}, order.vertex? id = some vertex → order.sorter.degrees[id]? =
      some ((order.sources vertex).countP fun source => order.vertices.contains source) := by
    intro vertex id isVertex
    rw [vertex?] at isVertex
    simp [sorter, isVertex, length_dependencies]
  refine ⟨List.Sublist.refl _, fun edge _ => proper.target edge, fun _ _ => degrees, ?_, ?_⟩
  · intro id
    have start : id ∈ order.sorter.ready ↔ order.sorter.degrees[id]? = some 0 := by
      rw [sorter, List.mem_filter, List.mem_range, decide_eq_true_eq]
      exact and_iff_right_of_imp fun none => (List.getElem?_eq_some_iff.mp none).1
    rw [start]
    constructor
    · intro none
      have bound : id < order.vertices.length := by
        simpa [sorter] using (List.getElem?_eq_some_iff.mp none).1
      have isVertex : order.vertex? id = some order.vertices[id] := List.getElem?_eq_getElem bound
      rw [degrees isVertex] at none
      exact ⟨_, List.getElem_mem bound, isVertex, isReady_iff_count.mpr (Option.some.inj none)⟩
    · rintro ⟨vertex, _, isVertex, ready⟩
      rw [degrees isVertex, isReady_iff_count.mp ready]
  · exact List.pairwise_lt_range.filter _

namespace Counts

variable {waiting : List Vertex} {sorter : Sorter}

theorem nodup (counts : order.Counts waiting sorter) (proper : order.Proper) : waiting.Nodup :=
  proper.nodup.sublist counts.sublist

theorem first (counts : order.Counts waiting sorter) (proper : order.Proper) {id : VertexId}
    {others : List VertexId} (same : sorter.ready = id :: others) :
    ∃ vertex, order.vertex? id = some vertex ∧
      waiting.find? (isReady order.edges waiting) = some vertex := by
  have least : id ∈ sorter.ready := by simp [same]
  rcases counts.ready.mp least with ⟨vertex, waits, isVertex, ready⟩
  refine ⟨vertex, isVertex, ?_⟩
  rcases List.append_of_mem waits with ⟨front, back, split⟩
  refine List.find?_eq_some_iff_append.mpr ⟨ready, front, back, split, ?_⟩
  intro earlier member
  by_contra wrong
  have ready : isReady order.edges waiting earlier = true := by simpa using wrong
  have pair : [earlier, vertex].Sublist waiting := by
    rw [split]
    exact pair_sublist member
  have waits : earlier ∈ waiting := pair.subset List.mem_cons_self
  rcases exists_id (counts.sublist.subset waits) with ⟨other, isEarlier⟩
  have lower := proper.id_lt (pair.trans counts.sublist) isEarlier isVertex
  have present := counts.ready.mpr ⟨earlier, waits, isEarlier, ready⟩
  have rising := counts.rising
  rw [same] at present rising
  rcases List.mem_cons.mp present with equal | later
  · exact Nat.ne_of_lt lower equal
  · exact Nat.lt_asymm lower ((List.pairwise_cons.mp rising).1 other later)

theorem front (counts : order.Counts waiting sorter) {id : VertexId} {others : List VertexId}
    (same : sorter.ready = id :: others) {vertex : Vertex}
    (isVertex : order.vertex? id = some vertex) :
    vertex ∈ waiting ∧ ∀ source, (source, vertex) ∈ order.edges → source ∉ waiting := by
  have present : id ∈ sorter.ready := by simp [same]
  rcases counts.ready.mp present with ⟨placed, waits, isPlaced, ready⟩
  have equal : placed = vertex := Option.some.inj (isPlaced.symm.trans isVertex)
  subst equal
  exact ⟨waits, isReady_iff.mp ready⟩

theorem mem_others (counts : order.Counts waiting sorter) {id : VertexId}
    {others : List VertexId} (same : sorter.ready = id :: others) {other : VertexId} :
    other ∈ others ↔ other ∈ sorter.ready ∧ other ≠ id := by
  have rising := counts.rising
  rw [same] at rising
  rw [same, List.mem_cons]
  constructor
  · intro member
    exact ⟨Or.inr member, Nat.ne_of_gt ((List.pairwise_cons.mp rising).1 other member)⟩
  · rintro ⟨equal | member, different⟩
    · exact absurd equal different
    · exact member

section

variable {vertex : Vertex}

/-- What depends on a waiting vertex waits even when one is placed that
depends on none. -/
theorem closed_erase (counts : order.Counts waiting sorter) (proper : order.Proper)
    (ready : ∀ source, (source, vertex) ∈ order.edges → source ∉ waiting) {source target : Vertex}
    (edge : (source, target) ∈ order.edges) (waits : source ∈ waiting) :
    target ∈ waiting.erase vertex := by
  refine (counts.nodup proper).mem_erase_iff.mpr ⟨?_, counts.closed edge waits⟩
  rintro rfl
  exact ready source edge waits

/-- Releasing its dependents takes the placed vertex out of the count.  A
dependent has counted it, so that there is something to take away. -/
theorem degrees_erase (counts : order.Counts waiting sorter) (proper : order.Proper)
    (waits : vertex ∈ waiting) {target : Vertex} (member : target ∈ waiting.erase vertex)
    {id : VertexId} (isTarget : order.vertex? id = some target) :
    (if id ∈ order.dependents vertex then sorter.degrees[id]?.map (· - 1)
      else sorter.degrees[id]?) =
      some ((order.sources target).countP fun source =>
        (waiting.erase vertex).contains source) := by
  have released : id ∈ order.dependents vertex ↔ vertex ∈ order.sources target := by
    rw [proper.mem_dependents, isTarget, mem_sources]
    simp
  rw [counts.degrees (List.mem_of_mem_erase member) isTarget,
    countP_erase (order.sources_nodup target) (counts.nodup proper) waits]
  by_cases edge : vertex ∈ order.sources target <;> simp [released, edge]

/-- The vertices that are ready then are those that have been before, and the
dependents that have waited for this one alone. -/
theorem ready_erase (counts : order.Counts waiting sorter) (proper : order.Proper)
    {front : VertexId} (isFront : order.vertex? front = some vertex) (waits : vertex ∈ waiting)
    (ready : ∀ source, (source, vertex) ∈ order.edges → source ∉ waiting) {id : VertexId} :
    (id ∈ sorter.ready ∧ id ≠ front ∨
        id ∈ order.dependents vertex ∧ sorter.degrees[id]?.map (· - 1) = some 0) ↔
      ∃ target ∈ waiting.erase vertex, order.vertex? id = some target ∧
        isReady order.edges (waiting.erase vertex) target = true := by
  have distinct := counts.nodup proper
  constructor
  · rintro (⟨before, different⟩ | ⟨released, last⟩)
    · rcases counts.ready.mp before with ⟨target, member, isTarget, free⟩
      have unplaced : target ≠ vertex := by
        rintro rfl
        exact different (proper.id_unique isTarget isFront)
      refine ⟨target, distinct.mem_erase_iff.mpr ⟨unplaced, member⟩, isTarget, ?_⟩
      rw [isReady_iff] at free ⊢
      exact fun source edge again => free source edge (List.mem_of_mem_erase again)
    · rcases proper.mem_dependents.mp released with ⟨target, isTarget, edge⟩
      have member := counts.closed_erase proper ready edge waits
      have degree := counts.degrees_erase proper waits member isTarget
      rw [if_pos released, last] at degree
      exact ⟨target, member, isTarget, isReady_iff_count.mpr (Option.some.inj degree).symm⟩
  · rintro ⟨target, member, isTarget, free⟩
    rcases distinct.mem_erase_iff.mp member with ⟨unplaced, inWaiting⟩
    by_cases released : id ∈ order.dependents vertex
    · have degree := counts.degrees_erase proper waits member isTarget
      rw [if_pos released, isReady_iff_count.mp free] at degree
      exact Or.inr ⟨released, degree⟩
    · refine Or.inl ⟨counts.ready.mpr ⟨target, inWaiting, isTarget, ?_⟩, ?_⟩
      · rw [isReady_iff] at free ⊢
        intro source edge again
        refine free source edge (distinct.mem_erase_iff.mpr ⟨?_, again⟩)
        rintro rfl
        exact released (proper.mem_dependents.mpr ⟨target, isTarget, edge⟩)
      · rintro rfl
        exact unplaced (Option.some.inj (isTarget.symm.trans isFront))

end

/-- Placing the vertex at the front and releasing its dependents keeps the
count. -/
theorem step (counts : order.Counts waiting sorter) (proper : order.Proper) {id : VertexId}
    {others : List VertexId} (same : sorter.ready = id :: others) {vertex : Vertex}
    (isVertex : order.vertex? id = some vertex) :
    order.Counts (waiting.erase vertex)
      ((order.dependents vertex).foldl Sorter.release { sorter with ready := others }) := by
  have nodup := proper.nodup_dependents vertex
  have rising := counts.rising
  rw [same] at rising
  rcases counts.front same isVertex with ⟨waits, ready⟩
  refine ⟨List.erase_sublist.trans counts.sublist, ?_, ?_, ?_, ?_⟩
  · intro source target edge member
    exact counts.closed_erase proper ready edge (List.mem_of_mem_erase member)
  · intro target member other isTarget
    rw [Sorter.degrees_releaseAll nodup]
    exact counts.degrees_erase proper waits member isTarget
  · intro other
    rw [Sorter.mem_ready_releaseAll nodup, counts.mem_others same]
    exact counts.ready_erase proper isVertex waits ready
  · apply Sorter.rising_releaseAll (List.pairwise_cons.mp rising).2 nodup
    intro other released before
    -- A dependent still waits for this vertex, so it is not ready yet.
    rcases proper.mem_dependents.mp released with ⟨target, isTarget, edge⟩
    rcases counts.ready.mp ((counts.mem_others same).mp before).1 with ⟨_, _, isAgain, free⟩
    obtain rfl := Option.some.inj (isTarget.symm.trans isAgain)
    exact isReady_iff.mp free vertex edge waits

theorem sort (counts : order.Counts waiting sorter) (proper : order.Proper) (count : Nat) :
    (order.sort count sorter).map order.vertex? =
      (arrange order.edges count waiting).1.map some := by
  induction count generalizing waiting sorter with
  | zero => rfl
  | succ count ih =>
      rw [VisitOrder.sort, arrange]
      cases same : sorter.ready with
      | nil =>
          have stuck : waiting.find? (isReady order.edges waiting) = none := by
            rw [List.find?_eq_none]
            intro vertex waits free
            rcases exists_id (counts.sublist.subset waits) with ⟨id, isVertex⟩
            have present := counts.ready.mpr ⟨vertex, waits, isVertex, free⟩
            rw [same] at present
            cases present
          rw [stuck]
          rfl
      | cons id others =>
          rcases counts.first proper same with ⟨vertex, isVertex, found⟩
          rw [found]
          simp only [List.map_cons, isVertex, Option.elim_some]
          rw [ih (counts.step proper same isVertex)]

end Counts

end VisitOrder
end ReactiveGraph
