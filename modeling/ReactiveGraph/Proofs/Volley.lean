import ReactiveGraph.Proofs.Firing

namespace ReactiveGraph

/-!
# Volleys

When a timetable is told the time, its due timers are lined up once, by due
time and handle, and then fire in turn.  A timer is concluded in the very
step in which its value is accepted, so that the timers concluded are always
those at the front of the line, as many as there has been room for.  Nothing
happens to the others.
-/

variable {α : Type}

namespace Timer

def Precedes (first second : Timer α) : Prop :=
  first.due < second.due ∨ first.due = second.due ∧ first.handle < second.handle

end Timer

namespace Timetable

theorem firesBefore_iff {first second : Timer α} :
    firesBefore first second = true ↔
      first.due < second.due ∨ first.due = second.due ∧ first.handle ≤ second.handle := by
  simp [firesBefore]

/-- No two timers with handles of their own fire at once. -/
theorem dueBy_sorted {table : Timetable α} (distinct : (table.timers.map Timer.handle).Nodup)
    (now : Time) : (table.dueBy now).Pairwise Timer.Precedes := by
  have weakly : (table.dueBy now).Pairwise fun first second =>
      firesBefore first second = true := by
    have total : Std.Total fun first second : Timer α => firesBefore first second = true := by
      refine ⟨fun first second => ?_⟩
      simp only [firesBefore_iff, UInt64.lt_iff_toNat_lt, ← UInt64.toNat_inj]
      grind
    have transitive : IsTrans (Timer α) fun first second => firesBefore first second = true := by
      refine ⟨fun first second third => ?_⟩
      simp only [firesBefore_iff, UInt64.lt_iff_toNat_lt, ← UInt64.toNat_inj]
      grind
    rw [dueBy, Sorting.sort_eq_insertionSort]
    exact List.pairwise_insertionSort _ _
  have apart := List.pairwise_map.mp (dueBy_distinct distinct now)
  refine (weakly.and apart).imp fun {first second} both => ?_
  rcases firesBefore_iff.mp both.1 with earlier | ⟨same, below⟩
  · exact Or.inl earlier
  · exact Or.inr ⟨same, Nat.lt_of_le_of_ne below both.2⟩

/-- What becomes of a timer when those with the given handles fire. -/
def fate (now : Time) (fired : List Handle) (timer : Timer α) : Option (Timer α) :=
  if timer.handle ∈ fired then timer.next? now else some timer

theorem handle_of_next? {now : Time} {timer next : Timer α}
    (follows : timer.next? now = some next) :
    next.handle = timer.handle := by
  rcases Option.map_eq_some_iff.mp follows with ⟨due, _, rfl⟩
  rfl

theorem handle_of_fate {now : Time} {fired : List Handle} {timer next : Timer α}
    (follows : fate now fired timer = some next) : next.handle = timer.handle := by
  rw [fate] at follows
  split at follows
  · exact handle_of_next? follows
  · rw [Option.some.inj follows]

theorem timers_conclude {table : Timetable α} (distinct : (table.timers.map Timer.handle).Nodup)
    {timer : Timer α} (member : timer ∈ table.timers) (now : Time) :
    (table.conclude timer.handle now).timers =
      table.timers.filterMap (fate now [timer.handle]) := by
  have found := find?_of_mem distinct member
  have only : ∀ other ∈ table.timers, other.handle = timer.handle → other = timer := by
    intro other inside same
    exact List.inj_on_of_nodup_map distinct inside member same
  rcases table.conclude_cases timer.handle now with
    ⟨absent, _⟩ | ⟨_, same, ⟨last, concluded⟩ | ⟨due, next, concluded⟩⟩
  · rw [found] at absent
    cases absent
  · obtain rfl := Option.some.inj (found.symm.trans same)
    rw [concluded, remove, ← List.filterMap_eq_filter]
    apply List.filterMap_congr
    intro other inside
    by_cases equal : other.handle = timer.handle
    · obtain rfl := only other inside equal
      simp [fate, last]
    · simp [fate, equal]
  · obtain rfl := Option.some.inj (found.symm.trans same)
    rw [concluded, putOff, ← List.filterMap_eq_map]
    apply List.filterMap_congr
    intro other inside
    by_cases equal : other.handle = timer.handle
    · obtain rfl := only other inside equal
      simp [fate, next]
    · simp [fate, equal]

theorem fate_nil (now : Time) : fate now [] = (some : Timer α → Option (Timer α)) := by
  funext timer
  simp [fate]

/-- The fates of several timers follow one after the other. -/
theorem fate_cons {now : Time} {first : Handle} {rest : List Handle} (fresh : first ∉ rest)
    (timer : Timer α) :
    (fate now [first] timer).bind (fate now rest) = fate now (first :: rest) timer := by
  by_cases same : timer.handle = first
  · cases follows : timer.next? now with
    | none => simp [fate, same, follows]
    | some next =>
        have kept := handle_of_next? follows
        simp [fate, same, follows, kept, fresh]
  · simp [fate, same]

/-- Concluding several timers, each once, does nothing to the others. -/
theorem timers_concludeAll {table : Timetable α} {fired : List (Timer α)} (now : Time)
    (distinct : (table.timers.map Timer.handle).Nodup) (once : (fired.map Timer.handle).Nodup)
    (pending : ∀ timer ∈ fired, timer ∈ table.timers) :
    (table.concludeAll now fired).timers =
      table.timers.filterMap (fate now (fired.map Timer.handle)) := by
  induction fired generalizing table with
  | nil => rw [List.map_nil, fate_nil, List.filterMap_some, concludeAll, List.foldl_nil]
  | cons timer rest ih =>
      rcases List.nodup_cons.mp once with ⟨fresh, once⟩
      have first := timers_conclude distinct (pending timer List.mem_cons_self) now
      have fewer : ((table.conclude timer.handle now).timers.map Timer.handle).Nodup := by
        rw [first]
        refine List.pairwise_map.mpr ((List.pairwise_map.mp distinct).filterMap _ ?_)
        intro one other different next follows later followsLater
        rw [handle_of_fate follows, handle_of_fate followsLater]
        exact different
      have others : ∀ other ∈ rest, other ∈ (table.conclude timer.handle now).timers := by
        intro other member
        have apart : other.handle ≠ timer.handle := fun same =>
          fresh (same ▸ List.mem_map_of_mem member)
        rw [first, List.mem_filterMap]
        exact ⟨other, pending other (List.mem_cons_of_mem _ member), by simp [fate, apart]⟩
      calc (table.concludeAll now (timer :: rest)).timers
          = (table.conclude timer.handle now).timers.filterMap
              (fate now (rest.map Timer.handle)) := ih fewer once others
        _ = table.timers.filterMap (fun other =>
              (fate now [timer.handle] other).bind (fate now (rest.map Timer.handle))) := by
            rw [first, List.filterMap_filterMap]
        _ = table.timers.filterMap (fate now ((timer :: rest).map Timer.handle)) :=
            List.filterMap_congr fun other _ => fate_cons fresh other

theorem concludeAll_eq {table : Timetable α} {fired : List (Timer α)} (now : Time)
    (distinct : (table.timers.map Timer.handle).Nodup) (once : (fired.map Timer.handle).Nodup)
    (pending : ∀ timer ∈ fired, timer ∈ table.timers) :
    table.concludeAll now fired =
      { table with timers := table.timers.filterMap (fate now (fired.map Timer.handle)) } := by
  have timers := timers_concludeAll now distinct once pending
  have clock := now_concludeAll now fired table
  have issued := nextHandle_concludeAll now fired table
  cases after : table.concludeAll now fired
  rw [after] at timers clock issued
  subst timers clock issued
  rfl

end Timetable

/-! ## The volley -/

/-- How many more inputs the queue takes.  Without a capacity, there is no
limit to them. -/
def InputQueue.free? (queue : InputQueue α) : Option Nat :=
  queue.capacity.map fun capacity => capacity - queue.waiting.length

namespace Service

/-- Those timers that are due and fire: as many as there is room for. -/
def volley (service : Service α) (now : Time) : List (Timer α) :=
  match service.queue.free? with
  | none => service.due now
  | some free => (service.due now).take free

/-- What telling the service the time amounts to.  With room for all that are
due, all fire and are counted; otherwise the first ones fire, and the full
queue is reported.  Timers that have fired are put off or removed, and all
others are kept. -/
structure FiresDue (service : Service α) (now : Time) : Prop where
  clock : (service.clockAt now).toNat = max service.timers.now.toNat now.toNat
  everyone : (service.due now).Perm
    (service.timers.timers.filter fun timer => timer.due ≤ service.clockAt now)
  sorted : (service.due now).Pairwise Timer.Precedes
  fits : (∀ free, service.queue.free? = some free → (service.due now).length ≤ free) →
    service.volley now = service.due now ∧
      (service.fire now).result = .ok (service.due now).length
  stops : ∀ free, service.queue.free? = some free → free < (service.due now).length →
    service.volley now = (service.due now).take free ∧
      ∃ capacity, service.queue.capacity = some capacity ∧
        (service.fire now).result = .error (.inputQueueFull capacity)
  queue : (service.fire now).state.queue =
    { service.queue with
      waiting := service.queue.waiting ++ (service.volley now).map Timer.input }
  timers : (service.fire now).state.timers =
    { service.timers with
      now := service.clockAt now
      timers := service.timers.timers.filterMap
        (Timetable.fate (service.clockAt now) ((service.volley now).map Timer.handle)) }
  log : (service.fire now).events = (service.volley now).flatMap Timer.log

theorem free?_eq_some_iff {queue : InputQueue α} {free : Nat} :
    queue.free? = some free ↔
      ∃ capacity, queue.capacity = some capacity ∧ capacity - queue.waiting.length = free :=
  Option.map_eq_some_iff

theorem volley_of_fits {service : Service α} {now : Time}
    (fits : ∀ free, service.queue.free? = some free → (service.due now).length ≤ free) :
    service.volley now = service.due now := by
  rw [volley]
  cases room : service.queue.free? with
  | none => rfl
  | some free => exact List.take_of_length_le (fits free room)

theorem volley_of_free {service : Service α} {now : Time} {free : Nat}
    (room : service.queue.free? = some free) :
    service.volley now = (service.due now).take free := by
  rw [volley, room]

/-- The timers that fire are concluded, and the result tells whether they are
all that were due. -/
theorem fire_cases (service : Service α) (now : Time)
    (distinct : (service.timers.timers.map Timer.handle).Nodup) :
    ∃ result, service.fire now =
        ⟨concluded (service.clockAt now) (service.volley now) (service.advanced now),
          (service.volley now).flatMap Timer.log, result⟩ ∧
      ((∀ free, service.queue.free? = some free → (service.due now).length ≤ free) ∧
          result = .ok (service.due now).length ∨
        ∃ capacity, service.queue.capacity = some capacity ∧
          capacity - service.queue.waiting.length < (service.due now).length ∧
          result = .error (.inputQueueFull capacity)) := by
  have once : ((service.due now).map Timer.handle).Nodup := Timetable.dueBy_distinct distinct _
  have pending : ∀ timer ∈ service.due now,
      (service.advanced now).timers.find? timer.handle = some timer :=
    fun timer inside => Timetable.find?_of_mem distinct (Timetable.mem_dueBy.mp inside).1
  have line : service.fire now =
      fireEach (service.clockAt now) ((service.due now).map Timer.handle)
        (service.advanced now) := rfl
  rw [line]
  rcases fireEach_cases (service.clockAt now) once pending with
    ⟨room, all⟩ | ⟨fired, refused, rest, capacity, split, bounded, full, stopped⟩
  · have fits : ∀ free, service.queue.free? = some free → (service.due now).length ≤ free := by
      intro free isFree
      rcases free?_eq_some_iff.mp isFree with ⟨capacity, bounded, rfl⟩
      exact room capacity bounded
    refine ⟨_, ?_, Or.inl ⟨fits, rfl⟩⟩
    rw [all, volley_of_fits fits]
  · have full : fired.length = capacity - service.queue.waiting.length := full
    have front : service.volley now = fired := by
      have room : service.queue.free? = some fired.length :=
        free?_eq_some_iff.mpr ⟨capacity, bounded, full.symm⟩
      rw [volley_of_free room, split, List.take_left]
    refine ⟨_, ?_, Or.inr ⟨capacity, bounded, ?_, rfl⟩⟩
    · rw [stopped, front]
    · rw [split, List.length_append, List.length_cons]
      omega

/-- However many timers are due and however much room there is, the first ones
fire that there is room for, and no others. -/
theorem fire_exact (service : Service α) (now : Time)
    (distinct : (service.timers.timers.map Timer.handle).Nodup) : service.FiresDue now := by
  have once : ((service.due now).map Timer.handle).Nodup := Timetable.dueBy_distinct distinct _
  have front : (service.volley now).Sublist (service.due now) := by
    rw [volley]
    split
    · exact List.Sublist.refl _
    · exact List.take_sublist _ _
  have advanced : ((service.timers.advance now).timers.map Timer.handle).Nodup := distinct
  have table := Timetable.concludeAll_eq (service.clockAt now) advanced
    (once.sublist (front.map Timer.handle))
    fun timer inside => (Timetable.mem_dueBy.mp (front.subset inside)).1
  rcases service.fire_cases now distinct with ⟨result, same, outcome⟩
  constructor
  case clock => exact service.toNat_clockAt now
  case everyone => exact Timetable.dueBy_perm _ _
  case sorted => exact Timetable.dueBy_sorted distinct _
  case fits =>
    intro fits
    refine ⟨volley_of_fits fits, ?_⟩
    rcases outcome with ⟨_, ok⟩ | ⟨capacity, bounded, less, _⟩
    · rw [same, ok]
    · have := fits _ (free?_eq_some_iff.mpr ⟨capacity, bounded, rfl⟩)
      omega
  case stops =>
    intro free room less
    refine ⟨volley_of_free room, ?_⟩
    rcases outcome with ⟨fits, _⟩ | ⟨capacity, bounded, _, error⟩
    · have := fits free room
      omega
    · exact ⟨capacity, bounded, by rw [same, error]⟩
  case queue => rw [same, concluded, Service.advanced]
  case timers =>
    rw [same, concluded, Service.advanced]
    exact table
  case log => rw [same]

/-- Five timers, of which four are due, and a queue with room for two.  The
time told lies before the one that the service has heard of. -/
def crowded : Service Nat where
  timers :=
    { now := 10
      nextHandle := 5
      timers :=
        [⟨0, 9, none, ⟨.plain "a", 0⟩⟩, ⟨1, 3, some 4, ⟨.plain "b", 1⟩⟩,
          ⟨2, 3, none, ⟨.plain "c", 2⟩⟩, ⟨3, 11, none, ⟨.plain "d", 3⟩⟩,
          ⟨4, 9, some 5, ⟨.plain "e", 4⟩⟩] }
  queue := { capacity := some 3, waiting := [⟨.plain "x", 7⟩] }

/-- The periodic one of the two timers that fire skips the period that it has
missed. -/
theorem crowded_fires :
    (crowded.timers.timers.map Timer.handle).Nodup ∧ crowded.FiresDue 4 ∧
      (crowded.due 4).map Timer.handle = [1, 2, 0, 4] ∧
      (crowded.volley 4).map Timer.handle = [1, 2] ∧
      (crowded.fire 4).state.timers.timers.map (fun timer => (timer.handle, timer.due)) =
        [(0, 9), (1, 11), (3, 11), (4, 9)] :=
  ⟨by decide, crowded.fire_exact 4 (by decide), by decide +kernel, by decide +kernel,
    by decide +kernel⟩

end Service
end ReactiveGraph
