import ReactiveGraph.Proofs.Rest
import ReactiveGraph.Proofs.Usage
import ReactiveGraph.Proofs.Volley

namespace ReactiveGraph

/-!
# Ticks that stall

A tick has the due timers fired into the queue, and then the graph evaluated.
If the queue refuses one of the timers, the evaluation does not come about, so
the queue stays full, and the timers that are left are refused by every tick
that follows.  Only where the graph is evaluated by other means, and the
timers are fired again, they get any further: by as many at a time as the queue
holds, until none is left.
-/

variable {α σ : Type}

namespace Timetable

/-- A periodic timer is put off beyond the present. -/
theorem due_of_next? {timer next : Timer α} {now : Time}
    (nonzero : ∀ period, timer.period = some period → period ≠ 0)
    (follows : timer.next? now = some next) : now < next.due := by
  rcases Option.map_eq_some_iff.mp follows with ⟨due, found, rfl⟩
  rcases Option.bind_eq_some_iff.mp found with ⟨period, periodic, found⟩
  have positive := nonzero period periodic
  have value := (nextDue?_eq_some_iff positive).mp found
  have length : 0 < period.toNat :=
    Nat.pos_of_ne_zero fun zero => positive (UInt64.toNat_inj.mp zero)
  have reached := Nat.lt_div_mul_add (a := now.toNat - timer.due.toNat) length
  rw [UInt64.lt_iff_toNat_lt, value, Nat.add_mul, Nat.one_mul]
  omega

/-- Of the timers that fire, none is due any longer, and of the others all
that were. -/
theorem filter_fate {timers : List (Timer α)} {now : Time} (fired : List Handle)
    (nonzero : ∀ timer ∈ timers, ∀ period, timer.period = some period → period ≠ 0) :
    (timers.filterMap (fate now fired)).filter (fun timer => timer.due ≤ now) =
      (timers.filter fun timer => timer.due ≤ now).filter fun timer => timer.handle ∉ fired := by
  rw [List.filter_filterMap, List.filter_filter, ← List.filterMap_eq_filter]
  apply List.filterMap_congr
  intro timer member
  by_cases fires : timer.handle ∈ fired
  · cases follows : timer.next? now with
    | none => simp [fate, fires, follows, Option.guard]
    | some next =>
        have later := due_of_next? (nonzero timer member) follows
        simp [fate, fires, follows, Option.filter, Option.guard, later]
  · simp [fate, fires, Option.filter, Option.guard]

/-- Timers with handles of their own fire in one order only. -/
theorem eq_of_precedes {first second : List (Timer α)} (same : first.Perm second)
    (sorted : first.Pairwise Timer.Precedes) (alike : second.Pairwise Timer.Precedes) :
    first = second := by
  apply same.eq_of_pairwise _ sorted alike
  intro one other _ _ before after
  simp only [Timer.Precedes, UInt64.lt_iff_toNat_lt, ← UInt64.toNat_inj] at before after
  grind

end Timetable

theorem filter_fired {front back : List (Timer α)}
    (once : ((front ++ back).map Timer.handle).Nodup) :
    (front ++ back).filter (fun timer => timer.handle ∉ front.map Timer.handle) = back := by
  rw [List.map_append, List.nodup_append] at once
  have gone : front.filter (fun timer => timer.handle ∉ front.map Timer.handle) = [] :=
    List.filter_eq_nil_iff.mpr fun timer member => by
      simpa using ⟨timer, member, rfl⟩
  have kept : back.filter (fun timer => timer.handle ∉ front.map Timer.handle) = back :=
    List.filter_eq_self.mpr fun timer member => by
      rw [decide_eq_true_eq]
      intro shared
      exact once.2.2 _ shared _ (List.mem_map_of_mem member) rfl
  rw [List.filter_append, gone, kept, List.nil_append]

namespace Service

theorem due_eq_append (service : Service α) (now : Time) :
    service.due now =
      service.volley now ++ (service.due now).drop (service.volley now).length := by
  have front : service.volley now = (service.due now).take (service.volley now).length := by
    rw [volley]
    split
    · rw [List.take_length]
    · rw [List.length_take, ← List.take_eq_take_min]
  conv_lhs => rw [← List.take_append_drop (service.volley now).length (service.due now), ← front]

theorem clockAt_fire {service : Service α} (sound : service.timers.Sound) (now : Time) :
    (service.fire now).state.clockAt now = service.clockAt now := by
  rw [← UInt64.toNat_inj, toNat_clockAt, now_fire sound, toNat_clockAt]
  omega

/-- When the timers have fired that there was room for, the others are left,
in the same order. -/
theorem due_fire {service : Service α} (sound : service.timers.Sound) (now : Time) :
    (service.fire now).state.due now = (service.due now).drop (service.volley now).length := by
  have fires := service.fire_exact now sound.distinct
  have after : (service.fire now).state.timers.Sound := sound_perform sound (.fire now)
  have once : ((service.due now).map Timer.handle).Nodup :=
    Timetable.dueBy_distinct sound.distinct _
  have others : (service.due now).filter
      (fun timer => timer.handle ∉ (service.volley now).map Timer.handle) =
        (service.due now).drop (service.volley now).length := by
    rw [service.due_eq_append now] at once
    conv_lhs => rw [service.due_eq_append now]
    exact filter_fired once
  apply Timetable.eq_of_precedes
  · rw [← others, due, clockAt_fire sound]
    refine (Timetable.dueBy_perm _ _).trans ?_
    rw [fires.timers]
    dsimp only
    rw [Timetable.filter_fate _ sound.periods]
    exact fires.everyone.symm.filter _
  · exact Timetable.dueBy_sorted after.distinct _
  · exact fires.sorted.drop

/-! ## A stall -/

/-- The queue is full, and still there is a timer that is due. -/
structure Jammed (capacity : Nat) (service : Service α) : Prop where
  bounded : service.queue.capacity = some capacity
  full : capacity ≤ service.queue.waiting.length
  late : ∃ timer ∈ service.timers.timers, timer.due ≤ service.timers.now

theorem Jammed.advance {capacity : Nat} {service : Service α} (jammed : service.Jammed capacity)
    (now : Time) : Jammed capacity { service with timers := service.timers.advance now } where
  bounded := jammed.bounded
  full := jammed.full
  late := by
    rcases jammed.late with ⟨timer, member, late⟩
    refine ⟨timer, member, ?_⟩
    have forward := (service.timers.toNat_now_advance now).ge
    exact Nat.le_trans late (Nat.le_trans (Nat.le_max_left _ _) forward)

theorem Jammed.fire {capacity : Nat} {service : Service α} (jammed : service.Jammed capacity)
    (distinct : (service.timers.timers.map Timer.handle).Nodup) (now : Time) :
    service.fire now =
      .fail { service with timers := service.timers.advance now } (.inputQueueFull capacity) := by
  have room : service.queue.free? = some 0 :=
    free?_eq_some_iff.mpr ⟨capacity, jammed.bounded, Nat.sub_eq_zero_of_le jammed.full⟩
  rcases service.fire_cases now distinct with
    ⟨result, same, ⟨fits, _⟩ | ⟨limit, bounded, _, rfl⟩⟩
  · rcases (jammed.advance now).late with ⟨timer, member, late⟩
    have waits : timer ∈ service.due now := Timetable.mem_dueBy.mpr ⟨member, late⟩
    exact absurd (fits 0 room) (Nat.not_le_of_lt (List.length_pos_of_mem waits))
  · obtain rfl := Option.some.inj (jammed.bounded.symm.trans bounded)
    rw [same, volley_of_free room, List.take_zero, concluded_nil]
    rfl

/-- If more timers are due than there is room for, the queue is full
afterwards. -/
theorem jammed_fire {service : Service α} (sound : service.timers.Sound) {capacity : Nat}
    (bounded : service.queue.capacity = some capacity) {now : Time}
    (crowded : capacity - service.queue.waiting.length < (service.due now).length) :
    (service.fire now).result = .error (.inputQueueFull capacity) ∧
      (service.fire now).state.Jammed capacity := by
  have fires := service.fire_exact now sound.distinct
  have room := free?_eq_some_iff.mpr ⟨capacity, bounded, rfl⟩
  rcases fires.stops _ room crowded with ⟨front, limit, same, failed⟩
  obtain rfl := Option.some.inj (bounded.symm.trans same)
  refine ⟨failed, ?_, ?_, ?_⟩
  · rw [fires.queue]
    exact bounded
  · rw [fires.queue, List.length_append, List.length_map, front, List.length_take]
    omega
  · have left : (service.fire now).state.due now ≠ [] := by
      rw [due_fire sound, front, List.length_take, ne_eq, List.drop_eq_nil_iff]
      omega
    rcases List.exists_mem_of_ne_nil _ left with ⟨timer, waits⟩
    rcases Timetable.mem_dueBy.mp waits with ⟨member, late⟩
    rw [clockAt_fire sound, ← now_fire sound] at late
    exact ⟨timer, member, late⟩

end Service

/-- Whether the event tells of a detector that has made something of the
timers. -/
def Event.meddles : Event α → Bool
  | scheduled _ _ handle => handle.isSome
  | cancelled _ _ wasPending => wasPending
  | fired .. => true
  | _ => false

namespace Service

/-- Unless the log tells of a detector that meddles, the timers are as they
were. -/
def Spares (before : Service α) (log : List (Event α)) (after : Service α) : Prop :=
  log.any Event.meddles = false → after.timers = before.timers

theorem composes_spares : Outcome.Composes (Spares (α := α)) where
  stay _ _ := rfl
  append := by
    intro first middle last front back before after spared
    rw [List.any_append, Bool.or_eq_false_iff] at spared
    exact (after spared.2).trans (before spared.1)

theorem submit_spares (service : Service α) (input : Input α) (log : List (Event α)) :
    Spares service log (service.submit input).state :=
  fun _ => rfl

theorem coversPasses_spares (registry : Registry) :
    CoversPasses registry (Spares (α := α)) where
  composes := composes_spares
  published _ _ _ _ _ := rfl
  postponed _ _ _ _ _ := rfl
  looked _ _ _ := rfl
  unscheduled _ _ _ _ := rfl
  scheduled _ _ _ _ _ spared := (Bool.false_ne_true spared.symm).elim
  scheduledEvery _ _ _ _ _ spared := (Bool.false_ne_true spared.symm).elim
  cancelled service _ handle spared := by
    rw [Timetable.cancel] at spared ⊢
    split at spared
    · cases spared
    next absent => rw [if_neg absent]
  fired service _ now spared := by
    rw [List.any_append, Bool.or_eq_false_iff] at spared
    exact (Bool.false_ne_true spared.2.symm).elim
  submitted service _ input := submit_spares service input _
  wrote _ _ _ _ := rfl
  evaluated _ _ _ _ _ := rfl
  completed _ _ _ := rfl
  delayed service _ input _ := submit_spares service input _

end Service

namespace Graph

open Service

theorem step_spares (graph : Graph α σ) :
    Spares graph.toService graph.step.events graph.step.state.toService := by
  rcases graph.step_cases with
    ⟨cause, _, same⟩ | ⟨closed, answer, ⟨_, _, same⟩ | ⟨_, _, _, same⟩ | ⟨_, same⟩⟩
  · rw [same]
    exact composes_spares.stay graph.toService
  · rw [same, ← service_close answer]
    exact composes_spares.stay closed.toService
  · rw [same, ← service_close answer]
    exact composes_spares.stay closed.toService
  · rw [same, ← service_close answer]
    have passed : Spares closed.poised.toService closed.nextPass.events
        closed.nextPass.state.toService :=
      Live.pass_serves (coversPasses_spares closed.registry) _ _ _
    intro spared
    rw [List.any_append, Bool.or_eq_false_iff] at spared
    exact passed spared.2

/-- What holds of each step, and of one thing after another, holds of settling. -/
theorem settle_follows {R : Graph α σ → List (Event α) → Graph α σ → Prop}
    (composes : Outcome.Composes R) (one : ∀ graph : Graph α σ, Outcome.Follows R graph graph.step)
    {fuel : Nat} {graph : Graph α σ} {outcome : Outcome α (Graph α σ) Nat}
    (settled : settle fuel graph = some outcome) : Outcome.Follows R graph outcome := by
  induction fuel generalizing graph outcome with
  | zero => cases settled
  | succ fuel ih =>
      rcases settle_cases settled with ⟨_, _, rfl⟩ | ⟨_, rfl⟩ | ⟨_, rest, later, rfl⟩
      · exact one graph
      · exact one graph
      · exact composes.append (one graph) (ih later)

theorem settle_spares {fuel : Nat} {graph : Graph α σ} {outcome : Outcome α (Graph α σ) Nat}
    (settled : settle fuel graph = some outcome) :
    Spares graph.toService outcome.events outcome.state.toService := by
  exact settle_follows (composes_spares.on fun graph : Graph α σ => graph.toService)
    step_spares settled

theorem settle_capacity {fuel : Nat} {graph : Graph α σ} {outcome : Outcome α (Graph α σ) Nat}
    (settled : settle fuel graph = some outcome) :
    outcome.state.queue.capacity = graph.queue.capacity := by
  exact settle_follows (Outcome.composes_keeps fun graph : Graph α σ => graph.queue.capacity)
    (fun graph => graph.step_accounts.capacity) settled

/-! ## Ticks -/

/-- Tick at each of the given times, whatever comes of it, and note the
results. -/
def tickEach (fuel : Nat) : List Time → Graph α σ →
    Option (Graph α σ × List (Except GraphError Nat))
  | [], graph => some (graph, [])
  | now :: rest, graph =>
      (graph.tick fuel now).bind fun outcome =>
        (tickEach fuel rest outcome.state).map fun later =>
          (later.1, outcome.result :: later.2)

def advanceEach (times : List Time) (graph : Graph α σ) : Graph α σ :=
  { graph with timers := times.foldl Timetable.advance graph.timers }

theorem tick_refused {graph : Graph α σ} {now : Time} {error : GraphError}
    (failed : (graph.toService.fire now).result = .error error) (fuel : Nat) :
    graph.tick fuel now =
      some ⟨(graph.fire now).state, (graph.fire now).events, .error error⟩ := by
  have failed : (graph.fire now).result = .error error := failed
  rw [tick, settleAfter, failed]

theorem tick_jammed {graph : Graph α σ} {capacity : Nat}
    (jammed : graph.toService.Jammed capacity)
    (distinct : (graph.timers.timers.map Timer.handle).Nodup) (fuel : Nat) (now : Time) :
    graph.tick fuel now =
      some (.fail { graph with timers := graph.timers.advance now }
        (.inputQueueFull capacity)) := by
  have fails := jammed.fire distinct now
  rw [tick_refused (congrArg Outcome.result fails), fire, fails]
  rfl

/-- However often a jammed graph is told the time, nothing comes of it. -/
theorem tickEach_jammed {graph : Graph α σ} {capacity : Nat}
    (jammed : graph.toService.Jammed capacity)
    (distinct : (graph.timers.timers.map Timer.handle).Nodup) (fuel : Nat) (times : List Time) :
    tickEach fuel times graph =
      some (graph.advanceEach times,
        List.replicate times.length (.error (.inputQueueFull capacity))) := by
  induction times generalizing graph with
  | nil => rfl
  | cons now rest ih =>
      have later : tickEach fuel rest { graph with timers := graph.timers.advance now } = _ :=
        ih (jammed.advance now) distinct
      rw [tickEach, tick_jammed jammed distinct, Option.bind_some, Outcome.fail, later]
      rfl

/-- In each round the graph is evaluated to the end, without any detector that
meddles with the timers, and then those that are due are fired. -/
inductive Retried (now : Time) (first : Graph α σ) : Nat → Graph α σ → Prop
  | start : Retried now first 0 first
  | again {rounds fuel passes : Nat} {graph : Graph α σ} {outcome : Outcome α (Graph α σ) Nat}
      (before : Retried now first rounds graph) (settled : settle fuel graph = some outcome)
      (ok : outcome.result = .ok passes) (spared : outcome.events.any Event.meddles = false) :
      Retried now first (rounds + 1) (outcome.state.fire now).state

/-- After some rounds the line has become shorter by as many timers as the
queue holds in each of them. -/
structure Shortened (now : Time) (capacity : Nat) (first : Graph α σ) (rounds : Nat)
    (graph : Graph α σ) : Prop where
  bounded : graph.queue.capacity = some capacity
  sound : graph.timers.Sound
  due : graph.due now = (first.due now).drop (rounds * capacity)

theorem Shortened.again {now : Time} {capacity : Nat} {first graph : Graph α σ} {rounds : Nat}
    (before : Shortened now capacity first rounds graph) {fuel passes : Nat}
    {outcome : Outcome α (Graph α σ) Nat} (settled : settle fuel graph = some outcome)
    (ok : outcome.result = .ok passes) (spared : outcome.events.any Event.meddles = false) :
    Shortened now capacity first (rounds + 1) (outcome.state.fire now).state ∧
      (outcome.state.fire now).state.queue.waiting =
        (((first.due now).drop (rounds * capacity)).take capacity).map Timer.input := by
  have timers : outcome.state.timers = graph.timers := settle_spares settled spared
  have bounded : outcome.state.queue.capacity = some capacity :=
    (settle_capacity settled).trans before.bounded
  have empty : outcome.state.queue.waiting = [] := (settle_ok settled ok).2.empty
  have sound : outcome.state.timers.Sound := timers ▸ before.sound
  have due : outcome.state.due now = graph.due now := by
    rw [Service.due, clockAt, timers]
    rfl
  have room : outcome.state.queue.free? = some capacity :=
    free?_eq_some_iff.mpr ⟨capacity, bounded, by rw [empty]; rfl⟩
  have front : outcome.state.volley now = (outcome.state.due now).take capacity :=
    volley_of_free room
  rw [due, before.due] at front
  have fires := outcome.state.toService.fire_exact now sound.distinct
  refine ⟨⟨?_, sound_perform sound (.fire now), ?_⟩, ?_⟩
  · exact (congrArg InputQueue.capacity fires.queue).trans bounded
  · have left := due_fire sound now
    rw [due, before.due, front, List.length_take, ← List.drop_eq_drop_min, List.drop_drop] at left
    rw [Nat.add_mul, Nat.one_mul]
    exact left
  · have waiting := congrArg InputQueue.waiting fires.queue
    rw [front, empty] at waiting
    exact waiting

theorem Retried.shortened {now : Time} {capacity : Nat} {first graph : Graph α σ} {rounds : Nat}
    (bounded : first.queue.capacity = some capacity) (sound : first.timers.Sound)
    (retried : Retried now first rounds graph) : Shortened now capacity first rounds graph := by
  induction retried with
  | start => exact ⟨bounded, sound, by rw [Nat.zero_mul, List.drop_zero]⟩
  | again _ settled ok spared ih => exact (ih.again settled ok spared).1

/-- What it comes to if the graph, whose queue is bounded, ticks at a time.
If there is room for all timers that are due, they fire, and the graph is
evaluated.  If not, this tick and all that follow are refused, whatever their
times are; they evaluate nothing, and after the first nothing fires.  In each
round in which the graph is evaluated before the timers are fired again, the
next ones in line fire, so that none is left in the end if the queue holds
any. -/
structure Stalls (graph : Graph α σ) (capacity : Nat) (now : Time) : Prop where
  evaluates : (graph.due now).length ≤ capacity - graph.queue.waiting.length →
    ∀ fuel, graph.tick fuel now =
      (settle fuel (graph.fire now).state).map (·.behind (graph.fire now).events)
  stuck : capacity - graph.queue.waiting.length < (graph.due now).length →
    ∀ fuel times, tickEach fuel (now :: times) graph =
      some ((graph.fire now).state.advanceEach times,
        List.replicate (times.length + 1) (.error (.inputQueueFull capacity)))
  left : (graph.fire now).state.due now =
    (graph.due now).drop (graph.volley now).length
  resumes : ∀ rounds before fuel outcome passes,
    Retried now (graph.fire now).state rounds before → settle fuel before = some outcome →
    outcome.result = .ok passes → outcome.events.any Event.meddles = false →
    let line := ((graph.fire now).state.due now).drop (rounds * capacity)
    (outcome.state.fire now).state.queue.waiting = (line.take capacity).map Timer.input ∧
      (outcome.state.fire now).state.due now = line.drop capacity
  delivers : 0 < capacity → ∀ rounds after, Retried now (graph.fire now).state rounds after →
    ((graph.fire now).state.due now).length ≤ rounds → after.due now = []

/-- In whatever way a graph has come about, a tick that is refused is refused
for ever, unless the graph is evaluated in between. -/
theorem refused_tick_stalls {graph : Graph α σ} (reachable : graph.Reachable) {capacity : Nat}
    (bounded : graph.queue.capacity = some capacity) (now : Time) : graph.Stalls capacity now := by
  have sound : graph.timers.Sound := by
    rcases reachable with ⟨config, operations, rfl⟩
    rcases run_used config operations with ⟨uses, same, _⟩
    rw [same]
    exact sound_after (sound_feeding _) uses
  have fires := graph.toService.fire_exact now sound.distinct
  have after : (graph.fire now).state.timers.Sound := sound_perform sound (.fire now)
  have kept : (graph.fire now).state.queue.capacity = some capacity :=
    (congrArg InputQueue.capacity fires.queue).trans bounded
  constructor
  case evaluates =>
    intro room fuel
    have fits : ∀ free, graph.queue.free? = some free →
        (graph.due now).length ≤ free := by
      intro free isFree
      rcases free?_eq_some_iff.mp isFree with ⟨limit, same, rfl⟩
      obtain rfl := Option.some.inj (bounded.symm.trans same)
      exact room
    have ok : (graph.fire now).result = .ok (graph.due now).length := (fires.fits fits).2
    rw [tick, settleAfter, ok]
  case stuck =>
    intro crowded fuel times
    rcases jammed_fire sound bounded crowded with ⟨failed, jammed⟩
    have later : tickEach fuel times (graph.fire now).state = _ :=
      tickEach_jammed jammed after.distinct fuel times
    rw [tickEach, tick_refused failed, Option.bind_some, later]
    rfl
  case left => exact due_fire sound now
  case resumes =>
    intro rounds before fuel outcome passes retried settled ok spared
    rcases (retried.shortened kept after).again settled ok spared with ⟨shortened, waiting⟩
    refine ⟨waiting, ?_⟩
    rw [shortened.due, List.drop_drop, Nat.add_mul, Nat.one_mul]
  case delivers =>
    intro positive rounds last retried enough
    rw [(retried.shortened kept after).due, List.drop_eq_nil_iff]
    exact Nat.le_trans enough (Nat.le_mul_of_pos_right rounds positive)

/-- Two timers are due at once, and the queue has room for one. -/
def twins : Graph Nat Unit :=
  (run [.add (.relay [.plain "A"] []), .close, .schedule ⟨.plain "A", 1⟩ 1,
    .schedule ⟨.plain "A", 2⟩ 1] (ofConfig { maxPendingInputs := some 1 })).state

theorem twins_stall :
    twins.Reachable ∧ twins.queue.capacity = some 1 ∧ twins.Stalls 1 1 ∧
      1 - twins.queue.waiting.length < (twins.due 1).length :=
  ⟨⟨_, _, rfl⟩, rfl, refused_tick_stalls ⟨_, _, rfl⟩ rfl 1, by decide +kernel⟩

/-- The second tick fails like the first one, and the same timer is still
due. -/
theorem twins_gain_nothing :
    twins.isSealed = true ∧ twins.queue.capacity = some 1 ∧
      (twins.tick 4 1).map (fun first =>
        (first.result, (first.state.due 1).map Timer.handle)) =
          some (.error (.inputQueueFull 1), [1]) ∧
      ((twins.tick 4 1).bind fun first => first.state.tick 4 1).map (fun second =>
        (second.result, (second.state.due 1).map Timer.handle)) =
          some (.error (.inputQueueFull 1), [1]) := by
  decide +kernel

end Graph
end ReactiveGraph
