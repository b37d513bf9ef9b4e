import ReactiveGraph.Proofs.Queue
import ReactiveGraph.Proofs.Timetable

namespace ReactiveGraph

/-!
# Firing

The timers that are due fire in turn until the queue refuses one.  The log
tells of each that its value was accepted and that it has elapsed, and so
names the timers that were concluded, in order.  What happens to one timer
does not depend on the others, except that a full queue may keep it from
firing.
-/

variable {α : Type}

/-- The queue took in the value of a timer when the clock showed `now`. -/
structure Firing (α : Type) where
  handle : Handle
  now : Time
  input : Input α
  deriving DecidableEq

/-- The firings that a log tells of, at a time that it does not tell. -/
def Log.firings (now : Time) : List (Event α) → List (Firing α)
  | .accepted input :: .elapsed handle :: rest => ⟨handle, now, input⟩ :: firings now rest
  | _ :: rest => firings now rest
  | [] => []

namespace Timer

def firing (now : Time) (timer : Timer α) : Firing α :=
  ⟨timer.handle, now, timer.input⟩

/-- What is logged of a timer that fires. -/
def log (timer : Timer α) : List (Event α) :=
  [.accepted timer.input, .elapsed timer.handle]

theorem firings_log (now : Time) (timers : List (Timer α)) :
    Log.firings now (timers.flatMap log) = timers.map (firing now) := by
  induction timers with
  | nil => rfl
  | cons timer rest ih => exact congrArg (timer.firing now :: ·) ih

theorem apart_of_nodup {first : Timer α} {rest : List (Timer α)}
    (distinct : ((first :: rest).map handle).Nodup) :
    (∀ timer ∈ rest, timer.handle ≠ first.handle) ∧ (rest.map handle).Nodup := by
  rw [List.map_cons, List.nodup_cons] at distinct
  refine ⟨?_, distinct.2⟩
  intro timer member same
  exact distinct.1 (same ▸ List.mem_map_of_mem member)

theorem firings_of_not_mem {timers : List (Timer α)} {handle : Handle} (now : Time)
    (absent : ∀ timer ∈ timers, timer.handle ≠ handle) :
    (timers.map (firing now)).filter (fun firing => firing.handle = handle) = [] := by
  apply List.filter_eq_nil_iff.mpr
  intro firing member
  rcases List.mem_map.mp member with ⟨timer, inside, rfl⟩
  rw [decide_eq_true_eq]
  exact absent timer inside

theorem firings_of_mem {timers : List (Timer α)} {timer : Timer α} (now : Time)
    (distinct : (timers.map Timer.handle).Nodup) (member : timer ∈ timers) :
    (timers.map (firing now)).filter (fun firing => firing.handle = timer.handle) =
      [timer.firing now] := by
  induction timers with
  | nil => exact absurd member List.not_mem_nil
  | cons first rest ih =>
      rcases apart_of_nodup distinct with ⟨apart, others⟩
      rw [List.map_cons, List.filter_cons]
      rcases List.mem_cons.mp member with rfl | later
      · rw [firings_of_not_mem now apart]
        exact if_pos (decide_eq_true rfl)
      · have unlike : ¬decide ((first.firing now).handle = timer.handle) = true := by
          rw [decide_eq_true_eq]
          exact (apart timer later).symm
        rw [if_neg unlike, ih others later]

end Timer

namespace Timetable

def concludeAll (now : Time) (timers : List (Timer α)) (table : Timetable α) : Timetable α :=
  timers.foldl (fun table timer => table.conclude timer.handle now) table

theorem nextHandle_concludeAll (now : Time) (timers : List (Timer α)) (table : Timetable α) :
    (table.concludeAll now timers).nextHandle = table.nextHandle := by
  induction timers generalizing table with
  | nil => rfl
  | cons timer rest ih => exact (ih _).trans (table.nextHandle_conclude timer.handle now)

theorem now_concludeAll (now : Time) (timers : List (Timer α)) (table : Timetable α) :
    (table.concludeAll now timers).now = table.now := by
  induction timers generalizing table with
  | nil => rfl
  | cons timer rest ih => exact (ih _).trans (table.now_conclude timer.handle now)

theorem Sound.concludeAll {table : Timetable α} (sound : table.Sound) (now : Time)
    (timers : List (Timer α)) : (table.concludeAll now timers).Sound := by
  induction timers generalizing table with
  | nil => exact sound
  | cons timer rest ih => exact ih (sound.conclude timer.handle now)

theorem find?_concludeAll_of_not_mem {timers : List (Timer α)} {handle : Handle} (now : Time)
    (absent : ∀ timer ∈ timers, timer.handle ≠ handle) (table : Timetable α) :
    (table.concludeAll now timers).find? handle = table.find? handle := by
  induction timers generalizing table with
  | nil => rfl
  | cons timer rest ih =>
      calc (table.concludeAll now (timer :: rest)).find? handle
          = (table.conclude timer.handle now).find? handle :=
            ih (fun other member => absent other (List.mem_cons_of_mem timer member)) _
        _ = table.find? handle := by
            rw [find?_conclude, if_neg (absent timer List.mem_cons_self).symm]

theorem find?_concludeAll_of_mem {timers : List (Timer α)} {timer : Timer α} {table : Timetable α}
    (now : Time) (distinct : (timers.map Timer.handle).Nodup)
    (found : table.find? timer.handle = some timer) (member : timer ∈ timers) :
    (table.concludeAll now timers).find? timer.handle = timer.next? now := by
  induction timers generalizing table with
  | nil => exact absurd member List.not_mem_nil
  | cons first rest ih =>
      rcases Timer.apart_of_nodup distinct with ⟨apart, others⟩
      rcases List.mem_cons.mp member with rfl | later
      · refine (find?_concludeAll_of_not_mem now apart _).trans ?_
        rw [find?_conclude, if_pos rfl, found, Option.bind_some]
      · refine ih others ?_ later
        rw [find?_conclude, if_neg (apart timer later), found]

end Timetable

namespace Service

/-! ## Volleys -/

/-- The service after the timers have fired, in this order. -/
def concluded (now : Time) (timers : List (Timer α)) (service : Service α) : Service α where
  timers := service.timers.concludeAll now timers
  queue :=
    { service.queue with waiting := service.queue.waiting ++ timers.map Timer.input }

theorem concluded_nil (now : Time) (service : Service α) : service.concluded now [] = service := by
  rw [concluded, List.map_nil, List.append_nil]
  rfl

theorem concluded_cons (now : Time) (timer : Timer α) (rest : List (Timer α))
    (service : Service α) :
    (service.concluded now [timer]).concluded now rest = service.concluded now (timer :: rest) := by
  simp [concluded, Timetable.concludeAll]

theorem fireOne_cases (now : Time) (timer : Timer α) (service : Service α) :
    ((∀ limit, service.queue.capacity = some limit →
          service.queue.waiting.length < limit) ∧
        fireOne now timer service = ⟨service.concluded now [timer], timer.log, .ok ()⟩) ∨
      ∃ limit, service.queue.capacity = some limit ∧ limit ≤ service.queue.waiting.length ∧
        fireOne now timer service = .fail service (.inputQueueFull limit) := by
  rcases service.queue.submit_cases timer.input with ⟨room, same⟩ | ⟨limit, bounded, full, same⟩
  · refine Or.inl ⟨room, ?_⟩
    rw [fireOne, submit, same]
    rfl
  · refine Or.inr ⟨limit, bounded, full, ?_⟩
    rw [fireOne, submit, same]
    rfl

/-- Pending timers fire in turn as long as there is room. -/
theorem fireEach_cases (now : Time) {timers : List (Timer α)} {service : Service α}
    (distinct : (timers.map Timer.handle).Nodup)
    (pending : ∀ timer ∈ timers, service.timers.find? timer.handle = some timer) :
    ((∀ limit, service.queue.capacity = some limit →
          timers.length ≤ limit - service.queue.waiting.length) ∧
        fireEach now (timers.map Timer.handle) service =
          ⟨service.concluded now timers, timers.flatMap Timer.log, .ok timers.length⟩) ∨
      ∃ fired refused rest limit, timers = fired ++ refused :: rest ∧
        service.queue.capacity = some limit ∧
        fired.length = limit - service.queue.waiting.length ∧
        fireEach now (timers.map Timer.handle) service =
          ⟨service.concluded now fired, fired.flatMap Timer.log,
            .error (.inputQueueFull limit)⟩ := by
  induction timers generalizing service with
  | nil =>
      refine Or.inl ⟨fun _ _ => Nat.zero_le _, ?_⟩
      rw [concluded_nil]
      rfl
  | cons timer rest ih =>
      rcases Timer.apart_of_nodup distinct with ⟨apart, distinct⟩
      have found := pending timer List.mem_cons_self
      rw [List.map_cons, fireEach, found]
      dsimp only
      rcases service.fireOne_cases now timer with ⟨room, one⟩ | ⟨limit, bounded, full, one⟩
      · have others : ∀ other ∈ rest,
            (service.concluded now [timer]).timers.find? other.handle = some other := by
          intro other member
          refine (service.timers.find?_conclude _ _ now).trans ?_
          rw [if_neg (apart other member), pending other (List.mem_cons_of_mem timer member)]
        have waiting : (service.concluded now [timer]).queue.waiting.length =
            service.queue.waiting.length + 1 := List.length_append
        rw [one]
        rcases ih distinct others with
          ⟨fits, all⟩ | ⟨fired, refused, beyond, limit, rfl, bounded, full, stopped⟩
        · refine Or.inl ⟨?_, ?_⟩
          · intro limit bounded
            have := room limit bounded
            have := fits limit bounded
            rw [List.length_cons]
            omega
          · simp only [Outcome.andThen, Outcome.behind, Outcome.done, all, concluded_cons,
              List.flatMap_cons, List.length_cons, List.append_nil]
        · refine Or.inr ⟨timer :: fired, refused, beyond, limit, rfl, bounded, ?_, ?_⟩
          · have := room limit bounded
            rw [List.length_cons]
            omega
          · simp only [Outcome.andThen, Outcome.behind, stopped, concluded_cons,
              List.flatMap_cons]
      · refine Or.inr ⟨[], timer, rest, limit, rfl, bounded, ?_, ?_⟩
        · exact (Nat.sub_eq_zero_of_le full).symm
        · rw [one, concluded_nil]
          rfl

/-- The clock of the service once it was set forward to `now`. -/
def clockAt (service : Service α) (now : Time) : Time :=
  (service.timers.advance now).now

theorem toNat_clockAt (service : Service α) (now : Time) :
    (service.clockAt now).toNat = max service.timers.now.toNat now.toNat :=
  service.timers.toNat_now_advance now

def advanced (service : Service α) (now : Time) : Service α :=
  { service with timers := service.timers.advance now }

/-- The line of timers that are due when the service is told the time. -/
def due (service : Service α) (now : Time) : List (Timer α) :=
  service.timers.dueBy (service.clockAt now)

def firings (now : Time) (service : Service α) : List (Firing α) :=
  Log.firings (service.fire now).state.timers.now (service.fire now).events

/-- These are the timers that fire when the service is told the time: timers
that are due, and all of them unless the queue refuses one. -/
structure Volley (now : Time) (service : Service α) (fired : List (Timer α)) : Prop where
  due : ∀ timer ∈ fired, timer ∈ service.timers.timers ∧ timer.due ≤ service.clockAt now
  distinct : (fired.map Timer.handle).Nodup
  state : (service.fire now).state =
    concluded (service.clockAt now) fired (service.advanced now)
  log : (service.fire now).events = fired.flatMap Timer.log
  complete : ∀ count, (service.fire now).result = .ok count →
    ∀ timer ∈ service.timers.timers, timer.due ≤ service.clockAt now → timer ∈ fired

theorem exists_volley {service : Service α} (sound : service.timers.Sound) (now : Time) :
    ∃ fired, service.Volley now fired := by
  have distinct : ((service.due now).map Timer.handle).Nodup :=
    Timetable.dueBy_distinct sound.distinct _
  have member : ∀ timer, timer ∈ service.due now ↔
      timer ∈ service.timers.timers ∧ timer.due ≤ service.clockAt now :=
    fun _ => Timetable.mem_dueBy
  have pending : ∀ timer ∈ service.due now,
      (service.advanced now).timers.find? timer.handle = some timer :=
    fun timer inside => sound.find?_eq ((member timer).mp inside).1
  rcases fireEach_cases (service.clockAt now) distinct pending with
    ⟨_, all⟩ | ⟨fired, refused, rest, limit, split, _, _, stopped⟩
  · refine ⟨service.due now, fun timer => (member timer).mp, distinct, congrArg Outcome.state all,
      congrArg Outcome.events all, ?_⟩
    intro _ _ timer inside reached
    exact (member timer).mpr ⟨inside, reached⟩
  · have front : fired.Sublist (service.due now) :=
      split ▸ List.sublist_append_left fired (refused :: rest)
    refine ⟨fired, fun timer inside => (member timer).mp (front.subset inside),
      distinct.sublist (front.map Timer.handle), congrArg Outcome.state stopped,
      congrArg Outcome.events stopped, ?_⟩
    intro count ok
    cases (congrArg Outcome.result stopped).symm.trans ok

namespace Volley

variable {service : Service α} {now : Time} {fired : List (Timer α)}

theorem clock (volley : service.Volley now fired) :
    (service.fire now).state.timers.now = service.clockAt now := by
  rw [volley.state]
  exact Timetable.now_concludeAll _ _ _

theorem nextHandle (volley : service.Volley now fired) :
    (service.fire now).state.timers.nextHandle = service.timers.nextHandle := by
  rw [volley.state]
  exact Timetable.nextHandle_concludeAll _ _ _

theorem sound (volley : service.Volley now fired) (sound : service.timers.Sound) :
    (service.fire now).state.timers.Sound := by
  rw [volley.state]
  exact (sound.advance now).concludeAll _ _

theorem firings (volley : service.Volley now fired) :
    service.firings now = fired.map (Timer.firing (service.clockAt now)) := by
  rw [Service.firings, volley.clock, volley.log, Timer.firings_log]

theorem queue (volley : service.Volley now fired) :
    (service.fire now).state.queue =
      { service.queue with
        waiting := service.queue.waiting ++ (service.firings now).map Firing.input } := by
  rw [volley.firings, List.map_map, volley.state]
  rfl

end Volley

theorem now_fire {service : Service α} (sound : service.timers.Sound) (now : Time) :
    (service.fire now).state.timers.now = service.clockAt now := by
  rcases exists_volley sound now with ⟨fired, volley⟩
  exact volley.clock

/-- A timer fires once or not at all.  If it does not although nothing was
refused, it is not due. -/
theorem fire_pending {service : Service α} (sound : service.timers.Sound) (now : Time)
    {timer : Timer α} (pending : service.timers.find? timer.handle = some timer) :
    (timer.due ≤ service.clockAt now ∧
        (service.firings now).filter (fun firing => firing.handle = timer.handle) =
          [timer.firing (service.clockAt now)] ∧
        (service.fire now).state.timers.find? timer.handle =
          timer.next? (service.clockAt now)) ∨
      ((service.firings now).filter (fun firing => firing.handle = timer.handle) = [] ∧
        (service.fire now).state.timers.find? timer.handle = some timer ∧
        ∀ count, (service.fire now).result = .ok count → service.clockAt now < timer.due) := by
  rcases exists_volley sound now with ⟨fired, volley⟩
  have inside := List.mem_of_find?_eq_some pending
  rw [volley.firings, volley.state]
  by_cases fires : timer ∈ fired
  · refine Or.inl ⟨(volley.due timer fires).2, ?_, ?_⟩
    · exact Timer.firings_of_mem _ volley.distinct fires
    · exact Timetable.find?_concludeAll_of_mem _ volley.distinct pending fires
  · have others : ∀ other ∈ fired, other.handle ≠ timer.handle := by
      intro other member same
      have listed := sound.find?_eq (volley.due other member).1
      rw [same, pending] at listed
      cases listed
      exact fires member
    refine Or.inr ⟨Timer.firings_of_not_mem _ others, ?_, ?_⟩
    · exact (Timetable.find?_concludeAll_of_not_mem _ others _).trans pending
    · intro count ok
      apply UInt64.not_le.mp
      intro due
      exact fires (volley.complete count ok timer inside due)

theorem fire_absent {service : Service α} (sound : service.timers.Sound) (now : Time)
    {handle : Handle} (absent : service.timers.find? handle = none) :
    (service.firings now).filter (fun firing => firing.handle = handle) = [] ∧
      (service.fire now).state.timers.find? handle = none := by
  rcases exists_volley sound now with ⟨fired, volley⟩
  have others : ∀ timer ∈ fired, timer.handle ≠ handle := by
    intro timer member same
    have listed := sound.find?_eq (volley.due timer member).1
    rw [same, absent] at listed
    cases listed
  rw [volley.firings, volley.state]
  exact ⟨Timer.firings_of_not_mem _ others,
    (Timetable.find?_concludeAll_of_not_mem _ others _).trans absent⟩

end Service
end ReactiveGraph
