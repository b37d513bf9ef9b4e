import Mathlib.Order.Bounds.Defs
import ReactiveGraph.Proofs.Usage

namespace ReactiveGraph

/-!
# Deadlines near the end of time

When a periodic timer has fired, its next deadline is the first multiple of its
period, counted from the one it was due at, that lies behind the clock.  This
is a number like any other; only whether it lies within time decides whether
the timer goes on.  The arithmetic of time words, which finds the deadline in
four steps, gives up in none of them if the deadline lies within time.
-/

variable {α σ : Type}

namespace Timetable

/-- The points at which a timer of the given period could be due again after
`now`, if time had no end. -/
def pointsAhead (due period now : Time) : Set Nat :=
  {point | now.toNat < point ∧ ∃ count, point = due.toNat + count * period.toNat}

/-- The first of these points comes after one more period than have passed. -/
theorem isLeast_pointsAhead {due period now : Time} (positive : 1 ≤ period.toNat)
    (reached : due ≤ now) :
    IsLeast (pointsAhead due period now)
      (due.toNat + ((now.toNat - due.toNat) / period.toNat + 1) * period.toNat) := by
  have reached := UInt64.le_iff_toNat_le.mp reached
  constructor
  · refine ⟨?_, _, rfl⟩
    have beyond := Nat.lt_div_mul_add (a := now.toNat - due.toNat) positive
    rw [Nat.add_mul, Nat.one_mul]
    omega
  · rintro _ ⟨ahead, count, rfl⟩
    have passed : (now.toNat - due.toNat) / period.toNat < count := by
      rw [Nat.div_lt_iff_lt_mul positive]
      omega
    exact Nat.add_le_add_left (Nat.mul_le_mul_right _ passed) _

/-- The words by which the deadline `next` is found.  Each of them is what it
would be if time had no end. -/
structure Reckons (due period now : Time) (next : Nat) (count distance deadline : Time) :
    Prop where
  added : ((now.since due) / period).add? 1 = some count
  count_eq : count.toNat = (now.toNat - due.toNat) / period.toNat + 1
  multiplied : count.mul? period = some distance
  distance_eq : distance.toNat = count.toNat * period.toNat
  reached : distance.add? due = some deadline
  deadline_eq : deadline.toNat = distance.toNat + due.toNat
  next_eq : deadline.toNat = next

/-- A deadline is found only if none of the steps leaves time. -/
theorem reckons_of_nextDue? {due period now next : Time}
    (found : nextDue? due period now = some next) :
    ∃ count distance, Reckons due period now next.toNat count distance next := by
  rcases Option.bind_eq_some_iff.mp found with ⟨count, added, later⟩
  rcases Option.bind_eq_some_iff.mp later with ⟨distance, multiplied, reached⟩
  have count_eq := (Time.add?_eq_some_iff _ _ _).mp added
  rw [UInt64.toNat_div, Time.toNat_since, UInt64.toNat_one] at count_eq
  exact ⟨count, distance, added, count_eq, multiplied, (Time.mul?_eq_some_iff _ _ _).mp multiplied,
    reached, (Time.add?_eq_some_iff _ _ _).mp reached, rfl⟩

/-- What comes of a periodic timer that is concluded at `now`, where `next` is
when it would be due again if time had no end.  If that lies within time, the
timer is put off until then, and none of the steps by which the deadline is
found leaves time.  If not, the timer leaves the table. -/
structure MovesOn (table : Timetable α) (timer : Timer α) (period now : Time) (next : Nat) :
    Prop where
  least : IsLeast (pointsAhead timer.due period now) next
  within : next ≤ Time.last.toNat → ∃ count distance deadline : Time,
    Reckons timer.due period now next count distance deadline ∧
      table.conclude timer.handle now = table.putOff timer.handle deadline
  beyond : Time.last.toNat < next → table.conclude timer.handle now = table.remove timer.handle
  stays : (table.conclude timer.handle now).isPending timer.handle = true ↔
    next ≤ Time.last.toNat

theorem conclude_periodic {table : Timetable α} {timer : Timer α} {period : Time}
    (found : table.find? timer.handle = some timer) (periodic : timer.period = some period)
    (now : Time) :
    table.conclude timer.handle now =
      (nextDue? timer.due period now).elim (table.remove timer.handle)
        (table.putOff timer.handle) := by
  rw [conclude, found]
  dsimp only
  rw [periodic, Option.bind_some]
  cases nextDue? timer.due period now <;> rfl

theorem movesOn {table : Timetable α} {timer : Timer α} {period now : Time}
    (found : table.find? timer.handle = some timer) (periodic : timer.period = some period)
    (positive : 1 ≤ period.toNat) (reached : timer.due ≤ now) :
    MovesOn table timer period now (timer.due.toNat +
      ((now.toNat - timer.due.toNat) / period.toNat + 1) * period.toNat) := by
  have nonzero : period ≠ 0 := by
    rintro rfl
    exact absurd positive (by decide)
  have concluded := conclude_periodic found periodic now
  have least := isLeast_pointsAhead positive reached
  cases moved : nextDue? timer.due period now with
  | none =>
      have late := (nextDue?_eq_none_iff nonzero).mp moved
      have outside : ¬_ ≤ Time.last.toNat := Nat.not_le_of_lt late
      rw [moved] at concluded
      refine ⟨least, fun within => absurd within outside, fun _ => concluded, ?_⟩
      rw [concluded, isPending, Option.elim_none, find?_remove, if_pos rfl]
      exact iff_of_false Bool.false_ne_true outside
  | some deadline =>
      have value := (nextDue?_eq_some_iff nonzero).mp moved
      have early : _ ≤ Time.last.toNat := value ▸ deadline.toNat_le_last
      rcases reckons_of_nextDue? moved with ⟨count, distance, reckons⟩
      rw [moved] at concluded
      refine ⟨least, fun _ => ⟨count, distance, deadline, value ▸ reckons, concluded⟩,
        fun beyond => absurd beyond (Nat.not_lt_of_le early), ?_⟩
      rw [concluded, isPending, Option.elim_some, find?_putOff, found]
      exact iff_of_true rfl early

def Divisible (table : Timetable α) : Prop :=
  ∀ timer ∈ table.timers, ∀ period, timer.period = some period → 1 ≤ period.toNat

theorem Sound.divisible {table : Timetable α} (sound : table.Sound) : table.Divisible := by
  intro timer member period periodic
  apply Nat.one_le_iff_ne_zero.mpr
  intro zero
  exact sound.periods timer member period periodic (UInt64.toNat_inj.mp zero)

/-- Whenever a periodic timer is concluded that is due, it moves on, and in no
table that has come about by using a service or a graph is there a period by
which nothing can be divided. -/
theorem deadlines_exact :
    (∀ (table : Timetable α) (timer : Timer α) (period now : Time),
      table.find? timer.handle = some timer → timer.period = some period → 1 ≤ period.toNat →
        timer.due ≤ now → ∃ next, MovesOn table timer period now next) ∧
      (∀ (queue : InputQueue α) (uses : List (Use α)),
        ((Service.feeding queue).after uses).timers.Divisible) ∧
      ∀ graph : Graph α σ, graph.Reachable → graph.timers.Divisible := by
  refine ⟨?_, ?_, ?_⟩
  · intro table timer period now found periodic positive reached
    exact ⟨_, movesOn found periodic positive reached⟩
  · intro queue uses
    exact (Service.sound_after (Service.sound_feeding queue) uses).divisible
  · rintro _ ⟨config, operations, rfl⟩
    rcases Graph.run_used config operations with ⟨uses, same, _⟩
    have sound := Service.sound_after
      (Service.sound_feeding (Graph.ofConfig config : Graph α σ).queue) uses
    rw [← same] at sound
    exact sound.divisible

/-- A timer with a period of three that fires close to the end of time. -/
theorem triple_moves_on :
    let timer : Timer Nat := ⟨0, 3, some 3, ⟨.plain "tick", 1⟩⟩
    let operations : List (Operation Nat Unit) := [.scheduleEvery timer.input 3]
    let graph := (Graph.run operations (Graph.ofConfig {})).state
    graph.timers.find? timer.handle = some timer ∧ timer.due ≤ Time.last - 4 ∧
      (∃ next, MovesOn graph.timers timer 3 (Time.last - 4) next) ∧ graph.Reachable ∧
        graph.timers.Divisible := by
  intro timer operations graph
  have found : graph.timers.find? timer.handle = some timer := rfl
  have reached : timer.due ≤ Time.last - 4 := by
    decide
  have reachable : graph.Reachable := ⟨{}, operations, rfl⟩
  have deadlines := deadlines_exact (α := Nat) (σ := Unit)
  exact ⟨found, reached, deadlines.1 graph.timers timer 3 _ found rfl (by decide) reached,
    reachable, deadlines.2.2 graph reachable⟩

end Timetable
end ReactiveGraph
