import Mathlib.Tactic.Ring
import ReactiveGraph.Proofs.LifeCycle

namespace ReactiveGraph

/-!
# The cadence of periodic timers

A periodic timer is due at the multiples of its period, counted from the time
at which it was scheduled.  The number of the multiple that was reached last
is the index of a point in time.  However late a timer fires, however many
multiples it has missed and however often the queue has refused it, the next
time it is due is the multiple after the index of its last firing.  So it
neither drifts nor fires twice for one multiple.
-/

variable {α : Type}

/-- When a periodic timer was scheduled, and its period. -/
structure Rhythm where
  start : Time
  period : Nat

namespace Rhythm

def index (rhythm : Rhythm) (now : Time) : Nat :=
  (now.toNat - rhythm.start.toNat) / rhythm.period

def last (rhythm : Rhythm) (firings : List (Firing α)) : Nat :=
  (firings.getLast?.map fun firing => rhythm.index firing.now).getD 0

theorem last_concat (rhythm : Rhythm) (firings : List (Firing α)) (firing : Firing α) :
    rhythm.last (firings ++ [firing]) = rhythm.index firing.now := by
  rw [last, List.getLast?_concat]
  rfl

/-- The timer is due at the multiple that follows an index. -/
structure Follows (rhythm : Rhythm) (index : Nat) (timer : Timer α) : Prop where
  due : timer.due.toNat = rhythm.start.toNat + (index + 1) * rhythm.period
  period : ∃ period, timer.period = some period ∧ period.toNat = rhythm.period

variable {rhythm : Rhythm} {index : Nat} {timer : Timer α}

theorem Follows.due_iff (follows : rhythm.Follows index timer) (positive : 0 < rhythm.period)
    (now : Time) : timer.due ≤ now ↔ index < rhythm.index now := by
  have product : 0 < (index + 1) * rhythm.period := Nat.mul_pos (Nat.succ_pos index) positive
  rw [UInt64.le_iff_toNat_le, follows.due, Rhythm.index, Nat.lt_iff_add_one_le,
    Nat.le_div_iff_mul_le positive]
  omega

/-- The multiple after the present one, as seen from the time at which the
timer was due. -/
theorem Follows.onward (follows : rhythm.Follows index timer) (positive : 0 < rhythm.period)
    {now : Time} (due : timer.due ≤ now) :
    timer.due.toNat + ((now.toNat - timer.due.toNat) / rhythm.period + 1) * rhythm.period =
      rhythm.start.toNat + (rhythm.index now + 1) * rhythm.period := by
  have reached := UInt64.le_iff_toNat_le.mp due
  have elapsed : now.toNat - rhythm.start.toNat =
      now.toNat - timer.due.toNat + (index + 1) * rhythm.period := by
    have := follows.due
    omega
  rw [Rhythm.index, elapsed, Nat.add_mul_div_right _ _ positive, follows.due]
  ring

/-- A timer that fires moves on to the multiple after the present one, or
there is none any more. -/
theorem Follows.next (follows : rhythm.Follows index timer) (positive : 0 < rhythm.period)
    {now : Time} (due : timer.due ≤ now) :
    (timer.next? now = none ∧
        Time.last.toNat < rhythm.start.toNat + (rhythm.index now + 1) * rhythm.period) ∨
      ∃ next, timer.next? now = some { timer with due := next } ∧
        rhythm.Follows (rhythm.index now) { timer with due := next } := by
  rcases follows.period with ⟨period, periodic, value⟩
  have nonzero : period ≠ 0 := by
    rintro rfl
    exact Nat.ne_of_gt positive value.symm
  have onward := follows.onward positive due
  rw [← value] at onward
  rw [Timer.next?, periodic, Option.bind_some, ← value, ← onward]
  cases moved : Timetable.nextDue? timer.due period now with
  | none => exact Or.inl ⟨rfl, (Timetable.nextDue?_eq_none_iff nonzero).mp moved⟩
  | some next =>
      refine Or.inr ⟨next, rfl, ?_, period, rfl, value⟩
      exact ((Timetable.nextDue?_eq_some_iff nonzero).mp moved).trans (value ▸ onward)

end Rhythm

namespace Service

/-- A periodic timer is pending for the multiple after its last firing, or it
is over. -/
inductive Beats (rhythm : Rhythm) (handle : Handle) (input : Input α) (uses : List (Use α))
    (service : Service α) : Prop where
  | pending (timer : Timer α) (found : (service.after uses).timers.find? handle = some timer)
      (input_eq : timer.input = input)
      (follows : rhythm.Follows (rhythm.last (service.firedBy handle uses)) timer)
  | ended (known : handle < (service.after uses).timers.nextHandle)
      (gone : (service.after uses).timers.find? handle = none)

theorem Beats.perform {rhythm : Rhythm} (positive : 0 < rhythm.period) {handle : Handle}
    {input : Input α} {uses : List (Use α)} {service : Service α} (sound : service.timers.Sound)
    (beats : Beats rhythm handle input uses service) (use : Use α) :
    Beats rhythm handle input (uses ++ [use]) service := by
  have sound := sound_after sound uses
  have fired := service.firedBy_concat handle uses use
  have after := service.after_concat uses use
  have further : ∀ {known : Handle}, known < (service.after uses).timers.nextHandle →
      known < (service.after (uses ++ [use])).timers.nextHandle := by
    intro other known
    rw [after]
    exact Nat.lt_of_lt_of_le known (nextHandle_perform sound use)
  cases beats with
  | ended known gone => exact .ended (further known) (after ▸ absent_perform sound use known gone)
  | pending timer found input_eq follows =>
      have known := further (sound.issued_of_find? found)
      rcases Timetable.handle_of_find? found with rfl
      cases proceeds sound use found with
      | stays pending silent _ _ =>
          rw [silent, List.append_nil] at fired
          exact .pending timer (after ▸ pending) input_eq (fired.symm ▸ follows)
      | withdrawn _ gone _ => exact .ended known (after ▸ gone)
      | fires now _ due once moved =>
          rw [once] at fired
          rcases follows.next positive due with ⟨last, _⟩ | ⟨next, later, follows⟩
          · exact .ended known (after ▸ moved.trans last)
          · refine .pending { timer with due := next } (after ▸ moved.trans later) input_eq ?_
            rw [fired, Rhythm.last_concat]
            exact follows

/-! ## The cadence -/

/-- What can be relied on in a periodic timer after the given uses.  While it
is pending and nothing is refused, it fires exactly once if the index has
grown since its last firing, and not at all otherwise; if something is
refused, it may also stay pending instead.  It is pending until it is
cancelled or has fired for the last time that its rhythm has, and from then on
it never fires. -/
structure Cadence (rhythm : Rhythm) (handle : Handle) (input : Input α) (uses : List (Use α))
    (service : Service α) : Prop where
  succeeds : ∀ now count, (service.after uses).timers.isPending handle = true →
    ((service.after uses).fire now).result = .ok count →
      (service.after uses).firesBy handle (.fire now) =
        let clock := ((service.after uses).fire now).state.timers.now
        if rhythm.last (service.firedBy handle uses) < rhythm.index clock then
          [⟨handle, clock, input⟩]
        else []
  fails : ∀ now error, (service.after uses).timers.isPending handle = true →
    ((service.after uses).fire now).result = .error error →
      let clock := ((service.after uses).fire now).state.timers.now
      ((service.after uses).fire now).state.queue.Refuses error ∧
        ((rhythm.last (service.firedBy handle uses) < rhythm.index clock ∧
            (service.after uses).firesBy handle (.fire now) = [⟨handle, clock, input⟩]) ∨
          ((service.after uses).firesBy handle (.fire now) = [] ∧
            ((service.after uses).fire now).state.timers.isPending handle = true))
  leaves : ∀ use, (service.after uses).timers.isPending handle = true →
    ((service.after uses).perform use).timers.isPending handle = false →
      use = .cancel handle ∨
        ∃ now, use = .fire now ∧
          let clock := ((service.after uses).fire now).state.timers.now
          (service.after uses).firesBy handle use = [⟨handle, clock, input⟩] ∧
            Time.last.toNat < rhythm.start.toNat + (rhythm.index clock + 1) * rhythm.period
  lasts : ∀ now, (service.after uses).timers.isPending handle = true →
    (service.after uses).firesBy handle (.fire now) ≠ [] →
      let clock := ((service.after uses).fire now).state.timers.now
      ((service.after uses).fire now).state.timers.isPending handle = true ↔
        rhythm.start.toNat + (rhythm.index clock + 1) * rhythm.period ≤ Time.last.toNat
  ended : ∀ use, (service.after uses).timers.isPending handle = false →
    ((service.after uses).perform use).timers.isPending handle = false ∧
      (service.after uses).firesBy handle use = []

theorem Beats.cadence {rhythm : Rhythm} (positive : 0 < rhythm.period) {handle : Handle}
    {input : Input α} {uses : List (Use α)} {service : Service α} (sound : service.timers.Sound)
    (beats : Beats rhythm handle input uses service) :
    Cadence rhythm handle input uses service := by
  have sound := sound_after sound uses
  cases beats with
  | ended known gone =>
      have absent := ((service.after uses).timers.isPending_eq_false_iff handle).mpr gone
      have never : ∀ {P : Prop}, (service.after uses).timers.isPending handle = true → P := by
        intro P pending
        exact absurd (absent.symm.trans pending) Bool.false_ne_true
      refine ⟨fun _ _ pending => never pending, fun _ _ pending => never pending,
        fun _ pending => never pending, fun _ pending => never pending, ?_⟩
      intro use _
      rw [Timetable.isPending_eq_false_iff]
      exact ⟨absent_perform sound use known gone, (silent_of_absent sound use gone).1⟩
  | pending timer found input_eq follows =>
      rcases Timetable.handle_of_find? found with rfl
      subst input_eq
      constructor
      case succeeds =>
        intro now count _ ok
        rw [now_fire sound]
        rcases fire_pending sound now found with ⟨due, once, _⟩ | ⟨silent, _, undue⟩
        · rw [if_pos ((follows.due_iff positive _).mp due)]
          exact once
        · have early : ¬rhythm.last (service.firedBy timer.handle uses) <
              rhythm.index ((service.after uses).clockAt now) := by
            rw [← follows.due_iff positive]
            exact UInt64.not_le.mpr (undue count ok)
          rw [if_neg early]
          exact silent
      case fails =>
        intro now error _ failed
        refine ⟨fire_refuses _ now error failed, ?_⟩
        rw [now_fire sound]
        rcases fire_pending sound now found with ⟨due, once, _⟩ | ⟨silent, stays, _⟩
        · exact Or.inl ⟨(follows.due_iff positive _).mp due, once⟩
        · exact Or.inr ⟨silent, (Timetable.isPending_iff _ _).mpr ⟨timer, stays⟩⟩
      case leaves =>
        intro use _ left
        rw [Timetable.isPending_eq_false_iff] at left
        cases proceeds sound use found with
        | stays pending _ _ _ => cases left.symm.trans pending
        | withdrawn use_eq _ _ => exact Or.inl use_eq
        | fires now use_eq due once moved =>
            refine Or.inr ⟨now, use_eq, ?_⟩
            rw [now_fire sound]
            refine ⟨once, ?_⟩
            rcases follows.next positive due with ⟨_, beyond⟩ | ⟨next, later, _⟩
            · exact beyond
            · cases left.symm.trans (moved.trans later)
      case lasts =>
        intro now _ fires
        rw [now_fire sound]
        rcases fire_pending sound now found with ⟨due, _, moved⟩ | ⟨silent, _, _⟩
        · rw [Timetable.isPending, moved]
          rcases follows.next positive due with ⟨last, beyond⟩ | ⟨next, later, onward⟩
          · rw [last]
            exact iff_of_false Bool.false_ne_true (Nat.not_le_of_lt beyond)
          · rw [later]
            exact iff_of_true rfl (onward.due ▸ next.toNat_le_last)
        · exact absurd silent fires
      case ended =>
        intro use absent
        have present := (Timetable.isPending_iff _ _).mpr ⟨timer, found⟩
        exact absurd (absent.symm.trans present) Bool.false_ne_true

/-- The rhythm of a timer that is scheduled now.  A period of zero counts as
one. -/
def rhythmOf (service : Service α) (period : Time) : Rhythm where
  start := service.timers.now
  period := max 1 period.toNat

theorem rhythmOf_positive (service : Service α) (period : Time) :
    0 < (service.rhythmOf period).period :=
  Nat.le_max_left 1 period.toNat

theorem beats_periodic {service : Service α} (sound : service.timers.Sound)
    (front back : List (Use α)) (input : Input α) (period : Time)
    (lasting : (service.after front).timers.now.toNat + max 1 period.toNat ≤ Time.last.toNat) :
    Beats ((service.after front).rhythmOf period)
      ((service.after front).periodic input period).handle input
      (front ++ .scheduleEvery input period :: back) service := by
  rw [List.append_cons]
  induction back using List.reverseRecOn with
  | nil =>
      rcases entered sound front (.scheduleEvery input period) rfl with ⟨_, found, unfired, _⟩
      rw [List.append_nil]
      refine .pending _ found rfl ⟨?_, _, rfl, Time.toNat_period period⟩
      -- before the first firing the index is zero
      rw [unfired, periodic, Time.toNat_after, Time.toNat_period, Nat.min_eq_left lasting]
      exact congrArg (_ + ·) (Nat.one_mul _).symm
  | append_singleton back use ih =>
      rw [← List.append_assoc]
      exact ih.perform (rhythmOf_positive _ period) sound use

/-- A periodic timer keeps its cadence whatever is done with the service, and
is pending to begin with. -/
theorem keeps_cadence (queue : InputQueue α) (front back : List (Use α)) (input : Input α)
    (period : Time)
    (lasting : ((feeding queue).after front).timers.now.toNat + max 1 period.toNat ≤
      Time.last.toNat) :
    ∃ handle, ((feeding queue).after front).issue (.scheduleEvery input period) = [handle] ∧
      ((feeding queue).after (front ++ [.scheduleEvery input period])).timers.isPending handle =
        true ∧
      Cadence (((feeding queue).after front).rhythmOf period) handle input
        (front ++ .scheduleEvery input period :: back) (feeding queue) := by
  have fresh := sound_feeding queue
  rcases entered fresh front (.scheduleEvery input period) rfl with ⟨_, found, _, _⟩
  have beats := beats_periodic fresh front back input period lasting
  refine ⟨_, rfl, (Timetable.isPending_iff _ _).mpr ⟨_, found⟩, ?_⟩
  exact beats.cadence (rhythmOf_positive _ period) fresh

theorem metronome_keeps_cadence :
    ((feeding {} : Service Nat).after [.fire 3]).timers.now.toNat + max 1 (4 : Time).toNat ≤
        Time.last.toNat ∧
      ∃ handle,
        ((feeding {}).after [.fire 3]).issue (.scheduleEvery ⟨.plain "tick", 1⟩ 4) = [handle] ∧
        ((feeding {}).after
          [.fire 3, .scheduleEvery ⟨.plain "tick", 1⟩ 4]).timers.isPending handle = true ∧
        Cadence (((feeding {} : Service Nat).after [.fire 3]).rhythmOf 4) handle
          ⟨.plain "tick", 1⟩
          [.fire 3, .scheduleEvery ⟨.plain "tick", 1⟩ 4, .fire 10, .fire 9, .fire 11]
          (feeding {}) := by
  have lasting : ((feeding {} : Service Nat).after [.fire 3]).timers.now.toNat +
      max 1 (4 : Time).toNat ≤ Time.last.toNat := by
    decide
  exact ⟨lasting,
    keeps_cadence {} [.fire 3] [.fire 10, .fire 9, .fire 11] ⟨.plain "tick", 1⟩ 4 lasting⟩

/-- Scheduled at 3 with a period of 4, a timer is due at 7, 11, 15 and so on.
What it has missed it does not make up for, and the last multiple before the
end of time is the last time it fires. -/
example :
    (feeding {}).fired
        [.fire 3, .scheduleEvery ⟨.plain "tick", 1⟩ 4, .fire 10, .fire 9, .fire 11,
          .fire Time.last, .fire Time.last] =
      [⟨0, 10, ⟨.plain "tick", 1⟩⟩, ⟨0, 11, ⟨.plain "tick", 1⟩⟩,
        ⟨0, Time.last, ⟨.plain "tick", 1⟩⟩] := by
  decide

end Service
end ReactiveGraph
