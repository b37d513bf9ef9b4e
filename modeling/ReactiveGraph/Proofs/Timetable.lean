import Mathlib.Data.List.Nodup
import ReactiveGraph.Proofs.Sorting
import ReactiveGraph.Timer

namespace ReactiveGraph

/-!
# Timetables

A timetable is looked at one handle at a time: every operation is described
by what it makes of the timer that has a given handle.  This is enough to
know it, because no two timers share a handle.
-/

variable {α : Type}

namespace Time

theorem exists_toNat {n : Nat} (within : n ≤ last.toNat) : ∃ time : Time, time.toNat = n := by
  have size : last.toNat < 2 ^ 64 := last.toNat_lt
  refine ⟨UInt64.ofNat n, ?_⟩
  rw [UInt64.toNat_ofNat', Nat.mod_eq_of_lt (Nat.lt_of_le_of_lt within size)]

theorem toNat_le_last (time : Time) : time.toNat ≤ last.toNat := by
  have bound := time.toNat_lt
  have size : last.toNat + 1 = 2 ^ 64 := by decide
  omega

theorem toNat_period (period : Time) :
    (if period = 0 then 1 else period).toNat = max 1 period.toNat := by
  split
  next zero =>
    subst zero
    rfl
  next nonzero =>
    have positive : period.toNat ≠ 0 := by
      intro zero
      exact nonzero (UInt64.toNat_inj.mp zero)
    omega

end Time

namespace Timetable

/-- The next due time is the product and sum that it is meant to be.  Because
the period is not zero, none of the steps on the way to it leaves time unless
the result does. -/
theorem nextDue?_eq_some_iff {due period now next : Time} (nonzero : period ≠ 0) :
    nextDue? due period now = some next ↔
      next.toNat = due.toNat + ((now.toNat - due.toNat) / period.toNat + 1) * period.toNat := by
  have missed : ((now.since due) / period).toNat = (now.toNat - due.toNat) / period.toNat := by
    rw [UInt64.toNat_div, Time.toNat_since]
  have positive : 0 < period.toNat := by
    apply Nat.pos_of_ne_zero
    intro zero
    exact nonzero (UInt64.toNat_inj.mp zero)
  rw [nextDue?, ← missed]
  constructor
  · intro found
    rcases Option.bind_eq_some_iff.mp found with ⟨steps, counted, later⟩
    rcases Option.bind_eq_some_iff.mp later with ⟨distance, multiplied, added⟩
    rw [Time.add?_eq_some_iff] at counted added
    rw [Time.mul?_eq_some_iff] at multiplied
    rw [added, multiplied, counted, UInt64.toNat_one, Nat.add_comm]
  · intro value
    have reached := next.toNat_le_last
    -- each intermediate result is at most the final one
    have product : (((now.since due) / period).toNat + 1) * period.toNat ≤ Time.last.toNat := by
      omega
    have count := Nat.le_trans (Nat.le_mul_of_pos_right _ positive) product
    rcases Time.exists_toNat count with ⟨steps, counted⟩
    rcases Time.exists_toNat product with ⟨distance, multiplied⟩
    apply Option.bind_eq_some_iff.mpr
    refine ⟨steps, (Time.add?_eq_some_iff _ _ _).mpr counted, ?_⟩
    apply Option.bind_eq_some_iff.mpr
    refine ⟨distance, (Time.mul?_eq_some_iff _ _ _).mpr ?_, (Time.add?_eq_some_iff _ _ _).mpr ?_⟩
    · rw [multiplied, counted]
    · rw [value, multiplied, Nat.add_comm]

/-- There is no next due time only if it would come after the end of time. -/
theorem nextDue?_eq_none_iff {due period now : Time} (nonzero : period ≠ 0) :
    nextDue? due period now = none ↔
      Time.last.toNat <
        due.toNat + ((now.toNat - due.toNat) / period.toNat + 1) * period.toNat := by
  constructor
  · intro absent
    by_contra within
    rcases Time.exists_toNat (Nat.not_lt.mp within) with ⟨next, value⟩
    rw [(nextDue?_eq_some_iff nonzero).mpr value] at absent
    cases absent
  · intro beyond
    apply Option.eq_none_iff_forall_ne_some.mpr
    intro next found
    have value := (nextDue?_eq_some_iff nonzero).mp found
    have reached := next.toNat_le_last
    omega

end Timetable

/-- What becomes of a timer that fires at `now`. -/
def Timer.next? (now : Time) (timer : Timer α) : Option (Timer α) :=
  (timer.period.bind fun period => Timetable.nextDue? timer.due period now).map fun due =>
    { timer with due }

namespace Timetable

theorem handle_of_find? {table : Timetable α} {handle : Handle} {timer : Timer α}
    (found : table.find? handle = some timer) : timer.handle = handle := by
  simpa using List.find?_some found

theorem find?_insert (table : Timetable α) (due : Time) (period : Option Time) (input : Input α)
    (handle : Handle) :
    (table.insert due period input).2.find? handle =
      (table.find? handle).or
        (if table.nextHandle = handle then some ⟨table.nextHandle, due, period, input⟩
          else none) := by
  rw [insert, find?, find?, List.find?_append]
  congr 1
  by_cases same : table.nextHandle = handle
  · simp [same]
  · simp [same]

theorem find?_remove (table : Timetable α) (gone handle : Handle) :
    (table.remove gone).find? handle = if handle = gone then none else table.find? handle := by
  rw [remove, find?, find?, List.find?_filter]
  split
  next same =>
    subst same
    rw [List.find?_eq_none]
    simp
  next other =>
    congr 1
    funext timer
    by_cases same : timer.handle = handle
    · simp [same, other]
    · simp [same]

theorem isPending_iff (table : Timetable α) (handle : Handle) :
    table.isPending handle = true ↔ ∃ timer, table.find? handle = some timer :=
  Option.isSome_iff_exists

theorem isPending_eq_false_iff (table : Timetable α) (handle : Handle) :
    table.isPending handle = false ↔ table.find? handle = none :=
  Option.isSome_eq_false_iff.trans Option.isNone_iff_eq_none

theorem find?_cancel (table : Timetable α) (gone handle : Handle) :
    (table.cancel gone).2.find? handle = if handle = gone then none else table.find? handle := by
  rw [cancel]
  cases pending : table.isPending gone with
  | true => exact table.find?_remove gone handle
  | false =>
      rw [if_neg Bool.false_ne_true]
      split
      next same => exact same ▸ (table.isPending_eq_false_iff gone).mp pending
      next => rfl

def putOff (table : Timetable α) (handle : Handle) (due : Time) : Timetable α :=
  { table with
    timers := table.timers.map fun timer =>
      if timer.handle = handle then { timer with due } else timer }

theorem find?_putOff (table : Timetable α) (moved handle : Handle) (due : Time) :
    (table.putOff moved due).find? handle =
      (table.find? handle).map fun timer =>
        if handle = moved then { timer with due } else timer := by
  have kept : ((fun timer : Timer α => decide (timer.handle = handle)) ∘ fun timer =>
      if timer.handle = moved then { timer with due } else timer) =
      fun timer : Timer α => decide (timer.handle = handle) := by
    funext timer
    rw [Function.comp_apply]
    split <;> rfl
  rw [putOff, find?, List.find?_map, kept, find?]
  cases found : table.timers.find? fun timer => decide (timer.handle = handle) with
  | none => rfl
  | some timer =>
      have named : timer.handle = handle := handle_of_find? found
      rw [Option.map_some, Option.map_some, named]

/-- Concluding a timer puts it off or removes it. -/
theorem conclude_cases (table : Timetable α) (handle : Handle) (now : Time) :
    (table.find? handle = none ∧ table.conclude handle now = table) ∨
      ∃ timer, table.find? handle = some timer ∧
        ((timer.next? now = none ∧ table.conclude handle now = table.remove handle) ∨
          ∃ due, timer.next? now = some { timer with due } ∧
            table.conclude handle now = table.putOff handle due) := by
  rw [conclude]
  cases found : table.find? handle with
  | none => exact Or.inl ⟨rfl, rfl⟩
  | some timer =>
      refine Or.inr ⟨timer, rfl, ?_⟩
      rw [Timer.next?]
      cases next : timer.period.bind fun period => nextDue? timer.due period now with
      | none => exact Or.inl ⟨rfl, by simp only [next]⟩
      | some due => exact Or.inr ⟨due, rfl, by simp only [next, putOff]⟩

theorem find?_conclude (table : Timetable α) (concluded handle : Handle) (now : Time) :
    (table.conclude concluded now).find? handle =
      if handle = concluded then (table.find? concluded).bind (Timer.next? now)
      else table.find? handle := by
  rcases table.conclude_cases concluded now with
    ⟨absent, same⟩ | ⟨timer, found, ⟨last, same⟩ | ⟨due, next, same⟩⟩
  · rw [same, absent]
    split
    next same => exact same ▸ absent
    next => rfl
  · rw [same, find?_remove, found, Option.bind_some, last]
  · rw [same, find?_putOff, found, Option.bind_some, next]
    split
    next same =>
      rw [same, found]
      rfl
    next => exact Option.map_id'

/-! ## Handles -/

theorem nextHandle_conclude (table : Timetable α) (handle : Handle) (now : Time) :
    (table.conclude handle now).nextHandle = table.nextHandle := by
  rcases table.conclude_cases handle now with ⟨_, same⟩ | ⟨_, _, ⟨_, same⟩ | ⟨_, _, same⟩⟩ <;>
    rw [same] <;> rfl

theorem now_conclude (table : Timetable α) (handle : Handle) (now : Time) :
    (table.conclude handle now).now = table.now := by
  rcases table.conclude_cases handle now with ⟨_, same⟩ | ⟨_, _, ⟨_, same⟩ | ⟨_, _, same⟩⟩ <;>
    rw [same] <;> rfl

theorem nextHandle_cancel (table : Timetable α) (handle : Handle) :
    (table.cancel handle).2.nextHandle = table.nextHandle := by
  rw [cancel]
  split <;> rfl

theorem now_cancel (table : Timetable α) (handle : Handle) :
    (table.cancel handle).2.now = table.now := by
  rw [cancel]
  split <;> rfl

theorem toNat_now_advance (table : Timetable α) (now : Time) :
    (table.advance now).now.toNat = max table.now.toNat now.toNat := by
  rw [advance]
  dsimp only
  split
  next later => exact (Nat.max_eq_right (UInt64.le_iff_toNat_le.mp later)).symm
  next earlier =>
    have := UInt64.lt_iff_toNat_lt.mp (UInt64.not_le.mp earlier)
    omega

/-- Every pending timer has a handle of its own, below the one to be issued
next, and no period is zero. -/
structure Sound (table : Timetable α) : Prop where
  distinct : (table.timers.map Timer.handle).Nodup
  issued : ∀ timer ∈ table.timers, timer.handle < table.nextHandle
  periods : ∀ timer ∈ table.timers, ∀ period, timer.period = some period → period ≠ 0

theorem sound_empty : (({} : Timetable α)).Sound :=
  ⟨List.nodup_nil, fun _ member => absurd member List.not_mem_nil,
    fun _ member => absurd member List.not_mem_nil⟩

/-- A timer is found under its handle, if no other one has the same. -/
theorem find?_of_mem {table : Timetable α} (distinct : (table.timers.map Timer.handle).Nodup)
    {timer : Timer α} (member : timer ∈ table.timers) :
    table.find? timer.handle = some timer := by
  cases found : table.find? timer.handle with
  | none =>
      have nowhere := List.find?_eq_none.mp found timer member
      exact absurd (decide_eq_true rfl) nowhere
  | some other =>
      have same := handle_of_find? found
      rw [List.inj_on_of_nodup_map distinct (List.mem_of_find?_eq_some found) member same]

theorem Sound.find?_eq {table : Timetable α} (sound : table.Sound) {timer : Timer α}
    (member : timer ∈ table.timers) : table.find? timer.handle = some timer :=
  find?_of_mem sound.distinct member

theorem Sound.issued_of_find? {table : Timetable α} (sound : table.Sound) {handle : Handle}
    {timer : Timer α} (found : table.find? handle = some timer) : handle < table.nextHandle :=
  handle_of_find? found ▸ sound.issued timer (List.mem_of_find?_eq_some found)

theorem Sound.unissued {table : Timetable α} (sound : table.Sound) {handle : Handle}
    (ahead : table.nextHandle ≤ handle) : table.find? handle = none := by
  cases found : table.find? handle with
  | none => rfl
  | some timer => exact absurd (sound.issued_of_find? found) (Nat.not_lt.mpr ahead)

theorem Sound.find?_entered {table : Timetable α} (sound : table.Sound) (due : Time)
    (period : Option Time) (input : Input α) :
    (table.insert due period input).2.find? table.nextHandle =
      some ⟨table.nextHandle, due, period, input⟩ := by
  rw [find?_insert, sound.unissued (Nat.le_refl _), Option.none_or, if_pos rfl]

theorem Sound.insert {table : Timetable α} (sound : table.Sound) (due : Time)
    {period : Option Time} (nonzero : ∀ value, period = some value → value ≠ 0)
    (input : Input α) : (table.insert due period input).2.Sound where
  distinct := by
    rw [Timetable.insert, List.map_append, List.nodup_append]
    refine ⟨sound.distinct, List.nodup_singleton _, ?_⟩
    intro handle earlier other new
    rcases List.mem_map.mp earlier with ⟨timer, member, rfl⟩
    rcases List.mem_singleton.mp new with rfl
    exact Nat.ne_of_lt (sound.issued timer member)
  issued timer member := by
    rcases List.mem_append.mp member with earlier | new
    · exact Nat.lt_succ_of_lt (sound.issued timer earlier)
    · rcases List.mem_singleton.mp new with rfl
      exact Nat.lt_succ_self _
  periods timer member := by
    rcases List.mem_append.mp member with earlier | new
    · exact sound.periods timer earlier
    · rcases List.mem_singleton.mp new with rfl
      exact nonzero

theorem Sound.remove {table : Timetable α} (sound : table.Sound) (handle : Handle) :
    (table.remove handle).Sound where
  distinct := sound.distinct.sublist (List.filter_sublist.map Timer.handle)
  issued timer member := sound.issued timer (List.mem_of_mem_filter member)
  periods timer member := sound.periods timer (List.mem_of_mem_filter member)

theorem Sound.cancel {table : Timetable α} (sound : table.Sound) (handle : Handle) :
    (table.cancel handle).2.Sound := by
  rw [Timetable.cancel]
  split
  · exact sound.remove handle
  · exact sound

theorem Sound.advance {table : Timetable α} (sound : table.Sound) (now : Time) :
    (table.advance now).Sound :=
  ⟨sound.distinct, sound.issued, sound.periods⟩

theorem Sound.putOff {table : Timetable α} (sound : table.Sound) (handle : Handle) (due : Time) :
    (table.putOff handle due).Sound := by
  have handles : (table.putOff handle due).timers.map Timer.handle =
      table.timers.map Timer.handle := by
    rw [Timetable.putOff, List.map_map]
    refine List.map_congr_left fun timer _ => ?_
    rw [Function.comp_apply]
    split <;> rfl
  constructor
  case distinct => exact handles.symm ▸ sound.distinct
  case issued =>
    intro timer member
    rcases List.mem_map.mp member with ⟨other, earlier, rfl⟩
    split <;> exact sound.issued other earlier
  case periods =>
    intro timer member period
    rcases List.mem_map.mp member with ⟨other, earlier, rfl⟩
    split <;> exact sound.periods other earlier period

theorem Sound.conclude {table : Timetable α} (sound : table.Sound) (handle : Handle) (now : Time) :
    (table.conclude handle now).Sound := by
  rcases table.conclude_cases handle now with ⟨_, same⟩ | ⟨_, _, ⟨_, same⟩ | ⟨due, _, same⟩⟩
  · exact same.symm ▸ sound
  · exact same.symm ▸ sound.remove handle
  · exact same.symm ▸ sound.putOff handle due

theorem dueBy_perm (table : Timetable α) (now : Time) :
    (table.dueBy now).Perm (table.timers.filter fun timer => timer.due ≤ now) := by
  rw [dueBy, Sorting.sort_eq_insertionSort]
  exact List.perm_insertionSort _ _

theorem mem_dueBy {table : Timetable α} {now : Time} {timer : Timer α} :
    timer ∈ table.dueBy now ↔ timer ∈ table.timers ∧ timer.due ≤ now := by
  rw [(table.dueBy_perm now).mem_iff, List.mem_filter, decide_eq_true_eq]

theorem dueBy_distinct {table : Timetable α} (distinct : (table.timers.map Timer.handle).Nodup)
    (now : Time) : ((table.dueBy now).map Timer.handle).Nodup :=
  ((table.dueBy_perm now).map Timer.handle).nodup_iff.mpr
    (distinct.sublist (List.filter_sublist.map Timer.handle))

end Timetable
end ReactiveGraph
