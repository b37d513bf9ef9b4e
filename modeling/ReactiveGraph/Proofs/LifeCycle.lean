import Mathlib.Data.List.Induction
import ReactiveGraph.Proofs.Uses

namespace ReactiveGraph

/-!
# The life of a timer

Every handle is issued once.  Its timer stays pending until it fires for the
last time or is withdrawn, and then nothing is heard of the handle again.  A
timer that is to fire once does so at the first opportunity after it is due,
unless the queue is full or it was withdrawn before.  All this is so in the
course of any uses of a service, in whatever order its holders make them and
whatever happens to the queue in the meantime.
-/

variable {α : Type}

namespace Service

theorem issued_after {service : Service α} (sound : service.timers.Sound) (uses : List (Use α)) :
    service.issued uses = List.range' service.timers.nextHandle (service.issued uses).length ∧
      (service.after uses).timers.nextHandle =
        service.timers.nextHandle + (service.issued uses).length := by
  induction uses generalizing service with
  | nil => exact ⟨rfl, rfl⟩
  | cons use rest ih =>
      rcases issue_perform sound use with ⟨first, next⟩
      rcases ih (sound_perform sound use) with ⟨later, last⟩
      have both : service.issued (use :: rest) =
        service.issue use ++ (service.perform use).issued rest := rfl
      rw [next] at later last
      rw [both, List.length_append]
      refine ⟨?_, last.trans (Nat.add_assoc _ _ _)⟩
      calc service.issue use ++ (service.perform use).issued rest
          = List.range' service.timers.nextHandle (service.issue use).length ++
              List.range' (service.timers.nextHandle + (service.issue use).length)
                ((service.perform use).issued rest).length := by
            rw [← first, ← later]
        _ = _ := List.range'_append_1

theorem nextHandle_after {service : Service α} (sound : service.timers.Sound)
    (uses : List (Use α)) :
    service.timers.nextHandle ≤ (service.after uses).timers.nextHandle :=
  (issued_after sound uses).2 ▸ Nat.le_add_right _ _

theorem now_after {service : Service α} (sound : service.timers.Sound) (uses : List (Use α)) :
    service.timers.now ≤ (service.after uses).timers.now := by
  induction uses generalizing service with
  | nil => exact UInt64.le_refl _
  | cons use rest ih =>
      exact UInt64.le_trans (now_perform sound use) (ih (sound_perform sound use))

theorem nextHandle_perform {service : Service α} (sound : service.timers.Sound) (use : Use α) :
    service.timers.nextHandle ≤ (service.perform use).timers.nextHandle :=
  nextHandle_after sound [use]

theorem silent_before {service : Service α} (sound : service.timers.Sound) (uses : List (Use α))
    {handle : Handle} (ahead : (service.after uses).timers.nextHandle ≤ handle) :
    service.firedBy handle uses = [] ∧ handle ∉ service.withdrawn uses := by
  induction uses using List.reverseRecOn with
  | nil => exact ⟨rfl, List.not_mem_nil⟩
  | append_singleton uses use ih =>
      have sound := sound_after sound uses
      rw [after_concat] at ahead
      have ahead := Nat.le_trans (nextHandle_perform sound use) ahead
      rcases ih ahead with ⟨unfired, kept⟩
      rcases silent_of_absent sound use (sound.unissued ahead) with ⟨silent, still⟩
      rw [firedBy_concat, unfired, silent, withdrawn, collect_concat, List.mem_append]
      exact ⟨rfl, not_or_intro kept still⟩

/-- Nothing is heard any more of a handle that was issued and is not
pending. -/
theorem silent_after {service : Service α} (sound : service.timers.Sound) (uses : List (Use α))
    {handle : Handle} (known : handle < service.timers.nextHandle)
    (absent : service.timers.find? handle = none) :
    service.firedBy handle uses = [] ∧ handle ∉ service.withdrawn uses ∧
      (service.after uses).timers.find? handle = none := by
  induction uses using List.reverseRecOn with
  | nil => exact ⟨rfl, List.not_mem_nil, absent⟩
  | append_singleton uses use ih =>
      rcases ih with ⟨unfired, kept, absent⟩
      have known : handle < (service.after uses).timers.nextHandle :=
        Nat.lt_of_lt_of_le known (nextHandle_after sound uses)
      have sound := sound_after sound uses
      rcases silent_of_absent sound use absent with ⟨silent, still⟩
      rw [firedBy_concat, unfired, silent, withdrawn, collect_concat, List.mem_append, after_concat]
      exact ⟨rfl, not_or_intro kept still, absent_perform sound use known absent⟩

theorem gone_of_withdrawn {service : Service α} (sound : service.timers.Sound)
    {uses : List (Use α)} {handle : Handle} (withdrawn : handle ∈ service.withdrawn uses) :
    handle < (service.after uses).timers.nextHandle ∧
      (service.after uses).timers.find? handle = none := by
  induction uses using List.reverseRecOn with
  | nil => exact absurd withdrawn List.not_mem_nil
  | append_singleton uses use ih =>
      have sound := sound_after sound uses
      have next := nextHandle_perform sound use
      rw [Service.withdrawn, collect_concat] at withdrawn
      rw [after_concat]
      rcases List.mem_append.mp withdrawn with earlier | now
      · rcases ih earlier with ⟨known, absent⟩
        exact ⟨Nat.lt_of_lt_of_le known next, absent_perform sound use known absent⟩
      · rcases of_mem_withdrawal now with ⟨rfl, timer, found⟩
        refine ⟨Nat.lt_of_lt_of_le (sound.issued_of_find? found) next, ?_⟩
        rw [perform, Timetable.find?_cancel, if_pos rfl]

theorem withdrawal_nodup (service : Service α) (use : Use α) : (service.withdrawal use).Nodup := by
  cases use with
  | cancel handle =>
      rw [withdrawal]
      split
      · exact List.nodup_singleton handle
      · exact List.nodup_nil
  | _ => exact List.nodup_nil

theorem withdrawn_nodup {service : Service α} (sound : service.timers.Sound)
    (uses : List (Use α)) : (service.withdrawn uses).Nodup := by
  induction uses using List.reverseRecOn with
  | nil => exact List.nodup_nil
  | append_singleton uses use ih =>
      rw [withdrawn, collect_concat, List.nodup_append]
      refine ⟨ih, withdrawal_nodup _ use, ?_⟩
      rintro handle earlier _ now rfl
      have absent := (gone_of_withdrawn sound earlier).2
      exact (silent_of_absent (sound_after sound uses) use absent).2 now

def single (service : Service α) (input : Input α) (delay : Time) : Timer α where
  handle := service.timers.nextHandle
  due := service.timers.now.after delay
  period := none
  input := input

/-- The timer that is entered to fire at every multiple of the period from
now. -/
def periodic (service : Service α) (input : Input α) (period : Time) : Timer α where
  handle := service.timers.nextHandle
  due := service.timers.now.after (if period = 0 then 1 else period)
  period := some (if period = 0 then 1 else period)
  input := input

def entering? : Use α → Service α → Option (Timer α)
  | .schedule input delay, service => some (service.single input delay)
  | .scheduleEvery input period, service => some (service.periodic input period)
  | _, _ => none

/-- A timer that has just been entered is pending, and nothing has been heard
of its handle before. -/
theorem entered {service : Service α} (sound : service.timers.Sound) (uses : List (Use α))
    (use : Use α) {timer : Timer α} (entry : (service.after uses).entering? use = some timer) :
    timer.handle < (service.after (uses ++ [use])).timers.nextHandle ∧
      (service.after (uses ++ [use])).timers.find? timer.handle = some timer ∧
      service.firedBy timer.handle (uses ++ [use]) = [] ∧
      timer.handle ∉ service.withdrawn (uses ++ [use]) := by
  rcases silent_before sound uses (Nat.le_refl _) with ⟨unfired, kept⟩
  have sound := sound_after sound uses
  rw [after_concat, firedBy_concat, withdrawn, collect_concat, List.mem_append]
  cases use with
  | schedule input delay =>
      cases entry
      refine ⟨Nat.lt_succ_self _, sound.find?_entered _ _ _, ?_, not_or_intro kept List.not_mem_nil⟩
      exact (List.append_nil _).trans unfired
  | scheduleEvery input period =>
      cases entry
      refine ⟨Nat.lt_succ_self _, sound.find?_entered _ _ _, ?_, not_or_intro kept List.not_mem_nil⟩
      exact (List.append_nil _).trans unfired
  | _ => cases entry

/-! ## Timers that fire once -/

/-- What has become of a timer in the course of a history: it is pending as
it was scheduled, it has fired once, or it was withdrawn once. -/
inductive Fate (timer : Timer α) (uses : List (Use α)) (service : Service α) : Prop where
  | pending (found : (service.after uses).timers.find? timer.handle = some timer)
      (unfired : service.firedBy timer.handle uses = [])
      (kept : timer.handle ∉ service.withdrawn uses)
  | fired (now : Time) (due : timer.due ≤ now)
      (gone : (service.after uses).timers.find? timer.handle = none)
      (once : service.firedBy timer.handle uses = [timer.firing now])
      (kept : timer.handle ∉ service.withdrawn uses)
  | withdrawn (gone : (service.after uses).timers.find? timer.handle = none)
      (unfired : service.firedBy timer.handle uses = [])
      (once : (service.withdrawn uses).count timer.handle = 1)

/-- One more use seals the fate of a timer or leaves it as it is. -/
theorem Fate.perform {service : Service α} (sound : service.timers.Sound) {uses : List (Use α)}
    {timer : Timer α} (single : timer.period = none)
    (known : timer.handle < (service.after uses).timers.nextHandle)
    (fate : Fate timer uses service) (use : Use α) : Fate timer (uses ++ [use]) service := by
  have sound := sound_after sound uses
  have last : ∀ now, timer.next? now = none := by
    intro now
    rw [Timer.next?, single]
    rfl
  have fired := service.firedBy_concat timer.handle uses use
  have withdrawn : service.withdrawn (uses ++ [use]) =
      service.withdrawn uses ++ (service.after uses).withdrawal use :=
    service.collect_concat withdrawal uses use
  have after := service.after_concat uses use
  cases fate with
  | pending found unfired kept =>
      rw [unfired, List.nil_append] at fired
      cases proceeds sound use found with
      | stays pending silent still undue =>
          refine .pending (after ▸ pending) (fired.trans silent) ?_
          rw [withdrawn, List.mem_append]
          exact not_or_intro kept still
      | fires now use_eq due once moved =>
          subst use_eq
          refine .fired _ due (after ▸ moved.trans (last _)) (fired.trans once) ?_
          rw [withdrawn, List.mem_append]
          exact not_or_intro kept List.not_mem_nil
      | withdrawn use_eq gone once =>
          subst use_eq
          refine .withdrawn (after ▸ gone) fired ?_
          rw [withdrawn, once, List.count_append, List.count_eq_zero.mpr kept,
            List.count_singleton_self]
  | fired now due gone once kept =>
      rcases silent_of_absent sound use gone with ⟨silent, still⟩
      refine .fired now due (after ▸ absent_perform sound use known gone) ?_ ?_
      · rw [fired, once, silent, List.append_nil]
      · rw [withdrawn, List.mem_append]
        exact not_or_intro kept still
  | withdrawn gone unfired once =>
      rcases silent_of_absent sound use gone with ⟨silent, still⟩
      refine .withdrawn (after ▸ absent_perform sound use known gone) ?_ ?_
      · rw [fired, unfired, silent, List.append_nil]
      · rw [withdrawn, List.count_append, once, List.count_eq_zero.mpr still]

theorem fate_single {service : Service α} (sound : service.timers.Sound) (front back : List (Use α))
    (input : Input α) (delay : Time) :
    Fate ((service.after front).single input delay) (front ++ .schedule input delay :: back)
      service := by
  rw [List.append_cons]
  induction back using List.reverseRecOn with
  | nil =>
      rcases entered sound front (.schedule input delay) rfl with ⟨_, found, unfired, kept⟩
      rw [List.append_nil]
      exact .pending found unfired kept
  | append_singleton back use ih =>
      rcases entered sound front (.schedule input delay) rfl with ⟨known, _⟩
      rw [← List.append_assoc]
      refine ih.perform sound rfl ?_ use
      rw [after_append]
      exact Nat.lt_of_lt_of_le known (nextHandle_after (sound_after sound _) back)

/-- A timer that was due when everything due was fired is not pending any
more. -/
theorem Fate.punctual {service : Service α} (sound : service.timers.Sound) {uses : List (Use α)}
    {timer : Timer α} (fate : Fate timer uses service) (single : timer.period = none)
    {now : Time} {count : Nat} (ok : ((service.after uses).fire now).result = .ok count)
    (due : timer.due ≤ ((service.after uses).fire now).state.timers.now) :
    ((service.after uses).fire now).state.timers.find? timer.handle = none := by
  have sound := sound_after sound uses
  cases fate with
  | fired _ _ gone _ _ => exact (fire_absent sound now gone).2
  | withdrawn gone _ _ => exact (fire_absent sound now gone).2
  | pending found unfired _ =>
      rcases fire_pending sound now found with ⟨_, _, moved⟩ | ⟨_, _, undue⟩
      · rw [moved, Timer.next?, single]
        rfl
      · rw [now_fire sound] at due
        exact absurd due (UInt64.not_le.mpr (undue count ok))

/-- What can be relied on in a timer that is scheduled after the uses in
`front` to fire once.  It is due after the delay, or at the end of time.  Once
it was the time to fire it and nothing was refused, it is no longer pending.
-/
structure Single (queue : InputQueue α) (front : List (Use α)) (input : Input α) (delay : Time)
    (back : List (Use α)) (timer : Timer α) : Prop where
  issued : ((feeding queue).after front).issue (.schedule input delay) = [timer.handle]
  input_eq : timer.input = input
  due : timer.due.toNat =
    min (((feeding queue).after front).timers.now.toNat + delay.toNat) Time.last.toNat
  fate : Fate timer (front ++ .schedule input delay :: back) (feeding queue)
  punctual : ∀ middle now count, back = middle ++ [.fire now] →
    (((feeding queue).after (front ++ .schedule input delay :: middle)).fire now).result =
      .ok count →
    timer.due ≤ ((feeding queue).after (front ++ .schedule input delay :: back)).timers.now →
    ((feeding queue).after (front ++ .schedule input delay :: back)).timers.find? timer.handle =
      none

/-- What can be relied on in the timers of a service that has been used since
it was set up.  No handle is issued twice, or withdrawn twice, and no value of
a handle is submitted after it was withdrawn.  Cancelling tells whether the
handle was pending, and changes nothing if it was not.  Firing fails only
because the queue is full, and the clock is never set back. -/
structure LifeCycle (queue : InputQueue α) (uses : List (Use α)) : Prop where
  distinct : ((feeding queue).issued uses).Nodup
  forward : ∀ front back, uses = front ++ back →
    ((feeding queue).after front).timers.now ≤ ((feeding queue).after uses).timers.now
  submits : ∀ front use back, uses = front ++ use :: back → (∀ other, use ≠ .meanwhile other) →
    ((feeding queue).after (front ++ [use])).queue.waiting =
      ((feeding queue).after front).queue.waiting ++
        (((feeding queue).after front).fires use).map Firing.input
  refused : ∀ now error, (((feeding queue).after uses).fire now).result = .error error →
    (((feeding queue).after uses).fire now).state.queue.Refuses error
  single : ∀ front input delay back, uses = front ++ .schedule input delay :: back →
    ∃ timer, Single queue front input delay back timer
  answer : ∀ handle, (((feeding queue).after uses).timers.cancel handle).1 =
    ((feeding queue).after uses).timers.isPending handle
  once : ((feeding queue).withdrawn uses).Nodup
  silent : ∀ front back, uses = front ++ back → ∀ handle ∈ (feeding queue).withdrawn front,
    ((feeding queue).after front).firedBy handle back = []
  gone : ∀ handle, handle ∈ (feeding queue).withdrawn uses ∨ handle ∉ (feeding queue).issued uses →
    ((feeding queue).after uses).timers.isPending handle = false
  idle : ∀ handle, ((feeding queue).after uses).timers.isPending handle = false →
    ((feeding queue).after uses).perform (.cancel handle) = (feeding queue).after uses

theorem single_of_schedule (queue : InputQueue α) (front back : List (Use α)) (input : Input α)
    (delay : Time) :
    Single queue front input delay back (((feeding queue).after front).single input delay) where
  issued := rfl
  input_eq := rfl
  due := Time.toNat_after _ _
  fate := fate_single (sound_feeding queue) front back input delay
  punctual := by
    intro middle now count split ok due
    subst split
    have whole : front ++ .schedule input delay :: (middle ++ [.fire now]) =
        (front ++ .schedule input delay :: middle) ++ [.fire now] :=
      (List.append_assoc front (.schedule input delay :: middle) [.fire now]).symm
    rw [whole, after_concat] at due ⊢
    exact (fate_single (sound_feeding queue) front middle input delay).punctual
      (sound_feeding queue) rfl ok due

/-- Whatever is done with a service, in whatever order, by any of its
holders, its timers keep to their life cycle. -/
theorem life_cycle (queue : InputQueue α) (uses : List (Use α)) : LifeCycle queue uses := by
  have fresh := sound_feeding queue
  rcases issued_after fresh uses with ⟨inOrder, next⟩
  constructor
  case distinct => exact inOrder ▸ List.nodup_range'
  case forward =>
    rintro front back rfl
    rw [after_append]
    exact now_after (sound_after fresh front) back
  case submits =>
    rintro front use back rfl own
    rw [after_concat]
    exact waiting_perform (sound_after fresh front) own
  case refused => exact fun now => fire_refuses _ now
  case single =>
    rintro front input delay back rfl
    exact ⟨_, single_of_schedule queue front back input delay⟩
  case answer =>
    intro handle
    rw [Timetable.cancel]
    cases ((feeding queue).after uses).timers.isPending handle <;> rfl
  case once => exact withdrawn_nodup fresh uses
  case silent =>
    rintro front back rfl handle withdrawn
    rcases gone_of_withdrawn fresh withdrawn with ⟨known, absent⟩
    exact (silent_after (sound_after fresh front) back known absent).1
  case gone =>
    intro handle
    rw [Timetable.isPending_eq_false_iff]
    rintro (withdrawn | unissued)
    · exact (gone_of_withdrawn fresh withdrawn).2
    · apply (sound_after fresh uses).unissued
      rw [inOrder, List.mem_range'_1] at unissued
      rw [next]
      apply Nat.not_lt.mp
      intro below
      exact unissued ⟨Nat.zero_le handle, below⟩
  case idle =>
    intro handle idle
    rw [perform, Timetable.cancel, idle]
    rfl

/-- Two timers are due at once, but the queue has room for one.  The other
fires when it is next told the time, even though the clock is not set back to
that time. -/
example :
    (feeding { capacity := some 1 }).fired
        [.schedule ⟨.plain "door", 3⟩ 5, .schedule ⟨.plain "lamp", 4⟩ 5, .fire 7,
          .meanwhile { capacity := some 1 }, .fire 6] =
      [⟨0, 7, ⟨.plain "door", 3⟩⟩, ⟨1, 7, ⟨.plain "lamp", 4⟩⟩] := by
  decide

end Service
end ReactiveGraph
