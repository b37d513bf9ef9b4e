import ReactiveGraph.Proofs.Firing

namespace ReactiveGraph

/-!
# The uses of a service

All holders of a service share its timetable, one at a time, so whatever they
do amounts to a list of uses.  The queue that the service feeds is shared
with everyone who submits or takes inputs; from one use to the next it may
become any queue at all.

What a use shows is which handle it issued, which one it withdrew, and what
it fired.  Any one handle is unaffected by most uses, and there are few ways
in which it can be affected.
-/

variable {α : Type}

/-- What can be done with a service, by any of its holders.  Meanwhile, others
may have done anything to the queue. -/
inductive Use (α : Type) where
  | schedule (input : Input α) (delay : Time)
  | scheduleEvery (input : Input α) (period : Time)
  | cancel (handle : Handle)
  | fire (now : Time)
  | meanwhile (queue : InputQueue α)

namespace Service

/-- A new service that feeds the queue. -/
def feeding (queue : InputQueue α) : Service α where
  queue := queue

def perform : Use α → Service α → Service α
  | .schedule input delay, service =>
      { service with timers := (service.timers.schedule input delay).2 }
  | .scheduleEvery input period, service =>
      { service with timers := (service.timers.scheduleEvery input period).2 }
  | .cancel handle, service => { service with timers := (service.timers.cancel handle).2 }
  | .fire now, service => (service.fire now).state
  | .meanwhile queue, service => { service with queue }

def issue : Use α → Service α → List Handle
  | .schedule input delay, service => [(service.timers.schedule input delay).1]
  | .scheduleEvery input period, service => [(service.timers.scheduleEvery input period).1]
  | _, _ => []

/-- The handle that was cancelled while it was pending. -/
def withdrawal : Use α → Service α → List Handle
  | .cancel handle, service => if (service.timers.cancel handle).1 then [handle] else []
  | _, _ => []

def fires : Use α → Service α → List (Firing α)
  | .fire now, service => service.firings now
  | _, _ => []

def after (uses : List (Use α)) (service : Service α) : Service α :=
  uses.foldl (fun service use => service.perform use) service

def collect {X : Type} (view : Use α → Service α → List X) : List (Use α) → Service α → List X
  | [], _ => []
  | use :: rest, service => view use service ++ collect view rest (service.perform use)

def issued : List (Use α) → Service α → List Handle :=
  collect issue

/-- The handles that were cancelled while they were pending. -/
def withdrawn : List (Use α) → Service α → List Handle :=
  collect withdrawal

def fired : List (Use α) → Service α → List (Firing α) :=
  collect fires

def firedBy (handle : Handle) (uses : List (Use α)) (service : Service α) : List (Firing α) :=
  (service.fired uses).filter fun firing => firing.handle = handle

theorem after_append (front back : List (Use α)) (service : Service α) :
    service.after (front ++ back) = (service.after front).after back :=
  List.foldl_append

theorem collect_append {X : Type} (view : Use α → Service α → List X) (front back : List (Use α))
    (service : Service α) :
    service.collect view (front ++ back) =
      service.collect view front ++ (service.after front).collect view back := by
  induction front generalizing service with
  | nil => rfl
  | cons use front ih =>
      rw [List.cons_append, collect, collect, ih, List.append_assoc]
      rfl

theorem after_concat (uses : List (Use α)) (use : Use α) (service : Service α) :
    service.after (uses ++ [use]) = (service.after uses).perform use :=
  service.after_append uses [use]

theorem collect_concat {X : Type} (view : Use α → Service α → List X) (uses : List (Use α))
    (use : Use α) (service : Service α) :
    service.collect view (uses ++ [use]) =
      service.collect view uses ++ view use (service.after uses) := by
  rw [collect_append, collect, collect, List.append_nil]

def firesBy (handle : Handle) (use : Use α) (service : Service α) : List (Firing α) :=
  (service.fires use).filter fun firing => firing.handle = handle

theorem firedBy_concat (handle : Handle) (uses : List (Use α)) (use : Use α)
    (service : Service α) :
    service.firedBy handle (uses ++ [use]) =
      service.firedBy handle uses ++ (service.after uses).firesBy handle use := by
  rw [firedBy, fired, collect_concat, List.filter_append]
  rfl

theorem sound_perform {service : Service α} (sound : service.timers.Sound) (use : Use α) :
    (service.perform use).timers.Sound := by
  cases use with
  | schedule input delay =>
      apply sound.insert
      intro period impossible
      cases impossible
  | scheduleEvery input period =>
      apply sound.insert
      intro value same
      cases same
      split
      · decide
      · assumption
  | cancel handle => exact sound.cancel handle
  | fire now =>
      rcases exists_volley sound now with ⟨fired, volley⟩
      exact volley.sound sound
  | meanwhile queue => exact sound

theorem sound_feeding (queue : InputQueue α) : (feeding queue).timers.Sound :=
  Timetable.sound_empty

theorem sound_after {service : Service α} (sound : service.timers.Sound) (uses : List (Use α)) :
    (service.after uses).timers.Sound := by
  induction uses generalizing service with
  | nil => exact sound
  | cons use rest ih => exact ih (sound_perform sound use)

/-- The handles issued are those not issued before, in order. -/
theorem issue_perform {service : Service α} (sound : service.timers.Sound) (use : Use α) :
    service.issue use = List.range' service.timers.nextHandle (service.issue use).length ∧
      (service.perform use).timers.nextHandle =
        service.timers.nextHandle + (service.issue use).length := by
  cases use with
  | schedule input delay => exact ⟨rfl, rfl⟩
  | scheduleEvery input period => exact ⟨rfl, rfl⟩
  | cancel handle => exact ⟨rfl, service.timers.nextHandle_cancel handle⟩
  | fire now =>
      rcases exists_volley sound now with ⟨fired, volley⟩
      exact ⟨rfl, volley.nextHandle⟩
  | meanwhile queue => exact ⟨rfl, rfl⟩

theorem now_perform {service : Service α} (sound : service.timers.Sound) (use : Use α) :
    service.timers.now ≤ (service.perform use).timers.now := by
  cases use with
  | schedule input delay => exact UInt64.le_refl _
  | scheduleEvery input period => exact UInt64.le_refl _
  | cancel handle =>
      rw [perform, service.timers.now_cancel]
      exact UInt64.le_refl _
  | fire now =>
      rw [perform, now_fire sound, UInt64.le_iff_toNat_le, toNat_clockAt]
      exact Nat.le_max_left _ _
  | meanwhile queue => exact UInt64.le_refl _

/-- Nothing but firing submits anything. -/
theorem waiting_perform {service : Service α} (sound : service.timers.Sound) {use : Use α}
    (own : ∀ queue, use ≠ .meanwhile queue) :
    (service.perform use).queue.waiting =
      service.queue.waiting ++ (service.fires use).map Firing.input := by
  cases use with
  | schedule input delay => exact (List.append_nil _).symm
  | scheduleEvery input period => exact (List.append_nil _).symm
  | cancel handle => exact (List.append_nil _).symm
  | fire now =>
      rcases exists_volley sound now with ⟨fired, volley⟩
      exact congrArg InputQueue.waiting volley.queue
  | meanwhile queue => exact absurd rfl (own queue)

/-- What can become of a pending timer in one use.  It may stay as it is, but
if it was the time to fire it, something was refused.  It may be due and fire,
or be withdrawn. -/
inductive Proceeds (use : Use α) (service : Service α) (timer : Timer α) : Prop where
  | stays (pending : (service.perform use).timers.find? timer.handle = some timer)
      (silent : service.firesBy timer.handle use = [])
      (kept : timer.handle ∉ service.withdrawal use)
      (undue : ∀ now count, use = .fire now → (service.fire now).result = .ok count →
        service.clockAt now < timer.due)
  | fires (now : Time) (use_eq : use = .fire now) (due : timer.due ≤ service.clockAt now)
      (once : service.firesBy timer.handle use = [timer.firing (service.clockAt now)])
      (moved : (service.perform use).timers.find? timer.handle =
        timer.next? (service.clockAt now))
  | withdrawn (use_eq : use = .cancel timer.handle)
      (gone : (service.perform use).timers.find? timer.handle = none)
      (once : service.withdrawal use = [timer.handle])

theorem proceeds {service : Service α} (sound : service.timers.Sound) (use : Use α)
    {timer : Timer α} (pending : service.timers.find? timer.handle = some timer) :
    Proceeds use service timer := by
  have idle : (∀ now, use ≠ .fire now) → ∀ now count, use = .fire now →
      (service.fire now).result = .ok count → service.clockAt now < timer.due :=
    fun none now _ fire => absurd fire (none now)
  cases use with
  | schedule input delay =>
      refine .stays ?_ rfl List.not_mem_nil (idle fun _ impossible => by cases impossible)
      rw [perform, Timetable.schedule, Timetable.find?_insert, pending, Option.some_or]
  | scheduleEvery input period =>
      refine .stays ?_ rfl List.not_mem_nil (idle fun _ impossible => by cases impossible)
      rw [perform, Timetable.scheduleEvery, Timetable.find?_insert, pending, Option.some_or]
  | cancel handle =>
      by_cases same : timer.handle = handle
      · subst same
        refine .withdrawn rfl ?_ ?_
        · rw [perform, Timetable.find?_cancel, if_pos rfl]
        · have answer := (service.timers.isPending_iff timer.handle).mpr ⟨timer, pending⟩
          rw [withdrawal, Timetable.cancel, if_pos answer]
          rfl
      · refine .stays ?_ rfl ?_ (idle fun _ impossible => by cases impossible)
        · rw [perform, Timetable.find?_cancel, if_neg same, pending]
        · rw [withdrawal]
          split
          · exact fun member => same (List.mem_singleton.mp member)
          · exact List.not_mem_nil
  | fire now =>
      rcases fire_pending sound now pending with ⟨due, once, moved⟩ | ⟨silent, stays, undue⟩
      · exact .fires now rfl due once moved
      · refine .stays stays silent List.not_mem_nil ?_
        intro _ count same ok
        cases same
        exact undue count ok
  | meanwhile queue =>
      exact .stays pending rfl List.not_mem_nil (idle fun _ impossible => by cases impossible)

/-- What is withdrawn was pending. -/
theorem of_mem_withdrawal {service : Service α} {use : Use α} {handle : Handle}
    (member : handle ∈ service.withdrawal use) :
    use = .cancel handle ∧ ∃ timer, service.timers.find? handle = some timer := by
  cases use with
  | cancel other =>
      rw [withdrawal, Timetable.cancel] at member
      cases pending : service.timers.isPending other with
      | false =>
          rw [pending] at member
          exact absurd member List.not_mem_nil
      | true =>
          rw [pending] at member
          rcases List.mem_singleton.mp member with rfl
          exact ⟨rfl, (service.timers.isPending_iff handle).mp pending⟩
  | _ => exact absurd member List.not_mem_nil

theorem silent_of_absent {service : Service α} (sound : service.timers.Sound) (use : Use α)
    {handle : Handle} (absent : service.timers.find? handle = none) :
    service.firesBy handle use = [] ∧ handle ∉ service.withdrawal use := by
  constructor
  · cases use with
    | fire now => exact (fire_absent sound now absent).1
    | _ => rfl
  · intro member
    rcases of_mem_withdrawal member with ⟨_, timer, found⟩
    cases absent.symm.trans found

/-- A handle that was issued and is not pending stays so. -/
theorem absent_perform {service : Service α} (sound : service.timers.Sound) (use : Use α)
    {handle : Handle} (known : handle < service.timers.nextHandle)
    (absent : service.timers.find? handle = none) :
    (service.perform use).timers.find? handle = none := by
  have other : service.timers.nextHandle ≠ handle := (Nat.ne_of_lt known).symm
  cases use with
  | schedule input delay =>
      rw [perform, Timetable.schedule, Timetable.find?_insert, absent, if_neg other, Option.or_none]
  | scheduleEvery input period =>
      rw [perform, Timetable.scheduleEvery, Timetable.find?_insert, absent, if_neg other,
        Option.or_none]
  | cancel gone =>
      rw [perform, Timetable.find?_cancel, absent]
      exact ite_self none
  | fire now => exact (fire_absent sound now absent).2
  | meanwhile queue => exact absent

end Service
end ReactiveGraph
