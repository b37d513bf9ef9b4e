import ReactiveGraph.Queue
import ReactiveGraph.Sorting
import ReactiveGraph.Time

namespace ReactiveGraph

/-!
# Timeouts

A timetable turns the passage of time into input.  It owns no clock: the
application says what time it is, and every timer that is due by then hands
its value to the input queue, in the order of due times and, among equal
ones, of scheduling.  A timer is concluded only once its value has
been accepted; a full queue leaves it pending for the next attempt.
-/

/-- A value to be submitted at its due time, and then again after each period
if there is one. -/
structure Timer (α : Type) where
  handle : Handle
  due : Time
  period : Option Time
  input : Input α

/-- The pending timers of one service, in the order of scheduling, with the
latest time heard of. -/
structure Timetable (α : Type) where
  now : Time := 0
  nextHandle : Handle := 0
  timers : List (Timer α) := []

namespace Timetable

variable {α : Type}

def insert (table : Timetable α) (due : Time) (period : Option Time) (input : Input α) :
    Handle × Timetable α :=
  (table.nextHandle,
    { table with
      nextHandle := table.nextHandle + 1
      timers := table.timers ++ [⟨table.nextHandle, due, period, input⟩] })

def schedule (table : Timetable α) (input : Input α) (delay : Time) : Handle × Timetable α :=
  table.insert (table.now.after delay) none input

/-- Have the input submitted at every multiple of the period, counted from
the current time.  A period of zero is taken for one. -/
def scheduleEvery (table : Timetable α) (input : Input α) (period : Time) :
    Handle × Timetable α :=
  let period := if period = 0 then 1 else period
  table.insert (table.now.after period) (some period) input

def find? (table : Timetable α) (handle : Handle) : Option (Timer α) :=
  table.timers.find? fun timer => timer.handle = handle

def isPending (table : Timetable α) (handle : Handle) : Bool :=
  (table.find? handle).isSome

def size (table : Timetable α) : Nat :=
  table.timers.length

def remove (table : Timetable α) (handle : Handle) : Timetable α :=
  { table with timers := table.timers.filter fun timer => timer.handle ≠ handle }

/-- Withdraw a timer and tell whether it was still pending.  A handle that
is not pending is left alone. -/
def cancel (table : Timetable α) (handle : Handle) : Bool × Timetable α :=
  if table.isPending handle then (true, table.remove handle) else (false, table)

def earliestDue? (table : Timetable α) : Option Time :=
  (table.timers.map Timer.due).min?

def advance (table : Timetable α) (now : Time) : Timetable α :=
  { table with now := if table.now ≤ now then now else table.now }

/-- Whether one timer fires before the other: it is due earlier, or at the
same time and was scheduled no later. -/
def firesBefore (a b : Timer α) : Bool :=
  a.due < b.due || (a.due = b.due && a.handle ≤ b.handle)

def dueBy (table : Timetable α) (now : Time) : List (Timer α) :=
  Sorting.sort (firesBefore · ·) (table.timers.filter fun timer => timer.due ≤ now)

/-- The first due time of a periodic timer that lies behind `now`, if time
lasts that long.  Periods missed in between are skipped. -/
def nextDue? (due period now : Time) : Option Time :=
  (((now.since due) / period).add? 1).bind fun steps =>
    (steps.mul? period).bind fun distance => distance.add? due

/-- Take note that the value of a timer was accepted at `now`: a periodic
timer moves to its next due time, any other leaves the table, and so does a
periodic one that would be due after the end of time. -/
def conclude (table : Timetable α) (handle : Handle) (now : Time) : Timetable α :=
  match table.find? handle with
  | none => table
  | some timer =>
      match timer.period.bind fun period => nextDue? timer.due period now with
      | none => table.remove handle
      | some due =>
          { table with
            timers := table.timers.map fun other =>
              if other.handle = handle then { other with due } else other }

end Timetable

/-- A timetable together with the queue it feeds. -/
structure Service (α : Type) where
  timers : Timetable α := {}
  queue : InputQueue α := {}

namespace Service

variable {α : Type}

def submit (service : Service α) (input : Input α) : Outcome α (Service α) Unit :=
  (service.queue.submit input).within fun queue => { service with queue }

def fireOne (now : Time) (timer : Timer α) (service : Service α) : Outcome α (Service α) Unit :=
  (service.submit timer.input).andThen fun _ service =>
    ⟨{ service with timers := service.timers.conclude timer.handle now },
      [.elapsed timer.handle], .ok ()⟩

def fireEach (now : Time) : List Handle → Service α → Outcome α (Service α) Nat
  | [], service => .done service 0
  | handle :: rest, service =>
      match service.timers.find? handle with
      | none => fireEach now rest service
      | some timer =>
          (fireOne now timer service).andThen fun _ service =>
            (fireEach now rest service).andThen fun count service => .done service (count + 1)

/-- Set the clock forward to `now`, never back, and submit every value that
is due.  Stops at the first one the queue refuses, which stays pending like
all that come after it. -/
def fire (service : Service α) (now : Time) : Outcome α (Service α) Nat :=
  let timers := service.timers.advance now
  fireEach timers.now ((timers.dueBy timers.now).map Timer.handle) { service with timers }

end Service
end ReactiveGraph
