import ReactiveGraph.Detector

namespace ReactiveGraph

/-!
# Scripted detectors

A script describes a detector as data.  The detector keeps one 64-bit signed
number, its total, and for each topic a list of actions that are carried out
when a value arrives; another list is carried out on completion.  All
arithmetic wraps around.
-/

namespace Script

/-- The value of an expression depends on the value that arrived and on the
detector's total.  Comparisons give one or zero. -/
inductive Expr where
  | literal (value : Int64)
  | arrived
  | total
  | add (a b : Expr)
  | sub (a b : Expr)
  | mul (a b : Expr)
  | less (a b : Expr)
  | equal (a b : Expr)

def Expr.eval (arrived total : Int64) : Expr → Int64
  | literal value => value
  | .arrived => arrived
  | .total => total
  | add a b => a.eval arrived total + b.eval arrived total
  | sub a b => a.eval arrived total - b.eval arrived total
  | mul a b => a.eval arrived total * b.eval arrived total
  | less a b => if a.eval arrived total < b.eval arrived total then 1 else 0
  | equal a b => if a.eval arrived total = b.eval arrived total then 1 else 0

/-- One step of a script.  A branch takes its first list unless the condition
is zero; a cancelled handle is taken as unsigned. -/
inductive Action where
  | setTotal (value : Expr)
  | branch (condition : Expr) (whenTrue whenFalse : List Action)
  | publish (topic : Payload) (value : Expr)
  | publishLater (topic : Payload) (value : Expr)
  | schedule (topic : Payload) (value : Expr) (delay : Time)
  | scheduleEvery (topic : Payload) (value : Expr) (period : Time)
  | submit (topic : Payload) (value : Expr)
  | cancel (handle : Expr)
  | fire (now : Time)
  | look

mutual

/-- Carry out an action.  The result is the new total. -/
def Action.perform (arrived total : Int64) : Action → Routine Int64 Int64
  | .setTotal value => .done (value.eval arrived total)
  | .branch condition whenTrue whenFalse =>
      if condition.eval arrived total ≠ 0 then performAll arrived whenTrue total
      else performAll arrived whenFalse total
  | .publish topic value => .publish topic (value.eval arrived total) (.done total)
  | .publishLater topic value => .publishLater topic (value.eval arrived total) (.done total)
  | .schedule topic value delay =>
      .schedule topic (value.eval arrived total) delay fun _ => .done total
  | .scheduleEvery topic value period =>
      .scheduleEvery topic (value.eval arrived total) period fun _ => .done total
  | .submit topic value => .submit topic (value.eval arrived total) fun _ => .done total
  | .cancel handle => .cancel (handle.eval arrived total).toUInt64.toNat fun _ => .done total
  | .fire now => .fire now fun _ => .done total
  | .look => .look fun _ => .done total

def performAll (arrived : Int64) : List Action → (total : Int64) → Routine Int64 Int64
  | [], total => .done total
  | action :: rest, total => (action.perform arrived total).bind (performAll arrived rest)

end

end Script

structure Script where
  onValue : List (Payload × List Script.Action) := []
  onComplete : List Script.Action := []

/-- The state of a scripted detector, which can be found again by the name of
its kind. -/
structure Worker where
  kind : String
  total : Int64 := 0
  deriving DecidableEq

namespace Script

def drive (worker : Worker) (arrived : Int64) (actions : List Action) : Routine Int64 Worker :=
  (performAll arrived actions worker.total).bind fun total => .done { worker with total }

def behaviour (script : Script) : Behaviour Int64 Worker where
  onValue _ topic value worker := drive worker value ((script.onValue.lookup topic).getD [])
  onComplete _ worker := drive worker 0 script.onComplete

/-- A detector of the given kind that follows the script. -/
def detector (script : Script) (kind typeName : String) (declarations : List Declaration) :
    Detector Int64 Worker where
  typeName
  wiring _ := .ofList declarations
  behaviour := script.behaviour
  state := { kind }

end Script
end ReactiveGraph
