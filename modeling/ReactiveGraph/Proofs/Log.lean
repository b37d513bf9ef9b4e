import ReactiveGraph.Board
import ReactiveGraph.Queue

namespace ReactiveGraph

/-!
# Reading the log

The events of an activity are its log.  A question about what happened is
answered by the events of one kind, taken in order: what the queue took in
and gave out, what the topics received, and whom a pass called.
-/

namespace Event

variable {α : Type}

def accepted? : Event α → Option (Input α)
  | accepted input => some input
  | _ => none

def consumed? : Event α → Option (Input α)
  | consumed input => some input
  | _ => none

theorem consumed?_eq_some_iff {event : Event α} {input : Input α} :
    event.consumed? = some input ↔ event = .consumed input := by
  cases event <;> simp [consumed?]

def elapsed? : Event α → Option Handle
  | elapsed handle => some handle
  | _ => none

def written? : Event α → Option (Input α)
  | wrote topic value => some ⟨topic, value⟩
  | _ => none

def delivery? : Event α → Option (DetectorId × Payload × α)
  | evaluated detector topic value => some (detector, topic, value)
  | _ => none

def completion? : Event α → Option DetectorId
  | completed detector => some detector
  | _ => none

def isCall : Event α → Bool
  | evaluated .. => true
  | completed .. => true
  | _ => false

def published? : Event α → Option (DetectorId × Input α)
  | published detector topic value => some (detector, ⟨topic, value⟩)
  | _ => none

/-- Whether the queue took something in, by itself or for a timeout. -/
def isIntake : Event α → Bool
  | accepted .. => true
  | elapsed .. => true
  | _ => false

/-- Whether the event can be the doing of a detector that is running, as
opposed to that of the pass. -/
def isInner : Event α → Bool
  | consumed .. => false
  | wrote .. => false
  | evaluated .. => false
  | completed .. => false
  | _ => true

/-- A running detector calls no detector and neither takes an input nor
writes to a topic. -/
theorem isInner_none {event : Event α} (inner : event.isInner = true) :
    event.isCall = false ∧ event.consumed? = none ∧ event.written? = none := by
  cases event <;> simp_all [isInner, isCall, consumed?, written?]

/-- What the queue takes in, it may well take from a running detector. -/
theorem isInner_of_isIntake {event : Event α} (intake : event.isIntake = true) :
    event.isInner = true := by
  cases event <;> first | rfl | cases intake

end Event

namespace Log

variable {α : Type}

theorem calls_inner {log : List (Event α)} (inner : ∀ event ∈ log, event.isInner = true) :
    log.filter Event.isCall = [] :=
  List.filter_eq_nil_iff.mpr fun event member => by
    simp only [(Event.isInner_none (inner event member)).1, Bool.false_eq_true, not_false_eq_true]

theorem written_inner {log : List (Event α)} (inner : ∀ event ∈ log, event.isInner = true) :
    log.filterMap Event.written? = [] :=
  List.filterMap_eq_nil_iff.mpr fun event member => (Event.isInner_none (inner event member)).2.2

theorem published_intake {log : List (Event α)} (intake : ∀ event ∈ log, event.isIntake = true) :
    log.filterMap Event.published? = [] := by
  apply List.filterMap_eq_nil_iff.mpr
  intro event member
  have taken := intake event member
  cases event <;> first | rfl | cases taken

theorem calls_map {X : Type} (event : X → Event α) (silent : ∀ item, (event item).isCall = false)
    (items : List X) : (items.map event).filter Event.isCall = [] := by
  rw [List.filter_eq_nil_iff]
  intro other member
  rcases List.mem_map.mp member with ⟨item, _, rfl⟩
  rw [silent item]
  exact Bool.false_ne_true

theorem deliveries_calls (log : List (Event α)) :
    (log.filter Event.isCall).filterMap Event.delivery? = log.filterMap Event.delivery? := by
  rw [List.filterMap_filter]
  congr 1
  funext event
  cases event <;> rfl

theorem completions_calls (log : List (Event α)) :
    (log.filter Event.isCall).filterMap Event.completion? = log.filterMap Event.completion? := by
  rw [List.filterMap_filter]
  congr 1
  funext event
  cases event <;> rfl

end Log

namespace Board

variable {α : Type}

def writeAll (board : Board α) (inputs : List (Input α)) : Board α :=
  inputs.foldl (fun board input => board.write input.topic input.value) board

theorem writeAll_append (board : Board α) (front back : List (Input α)) :
    board.writeAll (front ++ back) = (board.writeAll front).writeAll back :=
  List.foldl_append

/-- Whatever shows the last value written to a topic shows the last of
several. -/
theorem last_writeAll (view : Board α → Option α) {topic : Payload}
    (write : ∀ board other value, view (Board.write board other value) =
      if topic = other then some value else view board)
    (board : Board α) (inputs : List (Input α)) :
    view (board.writeAll inputs) =
      (inputs.filterMap fun input => input.value? topic).getLast?.or (view board) := by
  induction inputs generalizing board with
  | nil => rfl
  | cons input rest ih =>
      have step : (board.writeAll (input :: rest)) =
        (board.write input.topic input.value).writeAll rest := rfl
      rw [step, ih, write]
      by_cases same : input.topic = topic
      · simp only [same, if_true, List.filterMap_cons, Input.value?, List.getLast?_cons]
        cases (rest.filterMap fun input =>
          if input.topic = topic then some input.value else none).getLast? <;> rfl
      · simp only [Ne.symm same, same, if_false, List.filterMap_cons, Input.value?]

theorem new?_writeAll (board : Board α) (inputs : List (Input α)) (topic : Payload) :
    (board.writeAll inputs).new? topic =
      (inputs.filterMap fun input => input.value? topic).getLast?.or (board.new? topic) :=
  last_writeAll (fun board => board.new? topic)
    (fun board other value => board.new?_write other topic value) board inputs

theorem current?_writeAll (board : Board α) (inputs : List (Input α)) (topic : Payload) :
    (board.writeAll inputs).current? topic =
      (inputs.filterMap fun input => input.value? topic).getLast?.or (board.current? topic) :=
  last_writeAll (fun board => board.current? topic)
    (fun board other value => board.current?_write other topic value) board inputs

theorem new?_writeAll_of_ne {board : Board α} {inputs : List (Input α)} {topic : Payload}
    (untouched : ∀ input ∈ inputs, input.topic ≠ topic) :
    (board.writeAll inputs).new? topic = board.new? topic := by
  have none : (inputs.filterMap fun input => input.value? topic) = [] :=
    List.filterMap_eq_nil_iff.mpr fun input member => if_neg (untouched input member)
  rw [new?_writeAll, none]
  rfl

theorem isFresh_writeAll {board : Board α} {inputs : List (Input α)} {topic : Payload} :
    (board.writeAll inputs).isFresh topic = true ↔
      (∃ input ∈ inputs, input.topic = topic) ∨ board.isFresh topic = true := by
  induction inputs generalizing board with
  | nil => simp [writeAll]
  | cons input rest ih =>
      have step : (board.writeAll (input :: rest)) =
        (board.write input.topic input.value).writeAll rest := rfl
      have write : (board.write input.topic input.value).isFresh topic = true ↔
          input.topic = topic ∨ board.isFresh topic = true := by
        rw [isFresh_write, Bool.or_eq_true, decide_eq_true_eq, eq_comm]
      rw [step, ih, write, ← or_assoc]
      apply or_congr_left
      constructor
      · rintro (⟨other, member, same⟩ | same)
        · exact ⟨other, List.mem_cons_of_mem input member, same⟩
        · exact ⟨input, List.mem_cons_self, same⟩
      · rintro ⟨other, member, same⟩
        rcases List.mem_cons.mp member with rfl | member
        · exact Or.inr same
        · exact Or.inl ⟨other, member, same⟩

/-- Exactly the topics marked as new have a new value. -/
def Sound (board : Board α) : Prop :=
  ∀ topic, board.isFresh topic = (board.new? topic).isSome

theorem sound_age (board : Board α) : board.age.Sound :=
  fun _ => rfl

theorem Sound.write {board : Board α} (sound : board.Sound) (topic : Payload) (value : α) :
    (board.write topic value).Sound := by
  intro other
  rw [isFresh_write, new?_write]
  by_cases same : other = topic
  · simp [same]
  · simp [same, sound other]

theorem Sound.writeAll {board : Board α} (sound : board.Sound) (inputs : List (Input α)) :
    (board.writeAll inputs).Sound := by
  induction inputs generalizing board with
  | nil => exact sound
  | cons input rest ih => exact ih (sound.write input.topic input.value)

end Board
end ReactiveGraph
