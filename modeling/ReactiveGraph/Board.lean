import ReactiveGraph.Payload

namespace ReactiveGraph

/-!
# The board of topic values

A topic is a cell with room for one value.  The board holds the latest value
of every topic and remembers which of them were written during the current
pass.  A later write within the pass replaces an earlier one.
-/

/-- The latest value of each topic that ever had one, and the topics written
in the current pass. -/
structure Board (α : Type) where
  values : List (Payload × α) := []
  fresh : List Payload := []

namespace Board

variable {α : Type}

def current? (board : Board α) (topic : Payload) : Option α :=
  board.values.lookup topic

def isFresh (board : Board α) (topic : Payload) : Bool :=
  board.fresh.contains topic

def new? (board : Board α) (topic : Payload) : Option α :=
  if board.isFresh topic then board.current? topic else none

def write (board : Board α) (topic : Payload) (value : α) : Board α :=
  { values := (topic, value) :: board.values.filter fun entry => entry.1 ≠ topic
    fresh := topic :: board.fresh }

/-- The board at the start of the next pass: values stay, none is new. -/
def age (board : Board α) : Board α :=
  { board with fresh := [] }

theorem lookup_filter_ne {topic other : Payload} (different : other ≠ topic)
    (entries : List (Payload × α)) :
    (entries.filter fun entry => entry.1 ≠ topic).lookup other = entries.lookup other := by
  induction entries with
  | nil => rfl
  | cons entry rest ih =>
      obtain ⟨key, value⟩ := entry
      by_cases dropped : key = topic
      · have unequal : (other == key) = false := beq_false_of_ne (dropped ▸ different)
        rw [List.filter_cons_of_neg (by simp [dropped]), List.lookup_cons, unequal, ih]
      · rw [List.filter_cons_of_pos (by simp [dropped]), List.lookup_cons, List.lookup_cons, ih]

theorem current?_write (board : Board α) (topic other : Payload) (value : α) :
    (board.write topic value).current? other =
      if other = topic then some value else board.current? other := by
  by_cases same : other = topic
  · rw [if_pos same, current?, write, List.lookup_cons, beq_iff_eq.mpr same]
  · rw [if_neg same, current?, write, List.lookup_cons, beq_false_of_ne same]
    exact lookup_filter_ne same board.values

theorem isFresh_write (board : Board α) (topic other : Payload) (value : α) :
    (board.write topic value).isFresh other = (other = topic || board.isFresh other) := by
  simp [write, isFresh]

theorem new?_write (board : Board α) (topic other : Payload) (value : α) :
    (board.write topic value).new? other =
      if other = topic then some value else board.new? other := by
  by_cases same : other = topic <;>
    simp [new?, isFresh_write, current?_write, same]

theorem new?_age (board : Board α) (topic : Payload) : board.age.new? topic = none :=
  rfl

theorem current?_age (board : Board α) (topic : Payload) :
    board.age.current? topic = board.current? topic :=
  rfl

end Board
end ReactiveGraph
