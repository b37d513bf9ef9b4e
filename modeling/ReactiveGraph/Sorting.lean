namespace ReactiveGraph
namespace Sorting

/-!
# Stable sorting by insertion

Items that compare equal keep their order.  The recursion is on the items, and
not on lengths as in the library's merge sort, so that an order can be found by
evaluation.
-/

variable {α : Type} (precedes : α → α → Prop) [DecidableRel precedes]

/-- Put an item in front of the first one it may precede. -/
def insert (item : α) : List α → List α
  | [] => [item]
  | head :: tail =>
      if precedes item head then item :: head :: tail else head :: insert item tail

def sort (items : List α) : List α :=
  items.foldr (insert precedes) []

end Sorting
end ReactiveGraph
