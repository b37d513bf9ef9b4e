import Mathlib.Data.List.Sort
import ReactiveGraph.Sorting

namespace ReactiveGraph
namespace Sorting

/-!
# Sorted orders

The sort by insertion is that of the library, whose theory of permutations and
sorted lists applies to the orders of vertices and timers.
-/

variable {α : Type} (precedes : α → α → Prop) [DecidableRel precedes]

theorem insert_eq_orderedInsert (item : α) (items : List α) :
    insert precedes item items = items.orderedInsert precedes item := by
  induction items with
  | nil => rfl
  | cons head tail ih => rw [insert, ih, List.orderedInsert_cons]

theorem sort_eq_insertionSort (items : List α) :
    sort precedes items = items.insertionSort precedes := by
  induction items with
  | nil => rfl
  | cons head tail ih =>
      rw [sort, List.foldr_cons, insert_eq_orderedInsert, List.insertionSort_cons, ← ih, sort]

end Sorting
end ReactiveGraph
