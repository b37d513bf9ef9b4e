namespace ReactiveGraph
namespace Text

/-!
# Tables of character ranges

A character class is given as the list of the code point ranges it consists
of, both ends included.
-/

def inRanges (ranges : List (Nat × Nat)) (c : Char) : Bool :=
  ranges.any fun range => range.1 ≤ c.toNat && c.toNat ≤ range.2

end Text
end ReactiveGraph
