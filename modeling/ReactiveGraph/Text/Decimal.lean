namespace ReactiveGraph
namespace Text

/-!
# Decimal numerals

Counts, ranks, times and capacities are written in base ten, without sign,
leading zeros or grouping.
-/

/-- The decimal digits of a number, most significant first. -/
def decimalDigits (n : Nat) : List Char :=
  Nat.toDigits 10 n

def decimal (n : Nat) : String :=
  String.ofList (decimalDigits n)

end Text
end ReactiveGraph
