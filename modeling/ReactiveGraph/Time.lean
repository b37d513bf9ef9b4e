namespace ReactiveGraph

/-!
# Time

Points in time and durations are unsigned 64-bit numbers in a unit of the
application's choice.  Time has an end, and arithmetic near it either stops
there or reports that the sum or product does not exist.
-/

/-- A point in time or a duration. -/
abbrev Time := UInt64

namespace Time

/-- The end of time. -/
def last : Time := 18446744073709551615

/-- The point `delay` after `start`, or the end of time if that comes
first. -/
def after (start delay : Time) : Time :=
  if start.toNat + delay.toNat < UInt64.size then start + delay else last

/-- How far `later` lies behind `earlier`, and zero if it does not. -/
def since (later earlier : Time) : Time :=
  if earlier ≤ later then later - earlier else 0

def add? (a b : Time) : Option Time :=
  if a.toNat + b.toNat < UInt64.size then some (a + b) else none

def mul? (a b : Time) : Option Time :=
  if a.toNat * b.toNat < UInt64.size then some (a * b) else none

theorem toNat_after (start delay : Time) :
    (start.after delay).toNat = min (start.toNat + delay.toNat) last.toNat := by
  have bound : last.toNat + 1 = UInt64.size := by decide
  by_cases within : start.toNat + delay.toNat < UInt64.size
  · rw [after, if_pos within, UInt64.toNat_add, Nat.mod_eq_of_lt within]
    omega
  · rw [after, if_neg within]
    omega

theorem toNat_since (later earlier : Time) :
    (later.since earlier).toNat = later.toNat - earlier.toNat := by
  by_cases order : earlier ≤ later
  · rw [since, if_pos order, UInt64.toNat_sub_of_le _ _ order]
  · rw [since, if_neg order]
    have reversed := UInt64.not_le.mp order
    have := UInt64.lt_iff_toNat_lt.mp reversed
    simp only [UInt64.toNat_zero]
    omega

theorem add?_eq_some_iff (a b c : Time) : a.add? b = some c ↔ c.toNat = a.toNat + b.toNat := by
  have bound := c.toNat_lt
  by_cases within : a.toNat + b.toNat < UInt64.size
  · rw [add?, if_pos within, Option.some.injEq, ← UInt64.toNat_inj, UInt64.toNat_add,
      Nat.mod_eq_of_lt within]
    exact eq_comm
  · rw [add?, if_neg within]
    constructor
    · intro impossible
      cases impossible
    · intro sum
      exact absurd (sum ▸ bound) within

theorem mul?_eq_some_iff (a b c : Time) : a.mul? b = some c ↔ c.toNat = a.toNat * b.toNat := by
  have bound := c.toNat_lt
  by_cases within : a.toNat * b.toNat < UInt64.size
  · rw [mul?, if_pos within, Option.some.injEq, ← UInt64.toNat_inj, UInt64.toNat_mul,
      Nat.mod_eq_of_lt within]
    exact eq_comm
  · rw [mul?, if_neg within]
    constructor
    · intro impossible
      cases impossible
    · intro product
      exact absurd (product ▸ bound) within

end Time
end ReactiveGraph
