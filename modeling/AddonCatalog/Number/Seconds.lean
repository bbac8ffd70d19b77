import AddonCatalog.Number.FloatText
import AddonCatalog.Number.Exact
import AddonCatalog.Cache.Expiring
/-!
# Seconds

Readings of a clock and spans of time are numbers of seconds, either whole numbers or
doubles. Whole numbers stay exact at any size: the sum or difference of two whole
numbers is a whole number. When a double takes part, the whole number is first rounded
to the nearest double and the double operation is used; a whole number that rounds
beyond the largest double (`2^1024 - 2^970` or more in size) fails with an
`OverflowError`. Two numbers are ordered by their exact values, so a whole number and
a double compare without rounding, and a NaN is ordered with nothing.

* `Seconds.add`, `Seconds.sub` and `Seconds.lt` are these operations;
* `Seconds.toFloat?` is the nearest double.
-/

namespace AddonCatalog

/-- A number of seconds: a whole number or a double. -/
inductive Seconds where
  | whole (n : Int)
  | real (x : Float)
deriving Inhabited

namespace Seconds

/-- The double nearest to a whole number, ties to even. -/
def wholeToFloat (n : Int) : Float :=
  let x := Number.Decimal.toFloat ⟨n.natAbs, 0⟩
  if n < 0 then -x else x

/-- The failure of a whole number beyond the largest double. -/
def tooLargeForDouble : Failure := ⟨.overflow, "int too large to convert to float"⟩

/-- The nearest double, which fails for a whole number beyond the largest double. -/
def toFloat? : Seconds → Except Failure Float
  | whole n => if n.natAbs ≥ Nat.pow 2 1024 - Nat.pow 2 970 then .error tooLargeForDouble else .ok (wholeToFloat n)
  | real x => .ok x

/-- The sum of two numbers. -/
def add : Seconds → Seconds → Except Failure Seconds
  | whole a, whole b => .ok (whole (a + b))
  | a, b => do return real ((← a.toFloat?) + (← b.toFloat?))

/-- The difference of two numbers. -/
def sub : Seconds → Seconds → Except Failure Seconds
  | whole a, whole b => .ok (whole (a - b))
  | a, b => do return real ((← a.toFloat?) - (← b.toFloat?))

instance {n : Nat} : OfNat Seconds n := ⟨whole n⟩

/-- Whether the first number is below the second, by exact values. -/
def lt : Seconds → Seconds → Bool
  | whole a, whole b => decide (a < b)
  | real x, real y => x < y
  | whole a, real y => Number.compareWholeFloat a y == some .lt
  | real x, whole b => Number.compareWholeFloat b x == some .gt

end Seconds

instance : ClockTime Seconds := ⟨Seconds.sub, Seconds.lt⟩

end AddonCatalog
