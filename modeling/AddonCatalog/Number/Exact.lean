import AddonCatalog.Number.Shortest
/-!
# Comparing whole numbers with doubles

A whole number and a double are compared by their exact values, without rounding the
whole number first: `2^53 + 1` is above the double `2^53`. Infinities lie beyond every
whole number, and a NaN is comparable with nothing.

* `Number.compareWholeFloat` gives the order, or `none` against a NaN.
-/

namespace AddonCatalog.Number

/-- The order of a whole number and a double by their exact values; `none` when the
double is a NaN. -/
def compareWholeFloat (n : Int) (x : Float) : Option Ordering :=
  match Binary.ofFloat x with
  | .nan => none
  | .infinite neg => some (if neg then .gt else .lt)
  | .finite b =>
    let m : Int := if b.negative then -(b.mantissa : Int) else b.mantissa
    if b.exponent ≥ 0 then some (compare n (m * Int.pow 2 b.exponent.toNat))
    else some (compare (n * Int.pow 2 (-b.exponent).toNat) m)

end AddonCatalog.Number
