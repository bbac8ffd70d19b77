/-!
# Shortest decimal digits of a double

A finite double `m · 2^e` stands for every real that rounds to it: the interval between
the midpoints to its two neighbours, ends included when `m` is even (a tie is read to
the even mantissa). The shortest decimal of the double is the decimal with the fewest
significant digits inside that interval; of two such decimals the nearer one.

* `Binary.ofFloat` decodes the bits of a double;
* `Binary.interval` gives the rounding interval, scaled by `2^(e-2)`;
* `shortest` tries 1, 2, …, 17 significant digits. On each grid it only looks at the
  two grid points around the value: if a grid point lies inside the interval, so does
  one of those two, since the interval holds the value.
-/

namespace AddonCatalog.Number

/-- A finite binary floating-point number `(-1)^negative · mantissa · 2^exponent`. -/
structure Binary where
  negative : Bool
  mantissa : Nat
  exponent : Int

/-- What the bits of a double stand for. -/
inductive Bits where
  | finite (b : Binary)
  | infinite (negative : Bool)
  | nan

/-- Decodes the sign, exponent and fraction fields of a double. -/
def Binary.ofFloat (x : Float) : Bits :=
  let bits : Nat := x.toBits.toNat
  let negative : Bool := bits / Nat.pow 2 63 % 2 == 1
  let biased : Nat := bits / Nat.pow 2 52 % Nat.pow 2 11
  let frac : Nat := bits % Nat.pow 2 52
  if biased == 2047 then (if frac == 0 then .infinite negative else .nan)
  else if biased == 0 then .finite ⟨negative, frac, -1074⟩
  else .finite ⟨negative, frac + Nat.pow 2 52, Int.ofNat biased - 1075⟩

/-- A decimal number `digits · 10^exponent`. -/
structure Decimal where
  digits : Nat
  exponent : Int

/-- `a · 2^p` compared with `b · 10^q`, in exact arithmetic. -/
def compareScaled (a : Nat) (p : Int) (b : Nat) (q : Int) : Ordering :=
  compare (a * Nat.pow 2 p.toNat * Nat.pow 10 (-q).toNat) (b * Nat.pow 10 q.toNat * Nat.pow 2 (-p).toNat)

/-- The rounding interval of a positive double, as `(low, high)` in units of
`2^(e-2)`: the value itself is `4m` in these units. Below the smallest mantissa of a
binade the lower neighbour is half as far. -/
def Binary.interval (b : Binary) : Nat × Nat :=
  if b.mantissa == Nat.pow 2 52 && b.exponent > -1074 then (4 * b.mantissa - 1, 4 * b.mantissa + 2)
  else (4 * b.mantissa - 2, 4 * b.mantissa + 2)

/-- Whether `d · 10^k` lies in the rounding interval of `b`. -/
def Binary.admits (b : Binary) (d : Nat) (k : Int) : Bool :=
  let t := b.exponent - 2
  let incl := b.mantissa % 2 == 0
  let (lo, hi) := b.interval
  let above := match compareScaled lo t d k with
    | .lt => true
    | .eq => incl
    | .gt => false
  let below := match compareScaled hi t d k with
    | .gt => true
    | .eq => incl
    | .lt => false
  above && below

/-- Moves a guess `E` of the decimal exponent of `b` until `10^E ≤ b < 10^(E+1)`. -/
def Binary.settleExponent (b : Binary) : Nat → Int → Int
  | 0, e => e
  | fuel + 1, e =>
    if compareScaled (4 * b.mantissa) (b.exponent - 2) 1 e == .lt then
      b.settleExponent fuel (e - 1)
    else if compareScaled (4 * b.mantissa) (b.exponent - 2) 1 (e + 1) != .lt then
      b.settleExponent fuel (e + 1)
    else e

/-- The decimal exponent of a positive `b`: `10^E ≤ b < 10^(E+1)`. The guess
`log10 2 ≈ 0.30103` is off by one at most. -/
def Binary.decimalExponent (b : Binary) : Int :=
  b.settleExponent 8 (((b.exponent + Nat.log2 b.mantissa) * 30103) / 100000)

/-- The grid point at or below `b` on the grid of `10^k`. -/
def Binary.floorOn (b : Binary) (k : Int) : Nat :=
  (4 * b.mantissa * Nat.pow 2 (b.exponent - 2).toNat * Nat.pow 10 (-k).toNat) /
    (Nat.pow 2 (-(b.exponent - 2)).toNat * Nat.pow 10 k.toNat)

/-- Of the two grid points `g · 10^k` and `(g + 1) · 10^k` around `b`, the nearer;
an exact tie goes to the even one. -/
def Binary.nearerOf (b : Binary) (g : Nat) (k : Int) : Nat :=
  match compareScaled (8 * b.mantissa) (b.exponent - 2) (2 * g + 1) k with
  | .lt => g
  | .gt => g + 1
  | .eq => if g % 2 == 0 then g else g + 1

/-- The decimal of `n` significant digits for `b`, if one lies in its interval. -/
def Binary.withDigits (b : Binary) (e : Int) (n : Nat) : Option Decimal :=
  let k := e - n + 1
  let g := b.floorOn k
  match b.admits g k, b.admits (g + 1) k with
  | true, true => some ⟨b.nearerOf g k, k⟩
  | true, false => some ⟨g, k⟩
  | false, true => some ⟨g + 1, k⟩
  | false, false => none

/-- Removes the trailing zeros of the digits, raising the exponent. -/
def Decimal.normalize (d : Decimal) : Nat → Decimal
  | 0 => d
  | fuel + 1 =>
    if d.digits != 0 && d.digits % 10 == 0 then
      Decimal.normalize ⟨d.digits / 10, d.exponent + 1⟩ fuel
    else d

/-- The first of the digit counts `ns` that gives a decimal in the interval of `b`. -/
def Binary.firstFit (b : Binary) (e : Int) : List Nat → Option Decimal
  | [] => none
  | n :: ns => (b.withDigits e n).orElse fun _ => b.firstFit e ns

/-- The shortest decimal of the magnitude of `b`, without trailing zeros; zero is
`0 · 10^0`. -/
def shortest (b : Binary) : Decimal :=
  if b.mantissa == 0 then ⟨0, 0⟩
  else
    let e := b.decimalExponent
    let d := (b.firstFit e (List.range' 1 17)).getD ⟨b.floorOn (e - 16), e - 16⟩
    d.normalize 400

end AddonCatalog.Number
