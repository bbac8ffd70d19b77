import AddonCatalog.Number.FloatText
/-!
# Extended precision and the text of a stored double

A database column of text receives a double as the text a formatting routine makes of
it with fifteen significant digits. The routine does not round the exact value: it
works in the extended format of the processor, a significand of 64 bits rounded to
nearest (ties to even) after every operation, and reads the digits off one by one.

1. The value `v` is brought into `[1, 10)` by a scale: while `v ≥ 10^100 · scale`
   the scale grows by `10^100`, then by `10^10`, then by `10`, each product rounded,
   and `v` is divided by the scale; a value below `10^-8` is multiplied by `10^8`
   and one below `1` by `10` until it is not.
2. The rounding term `5·10^-15` (the double product of the doubles `5e-05` and
   `1e-10`) is added; a sum of `10` or more is multiplied by the double `0.1`.
3. With the decimal exponent `x` so found, the text is positional when
   `-4 ≤ x ≤ 14`, with fifteen significant digits, and otherwise a mantissa of fifteen
   digits and `e±XX`; a digit is the integral part of the value, after which the value
   becomes ten times its fraction (rounded), for 26 digits at most. Trailing zeros go,
   but a point keeps one digit after it.

A negative value is written with `-`; minus zero is `0.0`; the infinities are `Inf`
and `-Inf`.

* `Extended` is a number of the extended format, `Extended.ofRatio` rounds to it;
* `storedText` gives the text of a double.
-/

namespace AddonCatalog.Number

/-- A non-negative number `num / den`, with `den` a power of two. -/
structure Extended where
  num : Nat
  den : Nat

/-- The binary exponent `e` and significand `m < 2^bits` nearest to `num / den`, both
positive, with `2^(bits-1) ≤ m` unless the significand reached `2^bits`. -/
def roundBits (bits num den : Nat) : Nat × Int :=
  let guess : Int := (Nat.log2 num : Int) - Nat.log2 den - bits + 1
  let fits (e : Int) : Bool := num * Nat.pow 2 (-e).toNat < Nat.pow 2 bits * den * Nat.pow 2 e.toNat
  let e : Int := if fits (guess - 1) then guess - 1 else guess
  let m := roundHalfEven (num * Nat.pow 2 (-e).toNat) (den * Nat.pow 2 e.toNat)
  if m == Nat.pow 2 bits then (Nat.pow 2 (bits - 1), e + 1) else (m, e)

/-- The number `m · 2^e`. -/
def Extended.ofScaled (m : Nat) (e : Int) : Extended :=
  if e ≥ 0 then ⟨m * Nat.pow 2 e.toNat, 1⟩ else ⟨m, Nat.pow 2 (-e).toNat⟩

/-- `num / den` rounded to `bits` significant bits. -/
def roundedTo (bits num den : Nat) : Extended :=
  if num = 0 then ⟨0, 1⟩
  else
    let (m, e) := roundBits bits num den
    Extended.ofScaled m e

namespace Extended

/-- `num / den` rounded to the extended format. -/
def ofRatio (num den : Nat) : Extended := roundedTo 64 num den

/-- `num / den` rounded to a double. -/
def double (num den : Nat) : Extended := roundedTo 53 num den

/-- The rounded product. -/
def mul (a b : Extended) : Extended := ofRatio (a.num * b.num) (a.den * b.den)

/-- The rounded quotient. -/
def div (a b : Extended) : Extended := ofRatio (a.num * b.den) (a.den * b.num)

/-- The rounded sum. -/
def add (a b : Extended) : Extended := ofRatio (a.num * b.den + b.num * a.den) (a.den * b.den)

/-- The rounded difference, zero when `b` is larger. -/
def sub (a b : Extended) : Extended := ofRatio (a.num * b.den - b.num * a.den) (a.den * b.den)

/-- Whether `a < b`. -/
def lt (a b : Extended) : Bool := a.num * b.den < b.num * a.den

/-- The integral part. -/
def floor (a : Extended) : Nat := a.num / a.den

/-- A natural number. -/
def ofNat (n : Nat) : Extended := ⟨n, 1⟩

end Extended

/-- The double `10^100`. -/
def hundredthPower : Extended := Extended.double (Nat.pow 10 100) 1

/-- The double `0.1`. -/
def tenth : Extended := Extended.double 1 10

/-- The double `1e-8`. -/
def hundredMillionth : Extended := Extended.double 1 (Nat.pow 10 8)

/-- The rounding term for fifteen digits: the double product of `5e-05` and `1e-10`. -/
def rounder : Extended :=
  let a := Extended.double 5 100000
  let b := Extended.double 1 (Nat.pow 10 10)
  Extended.double (a.num * b.num) (a.den * b.den)

/-- Grows the scale by `step` while the value is at least `step · scale` and the
exponent at most 350. -/
def growScale (v step : Extended) (k : Int) : Nat → Extended × Int → Extended × Int
  | 0, acc => acc
  | fuel + 1, (scale, x) =>
    let next := step.mul scale
    if !v.lt next && x ≤ 350 then growScale v step k fuel (next, x + k) else (scale, x)

/-- Multiplies the value by `step` while it is below `bound`. -/
def raise (bound step : Extended) (k : Int) : Nat → Extended × Int → Extended × Int
  | 0, acc => acc
  | fuel + 1, (v, x) =>
    if v.lt bound then raise bound step k fuel (v.mul step, x - k) else (v, x)

/-- The value brought into `[1, 10)` with its decimal exponent. -/
def normalizeExtended (v : Extended) : Extended × Int :=
  if v.num = 0 then (v, 0)
  else
    let acc := growScale v hundredthPower 100 400 (.ofNat 1, 0)
    let acc := growScale v (.ofNat (Nat.pow 10 10)) 10 400 acc
    let (scale, x) := growScale v (.ofNat 10) 1 400 acc
    let acc := raise hundredMillionth (.ofNat (Nat.pow 10 8)) 8 400 (v.div scale, x)
    raise (.ofNat 1) (.ofNat 10) 1 400 acc

/-- Reads `n` digits off the value, while `left` digits remain to be read; then zeros. -/
def readDigits : Nat → Nat → Extended → List Char × Extended
  | 0, _, v => ([], v)
  | n + 1, left, v =>
    if left = 0 then
      let (rest, v) := readDigits n 0 v
      ('0' :: rest, v)
    else
      let d := v.floor
      let (rest, v) := readDigits n (left - 1) ((v.sub (.ofNat d)).mul (.ofNat 10))
      (Char.ofNat (48 + d) :: rest, v)

/-- Drops trailing zeros, keeping one digit after the point. -/
def trimZeros (cs : List Char) : List Char :=
  let t := (cs.reverse.dropWhile (· == '0')).reverse
  if t.getLast? == some '.' then t ++ ['0'] else t

/-- The exponent suffix `e±XX`. -/
def exponentSuffix (x : Int) : String :=
  let n := x.natAbs
  "e" ++ (if x < 0 then "-" else "+") ++ (if n < 10 then "0" else "") ++ toString n

/-- The text of a non-negative value of the extended format, with fifteen digits. -/
def fifteenDigits (v : Extended) : String :=
  let (v, x) := normalizeExtended v
  let v := v.add rounder
  let (v, x) := if v.lt (.ofNat 10) then (v, x) else (v.mul tenth, x + 1)
  if x < -4 || x > 14 then
    let (lead, v) := readDigits 1 26 v
    let (tail, _) := readDigits 14 25 v
    String.ofList (trimZeros (lead ++ ['.'] ++ tail)) ++ exponentSuffix x
  else if x < 0 then
    let (tail, _) := readDigits 15 26 v
    String.ofList (trimZeros (['0', '.'] ++ List.replicate ((-x).toNat - 1) '0' ++ tail))
  else
    let (lead, v) := readDigits (x.toNat + 1) 26 v
    let (tail, _) := readDigits (14 - x.toNat) (25 - x.toNat) v
    String.ofList (trimZeros (lead ++ ['.'] ++ tail))

/-- The text a text column stores for a double; `none` for a NaN, which is stored as
nothing. -/
def storedText (x : Float) : Option String :=
  match Binary.ofFloat x with
  | .nan => none
  | .infinite neg => some (if neg then "-Inf" else "Inf")
  | .finite b =>
    let v := Extended.ofScaled b.mantissa b.exponent
    some ((if b.negative && b.mantissa != 0 then "-" else "") ++ fifteenDigits v)

end AddonCatalog.Number
