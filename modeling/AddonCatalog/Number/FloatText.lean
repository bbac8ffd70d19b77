import AddonCatalog.Number.Shortest
/-!
# Writing and reading doubles

A double is written with its shortest decimal digits (`Number.shortest`); a
`FloatLayout` decides where the decimal point goes. Two layouts are used:

* `FloatLayout.display`, the text of a number shown to a person and written in
  settings files: positional for leading-digit exponents `-4 … 15`, otherwise
  `1.5e+16` with a signed exponent of two digits at least;
* `FloatLayout.compact`, the text of a number in a stored record: positional for
  leading-digit exponents `-5 … 15`, otherwise `1.5e+16` or `1e-6`, the exponent
  signed and not padded.

A positional integral value keeps `.0`. `Decimal.toFloat` reads a decimal back with
correct rounding (ties to even), building the bits directly.
-/

namespace AddonCatalog.Number

/-- Where a layout puts the point, and how it writes an exponent. -/
structure FloatLayout where
  /-- The smallest exponent of the leading digit written positionally. -/
  lowestPositional : Int
  /-- The largest exponent of the leading digit written positionally. -/
  highestPositional : Int
  /-- Whether a non-negative exponent carries a `+`. -/
  exponentPlus : Bool
  /-- The least number of exponent digits. -/
  exponentDigits : Nat
  /-- Whether a mantissa of one digit is written with `.0`. -/
  mantissaPoint : Bool

/-- The text of a number shown to a person. -/
def FloatLayout.display : FloatLayout := ⟨-4, 15, true, 2, false⟩

/-- The text of a number in a stored record. -/
def FloatLayout.compact : FloatLayout := ⟨-5, 15, true, 1, false⟩

/-- `n` zeros. -/
def zeros (n : Nat) : String := String.ofList (List.replicate n '0')

/-- The text of a non-negative decimal under a layout. -/
def FloatLayout.render (l : FloatLayout) (d : Decimal) : String :=
  let s := toString d.digits
  let len := s.length
  let x := d.exponent + len - 1
  if l.lowestPositional ≤ x ∧ x ≤ l.highestPositional then
    if d.exponent ≥ 0 then s ++ zeros d.exponent.toNat ++ ".0"
    else if x ≥ 0 then
      let cs := s.toList
      String.ofList (cs.take (x.toNat + 1)) ++ "." ++ String.ofList (cs.drop (x.toNat + 1))
    else "0." ++ zeros ((-x).toNat - 1) ++ s
  else
    let cs := s.toList
    let mant := match cs with
      | [c] => String.ofList [c] ++ (if l.mantissaPoint then ".0" else "")
      | c :: rest => String.ofList [c] ++ "." ++ String.ofList rest
      | [] => "0"
    let ex := toString x.natAbs
    let sign := if x < 0 then "-" else if l.exponentPlus then "+" else ""
    mant ++ "e" ++ sign ++ zeros (l.exponentDigits - ex.length) ++ ex

/-- The text of a finite double under a layout. -/
def FloatLayout.renderBinary (l : FloatLayout) (b : Binary) : String :=
  (if b.negative then "-" else "") ++ l.render (shortest b)

/-- The text of a double shown to a person: `nan`, `inf` and `-inf` for the
values that are not finite. -/
def displayFloat (x : Float) : String :=
  match Binary.ofFloat x with
  | .finite b => FloatLayout.display.renderBinary b
  | .infinite neg => if neg then "-inf" else "inf"
  | .nan => "nan"

/-- Rounds `num / den` to the nearest natural number, a tie to the even one. -/
def roundHalfEven (num den : Nat) : Nat :=
  let q := num / den
  let r := num % den
  if 2 * r < den then q
  else if 2 * r > den then q + 1
  else if q % 2 == 0 then q else q + 1

/-- The double nearest to `num / den` (both positive), ties to the even mantissa;
infinity past the largest double. -/
def nearestDouble (num den : Nat) : Float :=
  -- binary exponent `b` with `2^52 ≤ num / (den · 2^b) < 2^53`, or the subnormal one
  let guess : Int := (Nat.log2 num : Int) - Nat.log2 den - 52
  let fits (b : Int) : Bool :=
    num * Nat.pow 2 (-b).toNat < Nat.pow 2 53 * den * Nat.pow 2 b.toNat
  let b0 : Int := if fits guess then guess else guess + 1
  let b1 : Int := if fits (b0 - 1) then b0 - 1 else b0
  let b : Int := if b1 < -1074 then -1074 else b1
  let m := roundHalfEven (num * Nat.pow 2 (-b).toNat) (den * Nat.pow 2 b.toNat)
  let (m, b) := if m == Nat.pow 2 53 then (Nat.pow 2 52, b + 1) else (m, b)
  if b > 971 then Float.ofBits 0x7ff0000000000000
  else if m < Nat.pow 2 52 then Float.ofBits (UInt64.ofNat m)
  else Float.ofBits (UInt64.ofNat ((b + 1075).toNat * Nat.pow 2 52 + (m - Nat.pow 2 52)))

/-- The double nearest to a decimal, with correct rounding. Decimals far beyond the
range of doubles go to zero or infinity without computing their powers. -/
def Decimal.toFloat (d : Decimal) : Float :=
  let len : Int := (toString d.digits).length
  if d.digits == 0 then 0.0
  else if d.exponent + len > 311 then Float.ofBits 0x7ff0000000000000
  else if d.exponent + len < -326 then 0.0
  else if d.exponent ≥ 0 then nearestDouble (d.digits * Nat.pow 10 d.exponent.toNat) 1
  else nearestDouble d.digits (Nat.pow 10 (-d.exponent).toNat)

end AddonCatalog.Number
