/-!
# Tables of code point ranges

A character class of this library (decimal digits, letters and numerals, printable
characters, display widths) is a sorted array of disjoint inclusive code point ranges.
Most tables are written as hex text, `"30-39 41-5a b5"`: a range `lo-hi` or a single
point per entry, entries separated by spaces.

* `RangeTable.ofHex` reads such a text;
* `RangeTable.find?` gives the range that holds a code point, by halving;
* `RangeTable.contains` tests membership.
-/

namespace AddonCatalog

/-- Sorted, disjoint, inclusive ranges of code points. -/
structure RangeTable where
  ranges : Array (Nat × Nat)

namespace RangeTable

/-- The value of a lower-case hex digit. -/
def hexValue? (c : Char) : Option Nat :=
  if '0' ≤ c ∧ c ≤ '9' then some (c.toNat - '0'.toNat)
  else if 'a' ≤ c ∧ c ≤ 'f' then some (c.toNat - 'a'.toNat + 10)
  else none

/-- The number written in hex by the digits of `s`; other characters are skipped. -/
def readHex (s : String) : Nat :=
  s.foldl (fun n c => match hexValue? c with
    | some d => 16 * n + d
    | none => n) 0

/-- One entry of a table text: `lo-hi`, or a single point. -/
def readEntry (s : String) : Nat × Nat :=
  match s.splitOn "-" with
  | [a, b] => (readHex a, readHex b)
  | _ => (readHex s, readHex s)

/-- Reads a table text. -/
def ofHex (s : String) : RangeTable :=
  ⟨(((s.splitOn " ").filter (· ≠ "")).map readEntry).toArray⟩

/-- The index, between `lo` (included) and `hi` (excluded), of the range holding `n`. -/
def search (t : Array (Nat × Nat)) (n lo hi : Nat) : Option Nat :=
  if _h : lo < hi then
    match t[(lo + hi) / 2]? with
    | none => none
    | some (a, b) =>
      if n < a then search t n lo ((lo + hi) / 2)
      else if b < n then search t n ((lo + hi) / 2 + 1) hi
      else some ((lo + hi) / 2)
  else none
termination_by hi - lo

/-- The range of the table that holds the code point `n`. -/
def find? (t : RangeTable) (n : Nat) : Option (Nat × Nat) :=
  (search t.ranges n 0 t.ranges.size).bind (fun i => t.ranges[i]?)

/-- Whether some range of the table holds the character. -/
def contains (t : RangeTable) (c : Char) : Bool :=
  (t.find? c.toNat).isSome

end RangeTable

end AddonCatalog
