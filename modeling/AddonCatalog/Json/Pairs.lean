import AddonCatalog.Json.Show
import AddonCatalog.Failure
import AddonCatalog.Number.Exact
/-!
# Values as dictionaries

A value given where a dictionary is expected is turned into key–value pairs the way a
dictionary is built from it:

* an object gives its members;
* an array gives one pair per item: an item of two elements (a two-element array, a
  two-character string or a two-member object, whose keys are the elements) is a pair;
  an item of another length is a `ValueError` naming its index and length, and an item
  that is not a sequence is a `TypeError`;
* a string gives its characters, which are items of length one;
* any other value is a `TypeError`: it cannot be iterated.

Keys are compared as numbers when they are numbers or booleans (`1`, `1.0` and `true`
are the same key, by exact values), and arrays and objects cannot be keys. A repeated key keeps its
first place and takes the last value.

* `Json.dictPairs` gives the pairs or the error;
* `setDefault` adds a pair unless its key is present.
-/

namespace AddonCatalog.Json

/-- The numeric value of a number or boolean: a whole number or a double. -/
def numericValue? : Json → Option (Int ⊕ Float)
  | .bool b => some (.inl (if b then 1 else 0))
  | .int n => some (.inl n)
  | .float x => some (.inr x)
  | _ => none

/-- Whether two numeric values are equal, by their exact values. -/
def numericEq : Int ⊕ Float → Int ⊕ Float → Bool
  | .inl m, .inl n => m == n
  | .inr x, .inr y => x == y
  | .inl m, .inr y => Number.compareWholeFloat m y == some .eq
  | .inr x, .inl n => Number.compareWholeFloat n x == some .eq

/-- Whether two keys are the same key. -/
def sameKey (a b : Json) : Bool :=
  match a, b with
  | .null, .null => true
  | .str s, .str t => s == t
  | _, _ => match numericValue? a, numericValue? b with
    | some x, some y => numericEq x y
    | _, _ => false

/-- Sets a key in a pair list: an existing key keeps its place. -/
def setPair (ps : List (Json × Json)) (k v : Json) : List (Json × Json) :=
  if ps.any (sameKey ·.1 k) then ps.map fun p => if sameKey p.1 k then (p.1, v) else p
  else ps ++ [(k, v)]

/-- Adds a pair unless its key is present. -/
def setDefault (ps : List (Json × Json)) (k v : Json) : List (Json × Json) :=
  if ps.any (sameKey ·.1 k) then ps else ps ++ [(k, v)]

/-- The error of an item of the wrong length. -/
def itemLengthError (i len : Nat) : Failure :=
  ⟨.invalidValue, "dictionary update sequence element #" ++ toString i ++ " has length " ++
    toString len ++ "; 2 is required"⟩

/-- Whether a value can be a key. -/
def hashable : Json → Bool
  | .arr _ | .obj _ => false
  | _ => true

/-- The error of a value that cannot be a key. -/
def unhashable (k : Json) : Failure := ⟨.wrongType, "unhashable type: '" ++ k.typeName ++ "'"⟩

/-- The pair made of an item at index `i`. -/
def itemPair (i : Nat) : Json → Except Failure (Json × Json)
  | .arr [k, v] =>
    if hashable k then .ok (k, v) else .error (unhashable k)
  | .arr xs => .error (itemLengthError i xs.length)
  | .str s => match s.toList with
    | [a, b] => .ok (.str (String.ofList [a]), .str (String.ofList [b]))
    | cs => .error (itemLengthError i cs.length)
  | .obj [(a, _), (b, _)] => .ok (.str a, .str b)
  | .obj ms => .error (itemLengthError i ms.length)
  | _ => .error ⟨.wrongType, "cannot convert dictionary update sequence element #" ++
      toString i ++ " to a sequence"⟩

/-- The pairs of the items of an array, from index `i` on. -/
def itemPairs (acc : List (Json × Json)) : Nat → List Json → Except Failure (List (Json × Json))
  | _, [] => .ok acc
  | i, x :: xs => do
    let (k, v) ← itemPair i x
    itemPairs (setPair acc k v) (i + 1) xs

/-- The key–value pairs of a value used as a dictionary. -/
def dictPairs : Json → Except Failure (List (Json × Json))
  | .obj ms => .ok (ms.map fun (k, v) => (.str k, v))
  | .arr xs => itemPairs [] 0 xs
  | .str s => if s.isEmpty then .ok [] else .error (itemLengthError 0 1)
  | v => .error ⟨.wrongType, "'" ++ v.typeName ++ "' object is not iterable"⟩

end AddonCatalog.Json
