import AddonCatalog.Version.Basic
/-!
# Ordering versions

Two versions compare by their numbers first, the shorter list padded with zeros, so
`1.0` and `1.0.0` have equal numbers. Equal numbers compare by the qualifier's key:

* no qualifier: rank 3, the release;
* a word of ASCII letters, optionally followed by digits, such as `RC1` or `m5`:
  the rank of its letters in upper case (`RC` 2, `M` 1, any other 0), then the
  number of its digits (0 if there are none), then the upper-cased letters;
* any other qualifier: rank 0, number 0, then the qualifier itself.

The number is compared before the name, so `alpha2` is above `beta1`. Names compare
by code points. The number of a qualifier is read only when the numbers of the two
versions are equal, and reading it fails when it has more than `Number.maxDigits`
digits (`Version.compareChecked`).

* `Version.compare` orders two versions;
* `compareTexts` reads two texts and compares them, reporting the first failure to
  read; a failure to read compares as equal, while a number with too many digits
  fails the comparison.
-/

namespace AddonCatalog

/-- The key by which qualifiers are ordered: rank, number, name. -/
structure QualifierKey where
  rank : Nat
  number : Nat
  name : String
deriving BEq, Inhabited

namespace QualifierKey

/-- Lexicographic order on rank, number and name. -/
def compare (a b : QualifierKey) : Ordering :=
  (Ord.compare a.rank b.rank).then ((Ord.compare a.number b.number).then (Ord.compare a.name b.name))

/-- The rank of a qualifier's upper-cased letters. -/
def rankOf (name : String) : Nat :=
  if name == "RC" then 2 else if name == "M" then 1 else 0

/-- The key of a qualifier, or of its absence. -/
def ofQualifier : Option String → QualifierKey
  | none => ⟨3, 0, ""⟩
  | some q =>
    let cs := q.toList
    let letters := cs.takeWhile Text.isAsciiLetter
    let rest := cs.drop letters.length
    if !letters.isEmpty && rest.all Text.isDigit then
      let name := Text.upperAscii (String.ofList letters)
      let number := rest.foldl (fun n c => 10 * n + (Text.digitValue? c).getD 0) 0
      ⟨rankOf name, number, name⟩
    else ⟨0, 0, q⟩

/-- The count of digits of a qualifier's number; `0` when it has none. -/
def digitCount : Option String → Nat
  | none => 0
  | some q =>
    let cs := q.toList
    let letters := cs.takeWhile Text.isAsciiLetter
    let rest := cs.drop letters.length
    if !letters.isEmpty && rest.all Text.isDigit then rest.length else 0

end QualifierKey

/-- The lists of numbers padded with zeros to a common length. -/
def padNumbers (a b : List Nat) : List Nat × List Nat :=
  (a ++ List.replicate (b.length - a.length) 0, b ++ List.replicate (a.length - b.length) 0)

/-- Lexicographic order of two lists of numbers. -/
def compareNumbers : List Nat → List Nat → Ordering
  | [], [] => .eq
  | [], _ :: _ => .lt
  | _ :: _, [] => .gt
  | x :: xs, y :: ys => (Ord.compare x y).then (compareNumbers xs ys)

namespace Version

/-- The order of versions: padded numbers, then qualifier keys. -/
def compare (a b : Version) : Ordering :=
  let (x, y) := padNumbers a.numbers b.numbers
  (compareNumbers x y).then
    ((QualifierKey.ofQualifier a.qualifier).compare (QualifierKey.ofQualifier b.qualifier))

/-- Checks that the qualifier's number of a version can be read. -/
def checkQualifier (v : Version) : Except VersionError Unit :=
  let n := QualifierKey.digitCount v.qualifier
  if n > Number.maxDigits then .error (.tooManyDigits n) else .ok ()

/-- The order of versions, reading the qualifiers' numbers where the numbers are equal:
the first qualifier, then the second. -/
def compareChecked (a b : Version) : Except VersionError Ordering := do
  let (x, y) := padNumbers a.numbers b.numbers
  if compareNumbers x y == .eq then
    checkQualifier a
    checkQualifier b
  pure (a.compare b)

end Version

/-- The comparison of two version texts: the ordering, and the message of the first
text that could not be read, in which case the ordering is `eq`. -/
structure VersionComparison where
  ordering : Ordering
  error : Option String
deriving BEq, Inhabited

/-- Reads and compares two versions that may be missing. -/
def compareTexts (a b : Option String) : Except VersionError VersionComparison :=
  let run : Except VersionError Ordering := do
    let x ← Version.read a
    let y ← Version.read b
    x.compareChecked y
  match run with
  | .ok o => .ok ⟨o, none⟩
  | .error e => if e.isReading then .ok ⟨.eq, some e.message⟩ else .error e

/-- An ordering as `-1`, `0` or `1`. -/
def orderingSign : Ordering → Int
  | .lt => -1
  | .eq => 0
  | .gt => 1

end AddonCatalog
