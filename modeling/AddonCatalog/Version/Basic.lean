import AddonCatalog.Text.Blank
import AddonCatalog.Text.Digit
import AddonCatalog.Text.Alnum
import AddonCatalog.Number.DigitLimit
/-!
# Versions

A version is a list of numbers with an optional qualifier word after them:
`4.1.0`, `4.1.0.M2`, `3.0.0.RC1`. Its text is read in three steps.

1. Blanks at both ends are trimmed, and everything from the first `-` on becomes
   `.0`, so `1.2.3-SNAPSHOT` reads as `1.2.3.0` (`Version.normalizeText`).
2. The text is split at `.`. A segment of decimal digits of any script is a number;
   one line feed may end it (`1\n`), and leading zeros do not count. A number of more
   than `Number.maxDigits` digits stops the reading at once.
3. A segment that is not a number must be the last one, not the first, and be an
   alphanumeric word (`é`, `Ⅻ`, `²` and `한` are letters or numerals): it is the
   qualifier. Any other segment makes the text invalid.

* `Version.parse` reads a version, `Version.text` writes it back in normal form;
* `VersionError.message` gives the text of each way reading can fail.
-/

namespace AddonCatalog

/-- A version: its numbers, and the qualifier word after them if there is one. -/
structure Version where
  numbers : List Nat
  qualifier : Option String
deriving BEq, DecidableEq, Inhabited

/-- Why a version or a version range cannot be read. -/
inductive VersionError where
  /-- No version was given, or its text is empty after normalisation. -/
  | empty
  /-- The text, as given, is not a version. -/
  | invalid (text : String)
  /-- The text, as given, is not a range. -/
  | invalidRange (text : String)
  /-- The range has no lower bound. -/
  | noLowerBound (text : String)
  /-- A number of the version has this many digits, more than `Number.maxDigits`. -/
  | tooManyDigits (count : Nat)
deriving BEq, Inhabited

/-- The message of a version error. -/
def VersionError.message : VersionError → String
  | .empty => "Version is empty"
  | .invalid t => "Invalid version '" ++ t ++ "'"
  | .invalidRange t => "Invalid version range '" ++ t ++ "'"
  | .noLowerBound t => "Version range '" ++ t ++ "' has no lower bound"
  | .tooManyDigits n => Number.tooManyDigitsMessage n

/-- Whether the error says that a text is not a version or a range; a number with too
many digits is not such an error, it is a failure to read a number. -/
def VersionError.isReading : VersionError → Bool
  | .tooManyDigits _ => false
  | _ => true

/-- The error as a failure of the program. -/
def VersionError.failure (e : VersionError) : Failure :=
  if e.isReading then ⟨.versionParse, e.message⟩ else ⟨.invalidValue, e.message⟩

namespace Version

/-- Trims the text, and replaces everything from its first `-` with `.0`. -/
def normalizeText (s : String) : String :=
  let cs := Text.trimChars s.toList
  if cs.contains '-' then String.ofList (cs.takeWhile (· != '-')) ++ ".0"
  else String.ofList cs

/-- The digits of a numeric segment: one or more decimal digits of any script,
optionally followed by a single line feed. -/
def segmentDigits? (seg : List Char) : Option (List Char) :=
  let ds := match seg.reverse with
    | '\n' :: r => r.reverse
    | _ => seg
  if ds.isEmpty || !ds.all Text.isDigit then none else some ds

/-- The value of a numeric segment. -/
def segmentNumber? (seg : List Char) : Option Nat :=
  (segmentDigits? seg).bind fun ds => ds.foldlM (fun n c => (Text.digitValue? c).map (10 * n + ·)) 0

/-- Reads the segments of a normalised text; `index` is the position of the first. -/
def readSegments (text : String) (total : Nat) :
    Nat → List (List Char) → Except VersionError (List Nat × Option String)
  | _, [] => .ok ([], none)
  | index, seg :: rest =>
    match segmentNumber? seg with
    | some n =>
      let count := ((segmentDigits? seg).getD []).length
      if count > Number.maxDigits then .error (.tooManyDigits count)
      else (readSegments text total (index + 1) rest).map fun (ns, q) => (n :: ns, q)
    | none =>
      if index + 1 == total && index > 0 && Text.isAlnumWord (String.ofList seg) then
        .ok ([], some (String.ofList seg))
      else .error (.invalid text)

/-- Reads a version from its text. -/
def parse (text : String) : Except VersionError Version :=
  let normal := normalizeText text
  if normal.isEmpty then .error .empty
  else
    let segs := normal.toList.splitOn '.'
    (readSegments text segs.length 0 segs).map fun (ns, q) => ⟨ns, q⟩

/-- Reads a version that may be missing: a missing version is empty. -/
def read : Option String → Except VersionError Version
  | none => .error .empty
  | some t => parse t

/-- The normal text of a version: its numbers joined by `.`, then `.` and the
qualifier when there is one. -/
def text (v : Version) : String :=
  let nums := ".".intercalate (v.numbers.map toString)
  match v.qualifier with
  | some q => nums ++ "." ++ q
  | none => nums

end Version

end AddonCatalog
