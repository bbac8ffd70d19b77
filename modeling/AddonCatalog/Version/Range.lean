import AddonCatalog.Version.Order
/-!
# Version ranges

A range is written in interval notation with `,` or `;` between its bounds:
`[4.0.0,5.0.0)`, `(3.4;4.0.0]`, `[4.0.0,)`. Square brackets include a bound and round
ones exclude it; an empty upper bound is unbounded. Blanks may surround every part.

The text is read as follows (`VersionRange.parse?`): after leading blanks comes the
opening bracket, `[` or `(`. The lower bound runs to the first `,` or `;`, which must
come before any `]` or `)`; the upper bound runs to the next of `,`, `;`, `]` and `)`,
which must be a closing bracket; only blanks may follow it. Both bounds are trimmed.
An opening bracket may stand inside the lower bound (`[[1,2)` has lower bound `[1`).

`VersionRange.admits` checks a version: it reads the version, then the lower bound and
compares, and only when the version passes the lower bound reads the upper one. So
`(1.0,bad]` rejects `0.5` without reading `bad`.
-/

namespace AddonCatalog

/-- A range of versions: the texts of its bounds and whether each is excluded. -/
structure VersionRange where
  lowerOpen : Bool
  lower : String
  upper : String
  upperOpen : Bool
deriving BEq, Inhabited

namespace VersionRange

/-- The characters that end a bound: the separators and the closing brackets. -/
def endsBound (c : Char) : Bool := c == ',' || c == ';' || c == ']' || c == ')'

/-- Reads a range text. -/
def parse? (s : String) : Option VersionRange :=
  match s.toList.dropWhile Text.isBlank with
  | b :: rest =>
    if b == '[' || b == '(' then
      match rest.span (fun c => !endsBound c) with
      | (low, sep :: rest2) =>
        if sep == ',' || sep == ';' then
          match rest2.span (fun c => !endsBound c) with
          | (high, close :: rest3) =>
            if (close == ']' || close == ')') && rest3.all Text.isBlank then
              some ⟨b == '(', String.ofList (Text.trimChars low),
                String.ofList (Text.trimChars high), close == ')'⟩
            else none
          | (_, []) => none
        else none
      | (_, []) => none
    else none
  | [] => none

/-- Whether a version passes the range; reading the bounds lazily, as described above. -/
def admitsVersion (r : VersionRange) (v : Version) : Except VersionError Bool := do
  let low ← Version.parse r.lower
  match ← v.compareChecked low with
  | .lt => return false
  | .eq => if r.lowerOpen then return false else pure ()
  | .gt => pure ()
  if r.upper.isEmpty then return true
  let high ← Version.parse r.upper
  match ← v.compareChecked high with
  | .gt => return false
  | .eq => return !r.upperOpen
  | .lt => return true

end VersionRange

/-- Whether a version lies in a range, both given as texts that may be missing. The
range is checked first (a missing range is read as empty but shown as `None`), then
its lower bound must be present, then the version and the bounds are read. -/
def inRange (version : Option String) (range : Option String) : Except VersionError Bool := do
  let shown := range.getD "None"
  match VersionRange.parse? (range.getD "") with
  | none => throw (.invalidRange shown)
  | some r =>
    if r.lower.isEmpty then throw (.noLowerBound shown)
    let v ← Version.read version
    r.admitsVersion v

end AddonCatalog
