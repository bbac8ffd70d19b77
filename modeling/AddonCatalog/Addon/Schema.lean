import AddonCatalog.Addon.Basic
import AddonCatalog.Json.Reader
import AddonCatalog.Text.Blank
/-!
# Reading addons from values

An addon is read from an object field by field, in declaration order, and every
rejected field is reported, each with the code of its violation. Unknown keys are
ignored, and a field with a default may be absent.

* Text fields take strings only; numbers are rejected (`string_type`).
* The optional texts also take `null`.
* `type` takes the exact lower-case value of a kind (`enum`).
* The flags take booleans, the numbers `0` and `1` (also as `0.0` and `1.0`), and the
  words `true false yes no on off t f y n 1 0` in any ASCII letter case. Another word
  or another whole number is `bool_parsing`; any other value, a fraction, or a number
  beyond 64 bits is `bool_type`.
* `properties` takes an object (`dict_type`).
* `uid` must be non-empty and hold two `:` at least (`value_error`).

A value that is not an object is `model_type`, and a text that is not JSON, or that
nests a value in more than `Addon.maxNesting` arrays and objects, is `json_invalid`,
both reported at the empty location.

* `Addon.ofJson` reads an addon from a value, `Addon.ofText` from JSON text.
-/

namespace AddonCatalog

/-- Why a field, or a whole value, is rejected. -/
inductive Violation where
  | missing
  | stringType
  | enumValue
  | boolParsing
  | boolType
  | dictType
  | uidShape
  | jsonInvalid
  | modelType
deriving BEq, Inhabited

/-- The code of a violation, as error reports show it. -/
def Violation.code : Violation → String
  | .missing => "missing"
  | .stringType => "string_type"
  | .enumValue => "enum"
  | .boolParsing => "bool_parsing"
  | .boolType => "bool_type"
  | .dictType => "dict_type"
  | .uidShape => "value_error"
  | .jsonInvalid => "json_invalid"
  | .modelType => "model_type"

/-- A rejected field: its location (empty for the whole value) and the violation. -/
structure FieldError where
  loc : List String
  violation : Violation
deriving BEq, Inhabited

namespace Schema

/-- A text field. -/
def text : Json → Except Violation String
  | .str s => .ok s
  | _ => .error .stringType

/-- An optional text field. -/
def optionalText : Json → Except Violation (Option String)
  | .null => .ok none
  | .str s => .ok (some s)
  | _ => .error .stringType

/-- The words a flag accepts, in any ASCII letter case. -/
def flagWord? (s : String) : Option Bool :=
  let w := Text.lowerAscii s
  if w == "0" || w == "off" || w == "f" || w == "false" || w == "n" || w == "no" then some false
  else if w == "1" || w == "on" || w == "t" || w == "true" || w == "y" || w == "yes" then some true
  else none

/-- Whether a whole number fits in 64 signed bits. -/
def fits64 (n : Int) : Bool := -Int.pow 2 63 ≤ n && n < Int.pow 2 63

/-- A flag given as a whole number. -/
def flagOfInt (n : Int) : Except Violation Bool :=
  if n == 0 then .ok false
  else if n == 1 then .ok true
  else if fits64 n then .error .boolParsing
  else .error .boolType

/-- A flag field. -/
def flag : Json → Except Violation Bool
  | .bool b => .ok b
  | .str s => match flagWord? s with
    | some b => .ok b
    | none => .error .boolParsing
  | .int n => flagOfInt n
  | .float x =>
    if x.isFinite && x.floor == x && -9223372036854775808.0 < x && x < 9223372036854775808.0 then
      if x == 0.0 then .ok false else if x == 1.0 then .ok true else .error .boolParsing
    else .error .boolType
  | _ => .error .boolType

/-- The kind field. -/
def kind : Json → Except Violation AddonType
  | .str s => match AddonType.ofValue? s with
    | some t => .ok t
    | none => .error .enumValue
  | _ => .error .enumValue

/-- Whether a uid has the shape `<service>:<type>:<id>`: non-empty, two `:` at least. -/
def uidShaped (s : String) : Bool := !s.isEmpty && (s.toList.filter (· == ':')).length ≥ 2

/-- The uid field. -/
def uid (v : Json) : Except Violation String := do
  let s ← text v
  if uidShaped s then pure s else throw .uidShape

/-- The properties field. -/
def properties : Json → Except Violation (List (String × Json))
  | .obj ms => .ok ms
  | _ => .error .dictType

/-- Reads one field of an object: absent fields take the default, or are missing. -/
def field {α : Type} (ms : List (String × Json)) (name : String) (dflt : Option α)
    (read : Json → Except Violation α) : Except (List FieldError) α :=
  match ms.lookup name with
  | none => match dflt with
    | some d => .ok d
    | none => .error [⟨[name], .missing⟩]
  | some v => match read v with
    | .ok a => .ok a
    | .error e => .error [⟨[name], e⟩]

/-- The errors of one field. -/
def errorsOf {α : Type} : Except (List FieldError) α → List FieldError
  | .ok _ => []
  | .error es => es

/-- The value of one field that has no error. -/
def valueOr {α : Type} (d : α) : Except (List FieldError) α → α
  | .ok a => a
  | .error _ => d

end Schema

namespace Addon

open Schema in
/-- Reads an addon from the members of an object. -/
def ofMembers (ms : List (String × Json)) : Except (List FieldError) Addon :=
  let uid := field ms "uid" none Schema.uid
  let type := field ms "type" none kind
  let id := field ms "id" none text
  let contentType := field ms "content_type" (some "") text
  let version := field ms "version" (some "") text
  let installed := field ms "installed" (some false) flag
  let compatible := field ms "compatible" (some true) flag
  let label := field ms "label" (some "") text
  let description := field ms "description" (some "") text
  let detailed := field ms "detailed_description" (some "") text
  let link := field ms "link" (some none) optionalText
  let imageLink := field ms "image_link" (some none) optionalText
  let author := field ms "author" (some "") text
  let maturity := field ms "maturity" (some none) optionalText
  let props := field ms "properties" (some []) Schema.properties
  let errors := errorsOf uid ++ errorsOf type ++ errorsOf id ++ errorsOf contentType ++
    errorsOf version ++ errorsOf installed ++ errorsOf compatible ++ errorsOf label ++
    errorsOf description ++ errorsOf detailed ++ errorsOf link ++ errorsOf imageLink ++
    errorsOf author ++ errorsOf maturity ++ errorsOf props
  if errors.isEmpty then
    .ok { uid := valueOr "" uid, type := valueOr .automation type, id := valueOr "" id,
          contentType := valueOr "" contentType, version := valueOr "" version,
          installed := valueOr false installed, compatible := valueOr true compatible,
          label := valueOr "" label, description := valueOr "" description,
          detailedDescription := valueOr "" detailed, link := valueOr none link,
          imageLink := valueOr none imageLink, author := valueOr "" author,
          maturity := valueOr none maturity, properties := valueOr [] props }
  else .error errors

/-- Reads an addon from a value, which must be an object. -/
def ofJson : Json → Except (List FieldError) Addon
  | .obj ms => ofMembers ms
  | _ => .error [⟨[], .modelType⟩]

/-- The most arrays and objects a value of a JSON text may be nested in. -/
def maxNesting : Nat := 200

/-- Reads an addon from JSON text. -/
def ofText (s : String) : Except (List FieldError) Addon :=
  match Json.parse? s with
  | some v => if Json.nesting s ≤ maxNesting then ofJson v else .error [⟨[], .jsonInvalid⟩]
  | none => .error [⟨[], .jsonInvalid⟩]

end Addon

end AddonCatalog
