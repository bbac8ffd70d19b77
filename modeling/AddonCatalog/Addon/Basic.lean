import AddonCatalog.Json.Show
import AddonCatalog.Failure
/-!
# Addons

An addon is an installable component offered by a catalog. It is identified by its
uid, `<service>:<type>:<id>`; besides its kind and id it carries a content type that
selects the handler installing it, a free-form version, whether it is installed and
whether it is compatible with the running core, display texts, and open properties
such as the `download_url` of its archive.

* `AddonType` lists the kinds, with their values and labels;
* `buildUid` writes a uid;
* `Addon.withInstalled` sets the installed flag; `Addon.viewWithInstalled` shows an
  addon whose flag was set to any value, unchecked;
* `Addon.toJson` is the object view of an addon, its fields in declaration order; in
  its properties a double that is not finite shows as `null`.
-/

namespace AddonCatalog

/-- The kinds of addons a catalog can offer. -/
inductive AddonType where
  | automation
  | binding
  | misc
  | persistence
  | transformation
  | ui
  | voice
deriving BEq, DecidableEq, Inhabited

namespace AddonType

/-- Every kind, in declaration order. -/
def all : List AddonType := [automation, binding, misc, persistence, transformation, ui, voice]

/-- The value of a kind, as uids and documents write it. -/
def value : AddonType → String
  | automation => "automation"
  | binding => "binding"
  | misc => "misc"
  | persistence => "persistence"
  | transformation => "transformation"
  | ui => "ui"
  | voice => "voice"

/-- The human readable label of a kind. -/
def label : AddonType → String
  | automation => "Automation"
  | binding => "Bindings"
  | misc => "Misc"
  | persistence => "Persistence"
  | transformation => "Transformations"
  | ui => "User Interfaces"
  | voice => "Voice"

/-- The kind with the given value; the value must match exactly, in lower case. -/
def ofValue? (s : String) : Option AddonType := all.find? (·.value == s)

/-- The kind a value names; any other value is not a valid kind. -/
def ofJson (v : Json) : Except Failure AddonType :=
  match v.str?.bind ofValue? with
  | some t => .ok t
  | none => .error ⟨.invalidValue, v.quoted ++ " is not a valid AddonType"⟩

end AddonType

/-- The uid of an addon: `<service>:<type>:<id>`. -/
def buildUid (service : String) (t : AddonType) (id : String) : String :=
  service ++ ":" ++ t.value ++ ":" ++ id

/-- An addon as a catalog sees it. -/
structure Addon where
  uid : String
  type : AddonType
  id : String
  contentType : String := ""
  version : String := ""
  installed : Bool := false
  compatible : Bool := true
  label : String := ""
  description : String := ""
  detailedDescription : String := ""
  link : Option String := none
  imageLink : Option String := none
  author : String := ""
  maturity : Option String := none
  properties : List (String × Json) := []
deriving Inhabited

namespace Addon

/-- The addon with its installed flag set to `b`. -/
def withInstalled (a : Addon) (b : Bool) : Addon := { a with installed := b }

/-- An optional text as a value: `null` when absent. -/
def optionalJson : Option String → Json
  | some s => .str s
  | none => .null

/-- The object view of an addon: every field, in declaration order. -/
def toJson (a : Addon) : Json :=
  .obj [("uid", .str a.uid), ("type", .str a.type.value), ("id", .str a.id),
    ("content_type", .str a.contentType), ("version", .str a.version),
    ("installed", .bool a.installed), ("compatible", .bool a.compatible),
    ("label", .str a.label), ("description", .str a.description),
    ("detailed_description", .str a.detailedDescription), ("link", optionalJson a.link),
    ("image_link", optionalJson a.imageLink), ("author", .str a.author),
    ("maturity", optionalJson a.maturity), ("properties", .obj (Json.finiteMembers a.properties))]

/-- The value of a property. -/
def property? (a : Addon) (k : String) : Option Json := a.properties.lookup k

/-- Whether a value equals a flag as numbers and flags compare: `true` is `1` and
`false` is `0`. -/
def equalsFlag (v : Json) (b : Bool) : Bool :=
  match v with
  | .bool c => c == b
  | .int n => n == (if b then 1 else 0)
  | .float x => x == (if b then 1.0 else 0.0)
  | _ => false

/-- The object view of the addon with its installed flag set to a value that is not
checked, and whether the addon was left as it was: a value equal to the flag leaves
it, any other value takes its place. -/
def viewWithInstalled (a : Addon) (v : Json) : Json × Bool :=
  if equalsFlag v a.installed then (a.toJson, true)
  else match v, a.toJson with
    | .bool b, _ => ((a.withInstalled b).toJson, false)
    | v, .obj ms => (.obj (Json.setMember ms "installed" v.finiteOrNull), false)
    | _, j => (j, false)

end Addon

end AddonCatalog
