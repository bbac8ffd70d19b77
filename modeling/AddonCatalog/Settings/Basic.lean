import AddonCatalog.Number.Whole
/-!
# Settings

The settings of the program: whether the remote catalog is consulted and whether
incompatible entries are shown (the catalog policy), where the catalog is, the uid
prefix of this catalog's addons, the core version compatibility is judged against, the
cache lifetime and request timeout in seconds, and the data directory (empty for the
default one).

* `parseFlag` reads a flag leniently: a boolean is itself; any other value is turned
  into text, trimmed and lower-cased, and `true 1 yes on` or `false 0 no off` decide;
  anything else gives the default.
* `Settings.ofJson` reads settings from an object, each field with its default: flags
  through `parseFlag`, the catalog url and data directory as the text of a true value,
  the service and core version as the text of a true value or their defaults, the
  numbers as whole numbers (`Number.wholeOf`).
* `Settings.applyEnv` applies the overrides `ADDONHUB_REMOTE`,
  `ADDONHUB_INCLUDE_INCOMPATIBLE`, `ADDONHUB_CATALOG_URL` and `ADDONHUB_CORE_VERSION`:
  the flags through `parseFlag` with the current value as default, the texts raw;
  `Settings.envView` is the object view after them, where a text override keeps the
  value given, whatever its kind.
-/

namespace AddonCatalog

/-- Reads a flag leniently, with a default for unknown values. -/
def parseFlag (v : Json) (dflt : Bool) : Bool :=
  match v with
  | .bool b => b
  | v =>
    let w := Text.lowerAscii (Text.trim v.display)
    if w == "true" || w == "1" || w == "yes" || w == "on" then true
    else if w == "false" || w == "0" || w == "no" || w == "off" then false
    else dflt

/-- The settings of the program. -/
structure Settings where
  remoteEnabled : Bool := true
  includeIncompatible : Bool := false
  catalogUrl : String := ""
  serviceId : String := "marketplace"
  coreVersion : String := "4.0.0"
  cacheTtlSeconds : Int := 900
  requestTimeoutSeconds : Int := 30
  dataDir : String := ""
deriving Inhabited

namespace Settings

/-- The field names, in order. -/
def fieldNames : List String :=
  ["remote_enabled", "include_incompatible", "catalog_url", "service_id", "core_version",
    "cache_ttl_seconds", "request_timeout_seconds", "data_dir"]

/-- The object view of the settings, fields in order. -/
def toJson (s : Settings) : Json :=
  .obj [("remote_enabled", .bool s.remoteEnabled), ("include_incompatible", .bool s.includeIncompatible),
    ("catalog_url", .str s.catalogUrl), ("service_id", .str s.serviceId),
    ("core_version", .str s.coreVersion), ("cache_ttl_seconds", .int s.cacheTtlSeconds),
    ("request_timeout_seconds", .int s.requestTimeoutSeconds), ("data_dir", .str s.dataDir)]

/-- The error of reading a field from a value that is not an object. -/
def notAnObject (v : Json) : Failure :=
  ⟨.missingAttribute, "'" ++ v.typeName ++ "' object has no attribute 'get'"⟩

/-- Reads settings from an object; fields are read in order, and the first failure wins. -/
def ofJson (data : Json) : Except Failure Settings := do
  let .obj _ := data | throw (notAnObject data)
  let d : Settings := {}
  let field (k : String) (dflt : Json) : Json := (data.get? k).getD dflt
  let textOr (k : String) (dflt : String) : String :=
    let v := field k (.str dflt)
    if v.truthy then v.display else dflt
  let ttl ← Number.wholeOf (field "cache_ttl_seconds" (.int d.cacheTtlSeconds))
  let timeout ← Number.wholeOf (field "request_timeout_seconds" (.int d.requestTimeoutSeconds))
  pure { remoteEnabled := parseFlag (field "remote_enabled" (.bool true)) d.remoteEnabled,
         includeIncompatible := parseFlag (field "include_incompatible" (.bool false)) d.includeIncompatible,
         catalogUrl := textOr "catalog_url" "",
         serviceId := textOr "service_id" d.serviceId,
         coreVersion := textOr "core_version" d.coreVersion,
         cacheTtlSeconds := ttl,
         requestTimeoutSeconds := timeout,
         dataDir := textOr "data_dir" "" }

/-- Applies the environment overrides. -/
def applyEnv (s : Settings) (env : List (String × Json)) : Settings :=
  let s := match env.lookup "ADDONHUB_REMOTE" with
    | some v => { s with remoteEnabled := parseFlag v s.remoteEnabled }
    | none => s
  let s := match env.lookup "ADDONHUB_INCLUDE_INCOMPATIBLE" with
    | some v => { s with includeIncompatible := parseFlag v s.includeIncompatible }
    | none => s
  let s := match env.lookup "ADDONHUB_CATALOG_URL" with
    | some v => { s with catalogUrl := v.display }
    | none => s
  match env.lookup "ADDONHUB_CORE_VERSION" with
  | some v => { s with coreVersion := v.display }
  | none => s

/-- The object view of the settings after the environment overrides, the text
overrides kept as given. -/
def envView (s : Settings) (env : List (String × Json)) : List (String × Json) :=
  let raw (ms : List (String × Json)) (var field : String) : List (String × Json) :=
    match env.lookup var with
    | some v => Json.setMember ms field v
    | none => ms
  let ms := ((s.applyEnv env).toJson.obj?).getD []
  raw (raw ms "ADDONHUB_CATALOG_URL" "catalog_url") "ADDONHUB_CORE_VERSION" "core_version"

end Settings

/-- The catalog policy of one reconciliation cycle. -/
structure Policy where
  remoteEnabled : Bool := true
  includeIncompatible : Bool := false
deriving Inhabited, BEq

/-- The policy named by the settings. -/
def Settings.policy (s : Settings) : Policy := ⟨s.remoteEnabled, s.includeIncompatible⟩

end AddonCatalog
