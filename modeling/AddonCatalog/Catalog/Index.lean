import AddonCatalog.Addon.Schema
import AddonCatalog.Version.Range
import AddonCatalog.Json.Pairs
import AddonCatalog.Net.Http
/-!
# Catalog indexes

A remote catalog publishes an index: a JSON list of entries, or an object holding the
list under `addons`, `items` or `entries` (the first of these keys whose value is a
list). An entry becomes an addon as follows (`Catalog.entryAddon`); a value passes as
true or false as in any condition (`Json.truthy`).

* An entry that is not an object, or whose `id` is false, is skipped.
* Its kind is the `type` string in lower case; a missing or unknown kind skips the
  entry, and the string is not trimmed.
* The label is the text of the first true value of `label`, `title` and `id`.
* Without a true `compatibility`, a range at the end of the label is taken from it
  (`Catalog.titleRange`): `MQTT [4.0.0;5.0.0)` has label `MQTT` and that range.
* The entry is compatible when it has no range, when the core version lies in the
  range, or when the range or version cannot be read. A `compatibility` that is not
  a string is a `TypeError`, and a number of more than `Number.maxDigits` digits in
  the version or the range fails the whole fetch.
* The properties are the entry's `properties` read as a dictionary, with
  `download_url` and `sha256` of the entry added when they are true and absent.
* The content type is the first true of `content_type`, `contentType` and the archive
  content type; the version is the text of `version`, or empty.
* The addon is then validated like any other; an entry it rejects is skipped.

Duplicates are kept. Fetching fails with a `CatalogFetchError` when the request fails,
when the body is not JSON, or when the document has no list.
-/

namespace AddonCatalog

namespace Catalog

/-- The content type of addons distributed as downloadable archives. -/
def archiveContentType : String := "application/vnd.addonhub.archive"

/-- The keys under which an index object may hold its list, in order. -/
def listKeys : List String := ["addons", "items", "entries"]

/-- The entry keys that are copied into the properties. -/
def propertyKeys : List String := ["download_url", "sha256"]

/-- The headers of an index request. -/
def requestHeaders : List (String × String) :=
  [("Accept", "application/json"), ("User-Agent", "AddonHub-Catalog/1.0")]

/-- The seconds to connect and to read an index, unless configured. -/
def defaultTimeout : Int × Int := (10, 30)

/-- Whether the character is a bracket of either kind. -/
def isBracket (c : Char) : Bool := c == '[' || c == ']' || c == '(' || c == ')'

/-- A range at the end of a label: the label must end, blanks aside, with `]` or `)`;
the bracket before that must be `[` or `(`, and the text between them must hold `,` or
`;`. The answer is the range text, brackets included, and the label before it,
trimmed. -/
def titleRange (label : String) : Option (String × String) :=
  let cs := label.toList
  let body := (cs.reverse.dropWhile Text.isBlank).reverse
  match body.reverse with
  | close :: revBefore =>
    if close == ']' || close == ')' then
      let inner := (revBefore.takeWhile (fun c => !isBracket c)).reverse
      match revBefore.drop inner.length with
      | openB :: revHead =>
        if (openB == '[' || openB == '(') && (inner.contains ',' || inner.contains ';') then
          some (String.ofList (openB :: inner ++ [close]),
            String.ofList (Text.trimChars revHead.reverse))
        else none
      | [] => none
    else none
  | [] => none

/-- Where a catalog is, and what it is read for. -/
structure Source where
  url : String
  serviceId : String
  /-- The version of the running core; compatibility is judged against it. -/
  coreVersion : Option String
deriving Inhabited

/-- Whether an entry is compatible with the core, given its range value. -/
def compatibleWith (core : Option String) (range : Json) : Except Failure Bool :=
  if !range.truthy then .ok true
  else match range with
    | .str r => match inRange core (some r) with
      | .ok b => .ok b
      | .error e => if e.isReading then .ok true else .error e.failure
    | v => .error ⟨.wrongType, "expected string or bytes-like object, got '" ++ v.typeName ++ "'"⟩

/-- The first true value among the keys of an entry, or `other`. -/
def firstTrue (entry : Json) (keys : List String) (other : Json) : Json :=
  ((keys.map entry.getD).find? Json.truthy).getD other

/-- The properties of an entry: its `properties` as a dictionary, plus the true
`download_url` and `sha256` of the entry. -/
def entryProperties (entry : Json) : Except Failure (List (Json × Json)) := do
  let base ← (entry.getD "properties" |>.orElse (.obj [])).dictPairs
  pure (propertyKeys.foldl (fun ps k =>
    let v := entry.getD k
    if v.truthy then Json.setDefault ps (.str k) v else ps) base)

/-- The pairs as object members, if every key is a string. -/
def stringKeyed (ps : List (Json × Json)) : Option (List (String × Json)) :=
  ps.mapM fun (k, v) => k.str?.map (·, v)

/-- The kind an entry names: its `type` string in lower case, when that is the value of a
kind. -/
def entryKind (entry : Json) : Option AddonType :=
  match entry.getD "type" with
  | .str t => AddonType.ofValue? (Text.lowerAscii t)
  | _ => none

/-- The range of an entry and its label: a true `compatibility` with the whole label, or else
the range at the end of the label, cut from it. The label is the text of the first true of
`label`, `title` and `id`. -/
def rangeAndLabel (entry : Json) : Json × String :=
  let label := (firstTrue entry ["label", "title"] (entry.getD "id")).display
  let rangeField := entry.getD "compatibility"
  if rangeField.truthy then (rangeField, label)
  else match titleRange label with
    | some (r, l) => (.str r, l)
    | none => (.null, label)

/-- The members of the addon an entry of the given kind describes, its properties apart. -/
def entryMembers (src : Source) (entry : Json) (kind : AddonType) (compatible : Bool) :
    List (String × Json) :=
  let id := (entry.getD "id").display
  [("uid", .str (buildUid src.serviceId kind id)), ("type", .str kind.value), ("id", .str id),
   ("content_type", firstTrue entry ["content_type", "contentType"] (.str archiveContentType)),
   ("version", .str ((entry.getD "version").orElse (.str "")).display),
   ("compatible", .bool compatible), ("label", .str (rangeAndLabel entry).2),
   ("description", (entry.getD "description").orElse (.str "")),
   ("detailed_description", (entry.getD "detailed_description").orElse (.str "")),
   ("link", entry.getD "link"), ("image_link", entry.getD "image_link"),
   ("author", (entry.getD "author").orElse (.str "")), ("maturity", entry.getD "maturity")]

/-- The addon an entry of the given kind describes, with its compatibility and properties;
`none` when validation rejects it. -/
def validEntry (src : Source) (entry : Json) (kind : AddonType) (compatible : Bool)
    (props : List (Json × Json)) : Option Addon :=
  match stringKeyed props with
  | none => none
  | some ms =>
    match Addon.ofMembers (entryMembers src entry kind compatible ++ [("properties", .obj ms)]) with
    | .ok a => some a
    | .error _ => none

/-- The addon of an entry, `none` when it is skipped. -/
def entryAddon (src : Source) (entry : Json) : Except Failure (Option Addon) := do
  let .obj _ := entry | return none
  if !(entry.getD "id").truthy then return none
  let some kind := entryKind entry | return none
  let props ← entryProperties entry
  let compatible ← compatibleWith src.coreVersion (rangeAndLabel entry).1
  return validEntry src entry kind compatible props

/-- The entries of an index document. -/
def documentEntries (url : String) (doc : Json) : Except Failure (List Json) :=
  match doc with
  | .arr xs => .ok xs
  | .obj _ =>
    match listKeys.findSome? fun k => (doc.getD k).arr? with
    | some xs => .ok xs
    | none => .error ⟨.catalogFetch, "Catalog " ++ url ++ " has no addon list"⟩
  | _ => .error ⟨.catalogFetch, "Catalog " ++ url ++ " has no addon list"⟩

/-- The failure a fetch reports for a failure of its request or of reading its body: failed
requests and bodies that are not JSON become catalog errors; other failures pass unchanged. -/
def indexFailure (url : String) (f : Failure) : Failure :=
  if f.kind.isRequest then ⟨.catalogFetch, "Failed to fetch catalog " ++ url ++ ": " ++ f.message⟩
  else if f.kind == .invalidValue then
    ⟨.catalogFetch, "Catalog " ++ url ++ " is not valid JSON: " ++ f.message⟩
  else f

/-- The document of an index reply, its failures reported as `indexFailure` says. -/
def replyDocument (url : String) (reply : Reply) : Except Failure Json :=
  match reply with
  | .fault f => .error (indexFailure url f)
  | .response r =>
    match r.raiseForStatus with
    | .error f => .error (indexFailure url f)
    | .ok () => match r.body.json with
      | .ok v => .ok v
      | .error f => .error (indexFailure url f)

/-- The addons of an index reply, in order, duplicates kept. -/
def addonsOfReply (src : Source) (reply : Reply) : Except Failure (List Addon) := do
  let doc ← replyDocument src.url reply
  let entries ← documentEntries src.url doc
  let found ← entries.mapM (entryAddon src)
  pure found.reduceOption

/-- The entry with the given uid in an index reply. -/
def lookupInReply (src : Source) (reply : Reply) (uid : String) : Except Failure (Option Addon) :=
  (addonsOfReply src reply).map fun as => as.find? (·.uid == uid)

/-- The request for an index. -/
def indexRequest (url : String) (timeout : Int × Int) : Request :=
  ⟨url, requestHeaders, timeout, false⟩

end Catalog

end AddonCatalog
