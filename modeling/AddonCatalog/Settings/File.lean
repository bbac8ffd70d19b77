import AddonCatalog.Settings.Basic
import AddonCatalog.Json.Reader
import AddonCatalog.Json.Writer
/-!
# The settings file

Settings are kept in a JSON file. Reading it never fails: a missing file, a text that
is not JSON (a byte order mark included), a document that is not an object, or a
field that cannot be read all give the default settings. The file is written with
two-space indentation, ASCII only, fields in order, without a final line break.

An update reads the file, sets the named attributes of the settings object to the
given values as they are (no conversion: a string stays a string), and writes the file
back. A name the object lacks fails the update before anything is written. Names of
methods and of the object's machinery are attributes too: most only shadow what the
class has, but some change what is written, or make writing fail after the file has
been emptied (`Settings.writtenFields`).

* `Settings.ofFileText` reads the file's text, `Settings.fileText` writes it;
* `Settings.updateFields` applies an update to the object's own attributes,
  `Settings.writtenFields` gives what is then written.
-/

namespace AddonCatalog.Settings

/-- The settings in a settings file's text; `none` is a missing file. -/
def ofFileText : Option String → Settings
  | none => {}
  | some t => match Json.parseDocument? t with
    | some v => match ofJson v with
      | .ok s => s
      | .error _ => {}
    | none => {}

/-- The text of a settings file holding the given fields. -/
def fileText (fields : List (String × Json)) : String :=
  Json.render JsonStyle.settings (.obj fields)

/-- The error of an update naming something that is not a field. -/
def unknownSetting (name : String) : Failure :=
  ⟨.missingKey, Text.quote ("Unknown setting: " ++ name)⟩

/-- The name of the class of settings objects. -/
def className : String := "AddonHubSettings"

/-- The attributes a settings object has through its class: its fields, its methods,
and those every object of a data class has. -/
def classAttributes : List String :=
  fieldNames ++ ["to_dict", "from_dict", "apply_env", "__annotations__", "__class__",
    "__dataclass_fields__", "__dataclass_params__", "__delattr__", "__dict__", "__dir__",
    "__doc__", "__eq__", "__format__", "__ge__", "__getattribute__", "__getstate__", "__gt__",
    "__hash__", "__init__", "__init_subclass__", "__le__", "__lt__", "__match_args__",
    "__module__", "__ne__", "__new__", "__reduce__", "__reduce_ex__", "__repr__",
    "__setattr__", "__sizeof__", "__str__", "__subclasshook__", "__weakref__"]

/-- Sets one attribute of a settings object, given by its own attributes. Most names
become own attributes, which stand before the class's; `__dict__` replaces all own
attributes by an object's members; `__class__` and `__weakref__` cannot be set from
data; a name the object lacks is an unknown setting. -/
def setAttribute (own : List (String × Json)) (name : String) (v : Json) :
    Except Failure (List (String × Json)) :=
  if name == "__class__" then
    .error ⟨.wrongType, "__class__ must be set to a class, not '" ++ v.typeName ++ "' object"⟩
  else if name == "__weakref__" then
    .error ⟨.missingAttribute, "attribute '__weakref__' of '" ++ className ++ "' objects is not writable"⟩
  else if name == "__dict__" then
    match v with
    | .obj ms => .ok ms
    | _ => .error ⟨.wrongType, "__dict__ must be set to a dictionary, not a '" ++ v.typeName ++ "'"⟩
  else if (own.lookup name).isSome || classAttributes.contains name then .ok (Json.setMember own name v)
  else .error (unknownSetting name)

/-- Sets the named attributes of a settings object to the given values, in order. -/
def updateFields (own : List (String × Json)) :
    List (String × Json) → Except Failure (List (String × Json))
  | [] => .ok own
  | (name, v) :: rest => do updateFields (← setAttribute own name v) rest

/-- The fields a settings object is written with, given by its own attributes: each
field's own value, or its default. An own `to_dict` is called and fails, as data is
not callable; an own `__dataclass_fields__` lists the fields instead, and only an
empty object lists none without failing. -/
def writtenFields (own : List (String × Json)) : Except Failure (List (String × Json)) :=
  match own.lookup "to_dict", own.lookup "__dataclass_fields__" with
  | some v, _ => .error ⟨.wrongType, "'" ++ v.typeName ++ "' object is not callable"⟩
  | none, some (.obj []) => .ok []
  | none, some (.obj ((_, v) :: _)) =>
    .error ⟨.missingAttribute, "'" ++ v.typeName ++ "' object has no attribute '_field_type'"⟩
  | none, some v => .error ⟨.missingAttribute, "'" ++ v.typeName ++ "' object has no attribute 'values'"⟩
  | none, none =>
    let defaults := ((({} : Settings).toJson).obj?).getD []
    .ok (fieldNames.map fun n => (n, ((own.lookup n).orElse fun _ => defaults.lookup n).getD .null))

/-- The members of the object view of settings. -/
def members (s : Settings) : List (String × Json) := (s.toJson.obj?).getD []

end AddonCatalog.Settings
