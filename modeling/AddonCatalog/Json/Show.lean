import AddonCatalog.Json.Value
import AddonCatalog.Number.FloatText
import AddonCatalog.Text.Quoted
/-!
# The text of a value

How a value reads when it is turned into text, for a label, a version or a message:
`null` reads `None`, the booleans `True` and `False`, numbers their decimal text
(`Number.displayFloat` for doubles), a string itself. Arrays read `[1, 'a']` and
objects `{'k': None}`, with their strings quoted (`Text.quote`).

* `Json.display` is the text of a value;
* `Json.quoted` is the text of a value inside an array or object, and in messages that
  quote a value.
-/

namespace AddonCatalog.Json

mutual
/-- The text of a value inside an array or object: strings are quoted. -/
def quoted : Json → String
  | .null => "None"
  | .bool b => if b then "True" else "False"
  | .int n => toString n
  | .float x => Number.displayFloat x
  | .str s => Text.quote s
  | .arr xs => "[" ++ ", ".intercalate (quotedList xs) ++ "]"
  | .obj ms => "\x7b" ++ ", ".intercalate (quotedMembers ms) ++ "\x7d"

/-- The quoted texts of the items of an array. -/
def quotedList : List Json → List String
  | [] => []
  | x :: xs => quoted x :: quotedList xs

/-- The texts `'key': value` of the members of an object. -/
def quotedMembers : List (String × Json) → List String
  | [] => []
  | (k, v) :: ms => (Text.quote k ++ ": " ++ quoted v) :: quotedMembers ms
end

/-- The text of a value: a string is itself, every other value reads as `quoted`. -/
def display : Json → String
  | .str s => s
  | v => quoted v

end AddonCatalog.Json
