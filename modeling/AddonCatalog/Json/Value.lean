/-!
# JSON values

The documents this library reads and writes — catalog indexes, stored records,
settings files — are JSON values. Whole numbers and floating-point numbers are
different kinds (`1` and `1.0` are written differently and validated differently),
whole numbers have no bound, and an object keeps its members in the order they were
first given, one member per key.

* `Json.get?` looks a key up in an object;
* `Json.truthy` is the test a value passes when it stands in a condition: `null`,
  `false`, zero, the empty string, the empty array and the empty object fail it;
* `Json.typeName` names the kind of a value as error messages name it;
* `Json.finiteOrNull` replaces the doubles that are not finite by `null`, as the JSON
  view of a value does.
-/

namespace AddonCatalog

/-- A JSON value. -/
inductive Json where
  | null
  | bool (b : Bool)
  | int (n : Int)
  | float (x : Float)
  | str (s : String)
  | arr (items : List Json)
  | obj (members : List (String × Json))
deriving Inhabited

namespace Json

/-- The value of a key in an object. -/
def get? : Json → String → Option Json
  | .obj ms, k => ms.lookup k
  | _, _ => none

/-- The value of a key in an object, `null` when it is absent. -/
def getD (v : Json) (k : String) : Json := (v.get? k).getD .null

/-- Sets the value of a key in a member list: an existing key keeps its place and
takes the new value, a new key goes last. -/
def setMember (ms : List (String × Json)) (k : String) (v : Json) : List (String × Json) :=
  if ms.any (·.1 == k) then ms.map fun m => if m.1 == k then (k, v) else m
  else ms ++ [(k, v)]

/-- Builds member lists the way a dictionary is filled: a repeated key keeps the
place of its first occurrence and the value of its last. -/
def collectMembers (ms : List (String × Json)) : List (String × Json) :=
  ms.foldl (fun acc m => setMember acc m.1 m.2) []

/-- Whether the value passes as true in a condition. -/
def truthy : Json → Bool
  | .null => false
  | .bool b => b
  | .int n => n != 0
  | .float x => x != 0.0
  | .str s => !s.isEmpty
  | .arr xs => !xs.isEmpty
  | .obj ms => !ms.isEmpty

/-- The value itself when it passes as true, otherwise `other`. -/
def orElse (v : Json) (other : Json) : Json := if v.truthy then v else other

/-- The name of the kind of a value, as error messages give it. -/
def typeName : Json → String
  | .null => "NoneType"
  | .bool _ => "bool"
  | .int _ => "int"
  | .float _ => "float"
  | .str _ => "str"
  | .arr _ => "list"
  | .obj _ => "dict"

/-- The string held by a value. -/
def str? : Json → Option String
  | .str s => some s
  | _ => none

/-- The array held by a value. -/
def arr? : Json → Option (List Json)
  | .arr xs => some xs
  | _ => none

/-- The members held by an object. -/
def obj? : Json → Option (List (String × Json))
  | .obj ms => some ms
  | _ => none

/-- Whether the value is `null`. -/
def isNull : Json → Bool
  | .null => true
  | _ => false

mutual
/-- The value with every double that is not finite replaced by `null`. -/
def finiteOrNull : Json → Json
  | .float x => if x.isFinite then .float x else .null
  | .arr xs => .arr (finiteItems xs)
  | .obj ms => .obj (finiteMembers ms)
  | v => v

/-- The items with every double that is not finite replaced by `null`. -/
def finiteItems : List Json → List Json
  | [] => []
  | x :: xs => finiteOrNull x :: finiteItems xs

/-- The members with every double that is not finite replaced by `null`. -/
def finiteMembers : List (String × Json) → List (String × Json)
  | [] => []
  | (k, v) :: ms => (k, finiteOrNull v) :: finiteMembers ms
end

end Json

end AddonCatalog
