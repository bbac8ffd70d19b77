import AddonCatalog.Json.Pairs
import AddonCatalog.Number.Extended
import AddonCatalog.Order.InsertionSort
/-!
# Installed-record stores

An installed-record store maps keys (addon uids) to serialized addons. A value that is
not a text (`null` above all) is a record the service cannot read.

Two kinds of store are modelled:

* a memory store, a dictionary: it keeps keys and values as given, lists its records
  in insertion order, and putting a key again replaces the value in place. Keys are
  equal as dictionary keys are (`1`, `1.0` and `true` are one key, which keeps the
  form it was first given in), and arrays and objects cannot be keys;
* a table store, one namespace of a database table shared by several namespaces, which
  lists its records ordered by key (code point order, as the database does).

A table stores its keys and values as texts, the way a text column converts what is
bound to it (`RecordStore.bind`): a text is itself, a whole number its decimal digits
(it must fit in 64 bits, or binding fails with an `OverflowError`), a flag `1` or `0`,
a double its text of fifteen significant digits (`Number.storedText`),
`null` stays `null`; a list or an object cannot be bound, and a key may not be `null`.
A table whose database cannot be opened fails every operation with the same error.

* `RecordStore.getAll`, `put`, `remove` and `keys` are the store operations; `keys`
  sorts the keys with the order of their kinds (`Json.lessThan?`), which fails for
  keys of kinds that have no order between them.
-/

namespace AddonCatalog

namespace Json

/-- The error of an order asked between two values of kinds that have none. -/
def notOrdered (a b : Json) : Failure :=
  ⟨.wrongType, "'<' not supported between instances of '" ++ a.typeName ++ "' and '" ++
    b.typeName ++ "'"⟩

/-- Whether `a` is below `b`: numbers and flags by their exact values, texts by code
points; other kinds have no order. -/
def lessThan? (a b : Json) : Except Failure Bool :=
  match a, b with
  | .str s, .str t => .ok (decide (s < t))
  | _, _ => match numericValue? a, numericValue? b with
    | some (.inl m), some (.inl n) => .ok (decide (m < n))
    | some (.inr x), some (.inr y) => .ok (x < y)
    | some (.inl m), some (.inr y) => .ok (Number.compareWholeFloat m y == some .lt)
    | some (.inr x), some (.inl n) => .ok (Number.compareWholeFloat n x == some .gt)
    | _, _ => .error (notOrdered a b)

end Json

/-- A row of the record table. -/
structure RecordRow where
  space : String
  key : String
  value : Option String
deriving BEq, Inhabited

/-- A store of installed-addon records. -/
inductive RecordStore where
  /-- Records in memory, in insertion order. -/
  | memory (records : List (Json × Json))
  /-- One namespace of a record table; `rows` holds every namespace. -/
  | table (space : String) (rows : List RecordRow)
  /-- A table whose database file cannot be opened. -/
  | unopenable (path : String)
deriving Inhabited

namespace RecordStore

/-- The error of a store whose database cannot be opened. -/
def openFailure (path : String) : Failure :=
  ⟨.recordStore, "Cannot open record store " ++ path ++ ": unable to open database file"⟩

/-- The error of a failed table operation. -/
def operationFailure (reason : String) : Failure :=
  ⟨.recordStore, "Record store operation failed: " ++ reason⟩

/-- The error of a whole number too large for the table. -/
def tooLarge : Failure := ⟨.overflow, "Python int too large to convert to SQLite INTEGER"⟩

/-- Code point order of keys. -/
def keyBefore (a b : String) : Bool := decide (a < b) || a == b

/-- Sets a key in an insertion-ordered dictionary, keeping the key and position of an
equal key already there. -/
def setEntry (key value : Json) : List (Json × Json) → List (Json × Json)
  | [] => [(key, value)]
  | (k, v) :: rest => if Json.sameKey k key then (k, value) :: rest else (k, v) :: setEntry key value rest

/-- A text as a value; `null` for none. -/
def textValue : Option String → Json
  | some s => .str s
  | none => .null

/-- Every record, with its key and value as stored. -/
def getAll : RecordStore → Except Failure (List (Json × Json))
  | memory rs => .ok rs
  | table ns rows =>
    .ok ((((rows.filter (·.space == ns)).map fun r => (r.key, r.value)).mergeSort
      fun a b => keyBefore a.1 b.1).map fun (k, v) => (.str k, textValue v))
  | unopenable path => .error (openFailure path)

/-- The text a value is stored as in a text column, or the failure of binding it as
the parameter at `position`. -/
def bind (position : Nat) (v : Json) : Except Failure (Option String) :=
  match v with
  | .null => .ok none
  | .str s => .ok (some s)
  | .bool b => .ok (some (if b then "1" else "0"))
  | .int n => if -Int.pow 2 63 ≤ n ∧ n < Int.pow 2 63 then .ok (some (toString n)) else .error tooLarge
  | .float x => .ok (Number.storedText x)
  | .arr _ | .obj _ =>
    .error (operationFailure ("Error binding parameter " ++ toString position ++ ": type '" ++
      v.typeName ++ "' is not supported"))

/-- Removes the rows of a key from a namespace. -/
def dropKey (ns key : String) (rows : List RecordRow) : List RecordRow :=
  rows.filter fun r => !(r.space == ns && r.key == key)

/-- Stores a record, replacing the value of its key. -/
def put (key value : Json) : RecordStore → Except Failure RecordStore
  | memory rs => if Json.hashable key then .ok (memory (setEntry key value rs)) else .error (Json.unhashable key)
  | table ns rows => do
    let k ← bind 2 key
    let v ← bind 3 value
    match k with
    | some k => .ok (table ns (dropKey ns k rows ++ [⟨ns, k, v⟩]))
    | none => .error (operationFailure "NOT NULL constraint failed: addon_records.key")
  | unopenable path => .error (openFailure path)

/-- Removes a record; removing an absent key changes nothing. -/
def remove (key : Json) : RecordStore → Except Failure RecordStore
  | memory rs =>
    if Json.hashable key then .ok (memory (rs.filter fun p => !Json.sameKey p.1 key))
    else .error (Json.unhashable key)
  | table ns rows => do
    match ← bind 2 key with
    | some k => .ok (table ns (dropKey ns k rows))
    | none => .ok (table ns rows)
  | unopenable path => .error (openFailure path)

/-- The keys, sorted. -/
def keys (s : RecordStore) : Except Failure (List Json) := do
  Order.insertionSortM Json.lessThan? ((← s.getAll).map (·.1))

/-- Whether the store is a table. -/
def isTable : RecordStore → Bool
  | memory _ => false
  | _ => true

end RecordStore

end AddonCatalog
