import AddonCatalog.Literal.Parser
/-!
# Literal values

An expression is a literal value when it is built from constants alone: numbers,
strings, bytes, `True`, `False`, `None` and `...`; tuples, lists, sets and dictionaries of
literal values; `set()`; a number with a sign; and the sum or difference of a real and
an imaginary number. Anything else is malformed.

The elements of a set and the keys of a dictionary must be hashable: sets and
lists, sets and dictionaries are not, and neither is a tuple that holds one. Elements are converted in
order, and each is checked as soon as it is converted; a dictionary converts a key, then
its value, and then checks the key.

`check` reads a text this way, after dropping the blanks and tabs before it; it fails
with the message of a syntax error (`Problem.syntaxError`) or of another error
(`Problem.other`), such as a text that holds a null character. Two limits come before
the value is looked at: a parse that runs out of the parser's frames fails without a
message (`parserFull`), and a tree that nests deeper than `treeRoom` is too deep to
build (`tooDeepTree`).
-/

namespace AddonCatalog.Literal

/-- The shape of a literal value, as far as hashing goes. -/
inductive Value where
  | scalar
  | tuple (items : List Value)
  | list
  | set
  | dict
deriving Inhabited

/-- The type of the first part of a value that cannot be hashed, if any. -/
def Value.unhashable? : Value → Option String
  | .scalar => none
  | .list => some "list"
  | .set => some "set"
  | .dict => some "dict"
  | .tuple items => firstUnhashable items
where
  /-- The first unhashable part among values. -/
  firstUnhashable : List Value → Option String
    | [] => none
    | v :: rest => (Value.unhashable? v).orElse fun _ => firstUnhashable rest

/-- Why a text is not a literal value. -/
inductive Problem where
  | syntaxError (message : String)
  | other (message : String)
deriving Inhabited, Repr

/-- The failure of a node that is not part of a literal value. -/
def malformed (node : Option Node) : Problem :=
  match node with
  | some n => .other ("malformed node or string on line 1: <ast." ++ n.className ++ " object at 0x7f5e2c3a1b50>")
  | none => .other "malformed node or string: None"

/-- The failure of a part that cannot be hashed. -/
def unhashable (type : String) : Problem := .other ("unhashable type: '" ++ type ++ "'")

/-- Whether a node is a number constant. -/
def isNumber : Node → Bool
  | .constant .int | .constant .float | .constant .complex => true
  | _ => false

/-- The constant a signed number stands for. -/
def signedNumber (node : Node) : Except Problem Constant :=
  match node with
  | .unary o operand =>
    if o == "+" || o == "-" then
      match operand with
      | .constant c => if isNumber operand then .ok c else .error (malformed (some operand))
      | _ => .error (malformed (some operand))
    else .error (malformed (some node))
  | .constant c => if isNumber node then .ok c else .error (malformed (some node))
  | _ => .error (malformed (some node))

/-- Converts a node into a literal value; `fuel` bounds the depth. Every level of a
parsed tree takes at least one character of its text, so the length of the text is
enough. -/
def convert : Nat → Node → Except Problem Value
  | 0, node => .error (malformed (some node))
  | fuel + 1, node =>
    match node with
    | .constant _ => .ok .scalar
    | .tuple elts => do
      let items ← elts.mapM (convert fuel)
      pure (.tuple items)
    | .list elts => do
      let _ ← elts.mapM (convert fuel)
      pure .list
    | .set elts => do
      for e in elts do
        let v ← convert fuel e
        if let some t := v.unhashable? then throw (unhashable t)
      pure .set
    | .call (.name "set") [] [] => .ok .set
    | .dict entries => do
      for (k, v) in entries do
        let key ← match k with
          | some k => convert fuel k
          | none => throw (malformed none)
        let _ ← convert fuel v
        if let some t := key.unhashable? then throw (unhashable t)
      pure .dict
    | .binary o left right =>
      if o == "+" || o == "-" then do
        let l ← signedNumber left
        let r ← match right with
          | .constant c => if isNumber right then pure c else throw (malformed (some right))
          | _ => throw (malformed (some right))
        if (l == .int || l == .float) && r == .complex then pure .scalar
        else throw (malformed (some node))
      else .error (malformed (some node))
    | _ => (signedNumber node).map fun _ => .scalar

/-- The failure of a parse that ran out of the parser's frames: it has no message. -/
def parserFull : Problem := .other ""

/-- How many levels of objects a whole tree may take, the level of the expression that
holds it included: the builder allows 3000 levels, and the calls that lead to it
already count for 54 of them. -/
def treeRoom : Nat := 2946

/-- The failure of a tree that nests deeper than `treeRoom`. -/
def tooDeepTree : Problem := .other "maximum recursion depth exceeded during ast construction"

/-- Reads a text as a literal value. -/
def check (text : String) : Except Problem Unit :=
  if text.contains '\x00' then .error (.other "source code string cannot contain null bytes")
  else
    let text := String.ofList (text.toList.dropWhile fun c => c == ' ' || c == '\t')
    match parse text with
    | .error (.invalid m) => .error (.syntaxError m)
    | .error .tooDeep => .error parserFull
    | .ok node =>
      if node.depth + 1 > treeRoom then .error tooDeepTree
      else (convert (text.length + 1) node).map fun _ => ()

end AddonCatalog.Literal
