/-!
# Expression trees

The tree a parsed expression makes. Only the shape matters here: which constants,
containers, operators and other expressions it is made of, to decide whether it is a
literal value and to name what a failure is about.

* `Node.className` names the kind of a node, as failures about a node show it;
* `Node.describe` names what a node is in messages such as
  `cannot assign to literal here`;
* `Node.depth` counts how deeply its objects nest, which bounds how deep a tree may be
  before it is too deep to build;
* `Refusal` says why a text gives no tree: a syntax error, or a parse too deep.
-/

namespace AddonCatalog.Literal

/-- The kinds of constants. -/
inductive Constant where
  | int
  | float
  | complex
  | str
  | bytes
  | bool (value : Bool)
  | none
  | ellipsis
deriving BEq, Inhabited, Repr

/-- An expression. -/
inductive Node where
  | constant (c : Constant)
  | name (id : String)
  | tuple (elts : List Node)
  | list (elts : List Node)
  | set (elts : List Node)
  /-- A dictionary display; a key is missing for an entry `**value`. -/
  | dict (entries : List (Option Node × Node))
  | unary (op : String) (operand : Node)
  | binary (op : String) (left right : Node)
  | boolOp (values : List Node)
  | compare (left : Node) (ops : List String) (rest : List Node)
  /-- A call; a keyword is missing for an argument `**value`. -/
  | call (func : Node) (args : List Node) (keywords : List (Option String × Node))
  | starred (value : Node)
  | attribute (value : Node) (attr : String)
  | subscript (value slice : Node)
  /-- A slice `lower:upper:step`, with the parts that are written. -/
  | slice (parts : List Node)
  /-- A lambda: the names and default values of its parameters, and its body. -/
  | lambda (params : List Node) (body : Node)
  | ifExp (test body orElse : Node)
  /-- A generator expression or a list, set or dictionary comprehension, by class name:
  its element (a key and a value for a dictionary) and, for each `for` clause, the
  target, the iterable and the conditions. -/
  | comprehension (cls : String) (elts : List Node) (clauses : List (List Node))
  | yieldExp (fromIt : Bool) (value : Option Node)
  | await (value : Node)
  | namedExpr (target value : Node)
  /-- A formatted string: its replacement fields, and a constant for its text. -/
  | joinedStr (values : List Node)
  /-- A replacement field of a formatted string: its expression and its format spec,
  itself a formatted string. -/
  | formatted (value : Node) (spec : Option Node)
deriving Inhabited, Repr

/-- Why a text does not parse. -/
inductive Refusal where
  /-- A syntax error, with its message. -/
  | invalid (message : String)
  /-- A parse that needed more room than the parser has. -/
  | tooDeep
deriving Inhabited, Repr

namespace Node

/-- The class name of a node. -/
def className : Node → String
  | .constant _ => "Constant"
  | .name _ => "Name"
  | .tuple _ => "Tuple"
  | .list _ => "List"
  | .set _ => "Set"
  | .dict _ => "Dict"
  | .unary _ _ => "UnaryOp"
  | .binary _ _ _ => "BinOp"
  | .boolOp _ => "BoolOp"
  | .compare _ _ _ => "Compare"
  | .call _ _ _ => "Call"
  | .starred _ => "Starred"
  | .attribute _ _ => "Attribute"
  | .subscript _ _ => "Subscript"
  | .slice _ => "Slice"
  | .lambda _ _ => "Lambda"
  | .ifExp _ _ _ => "IfExp"
  | .comprehension cls _ _ => cls
  | .yieldExp fromIt _ => if fromIt then "YieldFrom" else "Yield"
  | .await _ => "Await"
  | .namedExpr _ _ => "NamedExpr"
  | .joinedStr _ => "JoinedStr"
  | .formatted _ _ => "FormattedValue"

/-- What a node is, as messages name it. -/
def describe : Node → String
  | .constant (.bool true) => "True"
  | .constant (.bool false) => "False"
  | .constant .none => "None"
  | .constant .ellipsis => "ellipsis"
  | .constant _ => "literal"
  | .name _ => "name"
  | .tuple _ => "tuple"
  | .list _ => "list"
  | .set _ => "set display"
  | .dict _ => "dict literal"
  | .unary _ _ | .binary _ _ _ | .boolOp _ => "expression"
  | .compare _ _ _ => "comparison"
  | .call _ _ _ => "function call"
  | .starred _ => "starred"
  | .attribute _ _ => "attribute"
  | .subscript _ _ => "subscript"
  | .slice _ => "slice"
  | .lambda _ _ => "lambda"
  | .ifExp _ _ _ => "conditional expression"
  | .comprehension "GeneratorExp" _ _ => "generator expression"
  | .comprehension "ListComp" _ _ => "list comprehension"
  | .comprehension "SetComp" _ _ => "set comprehension"
  | .comprehension _ _ _ => "dict comprehension"
  | .yieldExp _ _ => "yield expression"
  | .await _ => "await expression"
  | .namedExpr _ _ => "named expression"
  | .joinedStr _ | .formatted _ _ => "f-string expression"

mutual

/-- How deeply objects nest in a tree: one level for the node and the deepest of the
nodes it holds. A keyword argument, a `for` clause and the parameters of a lambda are
objects of their own, so each adds a level. -/
def depth : Node → Nat
  | .constant _ | .name _ => 1
  | .tuple elts | .list elts | .set elts | .boolOp elts | .slice elts | .joinedStr elts =>
    1 + deepest elts
  | .dict entries => 1 + deepestEntry entries
  | .unary _ a | .starred a | .attribute a _ | .await a => 1 + a.depth
  | .binary _ a b | .subscript a b | .namedExpr a b => 1 + max a.depth b.depth
  | .compare a _ rest => 1 + max a.depth (deepest rest)
  | .call f args kws => 1 + max f.depth (max (deepest args) (deepestKeyword kws))
  | .lambda params body => 1 + max (1 + deepest params) body.depth
  | .ifExp a b c => 1 + max a.depth (max b.depth c.depth)
  | .comprehension _ elts clauses => 1 + max (deepest elts) (deepestClause clauses)
  | .yieldExp _ none => 1
  | .yieldExp _ (some a) => 1 + a.depth
  | .formatted a none => 1 + a.depth
  | .formatted a (some b) => 1 + max a.depth b.depth

/-- The depth of the deepest of some nodes; none is depth 0. -/
def deepest : List Node → Nat
  | [] => 0
  | a :: rest => max a.depth (deepest rest)

/-- The depth of the deepest key or value of dictionary entries. -/
def deepestEntry : List (Option Node × Node) → Nat
  | [] => 0
  | (none, v) :: rest => max v.depth (deepestEntry rest)
  | (some k, v) :: rest => max (max k.depth v.depth) (deepestEntry rest)

/-- The depth of the deepest keyword argument, which adds a level over its value. -/
def deepestKeyword : List (Option String × Node) → Nat
  | [] => 0
  | (_, v) :: rest => max (1 + v.depth) (deepestKeyword rest)

/-- The depth of the deepest `for` clause, which adds a level over its parts. -/
def deepestClause : List (List Node) → Nat
  | [] => 0
  | c :: rest => max (1 + deepest c) (deepestClause rest)

end

end Node

end AddonCatalog.Literal
