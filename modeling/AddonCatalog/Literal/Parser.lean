import AddonCatalog.Literal.Lexer
import AddonCatalog.Literal.Strings
import Std.Data.HashMap
/-!
# Parsing an expression

The tokens are parsed by a grammar of ordered choices: each rule tries its alternatives
in order and takes the first that succeeds, going back to where it started when one
fails. Some rules remember their answer at each position (`withMemo`), which keeps the
parse from repeating itself. Rules take a `fuel` argument that bounds the depth of the
parse.

A text is parsed at most twice (`parse`):

1. plainly; if this succeeds, its tree is the answer;
2. otherwise again, now with the diagnosing alternatives on: they recognise common
   mistakes and fail with a message of their own, such as `invalid syntax. Perhaps you
   forgot a comma?` for two expressions side by side inside brackets.

A failure reported while reading a token ends the parse as soon as the parser asks for
that token, whichever pass it is in. When neither pass fails with a message, the text
fails with `invalid syntax`, or `unexpected indent` when the first pass stopped at an
indentation. A failure of the lexer that it reports as soon as it meets it wins over
every failure of the parser, as the whole text is read before the answer is given;
the end of the text inside brackets wins only when the failure lies on a later line
than the bracket, and over a failure a rule raised only when the lexer had not yet
looked past the end of the text (`raisedFailure`).

The expression of a replacement field in an f-string is parsed the same way, inside
brackets (`formattedExpression`); the failures of that parse begin with `f-string: `.

The rules a parse is inside of take room, counted in frames (`framed`): one for most
rules, one more for a rule that grows a left operand and for each group of alternatives
or repetition it enters. A parse that needs more than `maxFrames` at once stops in
whichever pass it is, and the text is then too deep to parse (`Refusal.tooDeep`). The
diagnosing pass takes more room than the plain one: its alternatives enter rules of
their own, and after each primary it tries the mistakes of a comprehension.
-/

namespace AddonCatalog.Literal

/-- What ends a parse early: a failure the lexer reported for the token asked for, a
failure a rule raised, or a parse that needed more rules at once than there is room for
(`maxFrames`). -/
inductive Raised where
  | lexer (message : String)
  | rule (message : String)
  | overflow
deriving Inhabited, Repr

/-- The tokens parsed and why reading them stopped. -/
structure Source where
  toks : Array Token
  stop : Stop

/-- The state of a parse. -/
structure ParseState where
  pos : Nat := 0
  /-- How many tokens the parser has asked for. -/
  fill : Nat := 0
  /-- Whether the diagnosing alternatives are on. -/
  diagnose : Bool := false
  /-- How many frames the rules entered and not yet left take. -/
  frames : Nat := 0
  /-- The remembered answers, by rule and position. -/
  memo : Std.HashMap (Nat × Nat) (Option (Node × Nat)) := {}

/-- A parse. -/
abbrev Parse := ReaderT Source (ExceptT Raised (StateM ParseState))

/-- An argument of a call: positional (possibly starred) or by keyword (`none` for
`**value`). -/
inductive Arg where
  | positional (value : Node)
  | keyword (name : Option String) (value : Node)
deriving Inhabited

/-- The words that are names but keywords in some places. -/
def softKeywords : List String := ["_", "case", "match"]

/-- The names a statement of an older language version starts with. -/
def legacyNames : List String := ["print", "exec"]

/-- The token at a position, asking the lexer for it. -/
def tokenAt (i : Nat) : Parse Token := do
  let src ← read
  match src.toks[i]? with
  | some t =>
    modify fun s => { s with fill := max s.fill (i + 1) }
    pure t
  | none =>
    match src.stop with
    | .finished => pure ⟨.endmarker, "", 0, 0, true⟩
    | .failed m => throw (.lexer m)
    | .onRead m _ => throw (.lexer m)

/-- The current position. -/
def mark : Parse Nat := do pure (← get).pos

/-- Goes back to a position. -/
def reset (m : Nat) : Parse Unit := modify fun s => { s with pos := m }

/-- The token at the current position. -/
def peek : Parse Token := do tokenAt (← mark)

/-- Takes the current token when it has the kind and text. -/
def expect (kind : TokenKind) (text : String) : Parse (Option Token) := do
  let t ← peek
  if t.kind == kind && t.text == text then
    reset ((← mark) + 1)
    pure (some t)
  else pure none

/-- Takes an operator. -/
def op (text : String) : Parse (Option Token) := expect .op text

/-- Takes a keyword. -/
def kw (text : String) : Parse (Option Token) := expect .keyword text

/-- Takes a token of a kind. -/
def ofKind (kind : TokenKind) : Parse (Option Token) := do
  let t ← peek
  if t.kind == kind then
    reset ((← mark) + 1)
    pure (some t)
  else pure none

/-- Whether the current token is one of the operators. -/
def atOp (texts : List String) : Parse Bool := do
  let t ← peek
  pure (t.kind == .op && texts.contains t.text)

/-- Fails the parse with a message. -/
def raise {α : Type} (message : String) : Parse α := throw (.rule message)

/-- Whether the diagnosing alternatives are on. -/
def diagnosing : Parse Bool := do pure (← get).diagnose

/-- The most frames the rules of a parse may take at once. -/
def maxFrames : Nat := 6000

/-- Runs a rule that takes `k` frames while it runs. A parse that would take more than
`maxFrames` stops with `Raised.overflow`; the check comes before a remembered answer is
looked up, so a rule whose answer is remembered still takes its frames. -/
def framed {α : Type} (k : Nat) (p : Parse α) : Parse α := do
  let s ← get
  if s.frames + k > maxFrames then throw .overflow
  set { s with frames := s.frames + k }
  let r ← p
  modify fun s => { s with frames := s.frames - k }
  pure r

/-- Runs a parser, going back to where it started when it fails. -/
def attempt {α : Type} (p : Parse (Option α)) : Parse (Option α) := do
  let m ← mark
  let r ← p
  if r.isNone then reset m
  pure r

/-- Whether a parser succeeds here; the position stays. -/
def ahead {α : Type} (p : Parse (Option α)) : Parse Bool := do
  let m ← mark
  let r ← p
  reset m
  pure r.isSome

/-- Runs a diagnosing alternative, which either fails the parse with its message or
fails itself and leaves the position. -/
def probe {α : Type} (p : Parse (Option α)) : Parse Unit := do
  let _ ← attempt p

/-- A diagnosing alternative that yields nothing when it fails. -/
def probeOnly (p : Parse (Option Unit)) : Parse Unit := probe p

/-- Runs a rule, remembering its answer at the position under `key`. -/
def withMemo (key : Nat) (p : Parse (Option Node)) : Parse (Option Node) := do
  let s ← get
  match s.memo[(key, s.pos)]? with
  | some (some (n, e)) => reset e; pure (some n)
  | some none => pure none
  | none =>
    let start := s.pos
    let r ← attempt p
    let e ← mark
    modify fun s => { s with memo := s.memo.insert (key, start) (r.map (·, e)) }
    pure r

/-- Runs a parser with the diagnosing alternatives off. -/
def plainly {α : Type} (p : Parse α) : Parse α := do
  let d ← diagnosing
  modify fun s => { s with diagnose := false }
  let r ← p
  modify fun s => { s with diagnose := d }
  pure r

/-- Skips line ends; `fuel` bounds them. -/
def skipNewlines : Nat → Parse Unit
  | 0 => pure ()
  | fuel + 1 => do
    if (← ofKind .newline).isSome then skipNewlines fuel

/-- The kind of a number token. -/
def numberKind (text : String) : Constant :=
  let cs := text.toList
  if cs.getLast? == some 'j' || cs.getLast? == some 'J' then .complex
  else if cs.length ≥ 2 && cs.head? == some '0' && "xXoObB".toList.contains (cs.getD 1 ' ') then .int
  else if cs.any fun c => c == '.' || c == 'e' || c == 'E' then .float
  else .int

/-- The arguments of a call: the positional ones, and the keyword ones. -/
def collectArgs (positional : List Node) (rest : List Arg) : Node :=
  let starred := rest.filterMap fun | .positional v => some v | .keyword _ _ => none
  let keywords := rest.filterMap fun | .keyword k v => some (k, v) | .positional _ => none
  .call (.name "") (positional ++ starred) keywords

/-- The first target in an expression that may not be assigned to in a `for`. -/
def invalidTarget : Nat → Node → Option Node
  | 0, _ => none
  | fuel + 1, e =>
    match e with
    | .tuple elts | .list elts => elts.findSome? (invalidTarget fuel)
    | .starred v => invalidTarget fuel v
    | .compare left ops _ => if ops.head? == some "in" then invalidTarget fuel left else none
    | .name _ | .attribute _ _ | .subscript _ _ => none
    | e => some e

/-- What may follow a lambda parameter: a comma, taken, or the colon, left. -/
def paramEnd : Parse (Option Unit) := do
  if (← op ",").isSome then return some ()
  if ← atOp [":"] then return some ()
  return none

/-- A lambda parameter without a default: its name. -/
def paramNoDefault : Parse (Option Node) := attempt do
  let some t ← ofKind .name | return none
  let some _ ← paramEnd | return none
  return some (.name t.text)

/-- Lambda parameters without defaults, as many as there are: their names. -/
def paramsNoDefault : Nat → Parse (List Node)
  | 0 => pure []
  | n + 1 => do
    let some p ← paramNoDefault | return []
    return p :: (← paramsNoDefault n)

/-- A `**` parameter of a lambda with a default or followed by more parameters. -/
def invalidLambdaKwds : Parse (Option Unit) := do
  probeOnly do
    if (← op "**").isNone then return none
    if (← ofKind .name).isNone then return none
    if (← op "=").isSome then raise "var-keyword argument cannot have default value"
    return none
  attempt do
    if (← op "**").isNone then return none
    if (← ofKind .name).isNone then return none
    if (← op ",").isNone then return none
    if (← ofKind .name).isSome || (← atOp ["*", "**", "/"]) then
      raise "arguments cannot follow var-keyword argument"
    return none

/-- The `**` parameter of a lambda: its name. -/
def lambdaKwds : Parse (Option Node) := do
  if ← diagnosing then probeOnly invalidLambdaKwds
  attempt do
    if (← op "**").isNone then return none
    paramNoDefault

/-- The operators of each level of binary operators, loosest first. -/
def binaryOps (level : Nat) : List String :=
  match level with
  | 0 => ["|"]
  | 1 => ["^"]
  | 2 => ["&"]
  | 3 => ["<<", ">>"]
  | 4 => ["+", "-"]
  | _ => ["*", "/", "//", "%", "@"]

/-- The comparison operators of one token. -/
def comparisonOps : List String := ["==", "!=", "<=", "<", ">=", ">"]

/-- Takes a comparison operator: one of `comparisonOps`, `not in`, `in`, `is not` or
`is`. -/
def compareOperator : Parse (Option String) := do
  let t ← peek
  if t.kind == .op && comparisonOps.contains t.text then
    reset ((← mark) + 1)
    return some t.text
  if (← kw "not").isSome then
    if (← kw "in").isSome then return some "not in"
    return none
  if (← kw "in").isSome then return some "in"
  if (← kw "is").isSome then
    if (← kw "not").isSome then return some "is not"
    return some "is"
  return none

/-- Runs a rule over the tokens from the start, with the diagnosing alternatives on or
off. -/
def runOn (rule : Parse (Option Node)) (src : Source) (diagnose : Bool) :
    Except Raised (Option Node) × ParseState :=
  ((rule.run src).run).run { diagnose }

/-- The failure of a parse that failed at `line`: the end of the text inside a bracket
opened on an earlier line, when it did, else `message`. -/
def unclosedOr (src : Source) (line : Nat) (message : String) : String :=
  match src.stop with
  | .onRead _ (some (m, bracketLine)) => if line > bracketLine then m else message
  | _ => message

/-- The line of the last token the parser asked for. -/
def lastLine (src : Source) (fill : Nat) : Nat :=
  match src.toks[fill - 1]? with
  | some t => t.line
  | none => 1

/-- The failure of a parse whose rules gave up after asking for `fill` tokens: a failure
of the lexer further on, when there is one, else the end of the text inside a bracket
opened on an earlier line, when it is, else `message`. The parser's own failures begin
with `lead`. -/
def failure (lead : String) (src : Source) (fill : Nat) (message : String) : String :=
  match src.stop with
  | .failed m => m
  | _ => lead ++ unclosedOr src (lastLine src fill) message

/-- The failure of a parse whose rule raised `message` after asking for `fill` tokens: as
`failure`, unless reading the last token asked for already looked past the end of the
text, and the rest of the text is not read again. -/
def raisedFailure (lead : String) (src : Source) (fill : Nat) (message : String) : String :=
  match src.toks[fill - 1]? with
  | some t => if t.atEnd then lead ++ message else failure lead src fill message
  | none => lead ++ message

/-- The failure the lexer reported for a token the parser asked for; one it reports by
itself keeps its message, the others begin with `lead`. -/
def lexerFailure (lead : String) (src : Source) (message : String) : String :=
  match src.stop with
  | .failed _ => message
  | _ => lead ++ message

/-- The syntax error of a parse that failed in both passes. -/
def syntaxFailure (lead : String) (src : Source) (first : ParseState) (fill : Nat) : String :=
  match src.toks[first.fill - 1]? with
  | some t =>
    if t.kind == .indent then lead ++ "unexpected indent"
    else if t.kind == .dedent then lead ++ "unexpected unindent"
    else failure lead src fill "invalid syntax"
  | none => failure lead src fill "invalid syntax"

/-- Parses tokens with `pass`, which runs the rules plainly or diagnosing: the tree, or
why it does not parse, the parser's own failures beginning with `lead`. A parse that
runs out of frames in either pass is too deep, whatever else it would have found. -/
def parseWith (lead : String) (src : Source)
    (pass : Bool → Except Raised (Option Node) × ParseState) : Except Refusal Node :=
  match pass false with
  | (.ok (some node), _) => .ok node
  | (.error .overflow, _) => .error .tooDeep
  | (.error (.lexer m), _) => .error (.invalid (lexerFailure lead src m))
  | (.error (.rule m), s) => .error (.invalid (raisedFailure lead src s.fill m))
  | (.ok none, first) =>
    match pass true with
    | (.error .overflow, _) => .error .tooDeep
    | (.error (.lexer m), _) => .error (.invalid (lexerFailure lead src m))
    | (.error (.rule m), s) => .error (.invalid (raisedFailure lead src (max first.fill s.fill) m))
    | (.ok _, s) => .error (.invalid (syntaxFailure lead src first (max first.fill s.fill)))

/-- The fuel of a parse of a text: a rule takes at most a few dozen levels for each
character, and the expressions of an f-string, read from inside one token, are parsed
on the fuel that is left. -/
def parseFuel (text : String) : Nat := 40 * (text.length + 10)

mutual

/-- A whole text: expressions, then line ends and the end. -/
def evalInput : Nat → Parse (Option Node)
  | 0 => pure none
  | n + 1 => framed 1 do
    let some e ← expressions n | return none
    skipNewlines (← read).toks.size
    if (← ofKind .endmarker).isSome then return some e
    return none

/-- Expressions separated by commas: a tuple when there is a comma. -/
def expressions : Nat → Parse (Option Node)
  | 0 => pure none
  | n + 1 => framed 1 do
    let some e ← expression n | return none
    let rest ← framed 1 (moreExpressions n)
    if !rest.isEmpty then
      let _ ← op ","
      return some (.tuple (e :: rest))
    if (← op ",").isSome then return some (.tuple [e])
    return some e

/-- More expressions, each after a comma. -/
def moreExpressions : Nat → Parse (List Node)
  | 0 => pure []
  | n + 1 => do
    let r ← attempt <| framed 1 do
      if (← op ",").isNone then return none
      expression n
    match r with
    | some e => return e :: (← moreExpressions n)
    | none => return []

/-- An expression: a conditional one, a disjunction or a lambda. -/
def expression : Nat → Parse (Option Node)
  | 0 => pure none
  | n + 1 => framed 1 <| withMemo 1 do
    if ← diagnosing then
      let _ ← invalidExpression n
      let _ ← invalidLegacyExpression n
    let r ← attempt do
      let some b ← disjunction n | return none
      if (← kw "if").isNone then return none
      let some a ← disjunction n | return none
      if (← kw "else").isNone then return none
      let some c ← expression n | return none
      return some (Node.ifExp a b c)
    if r.isSome then return r
    let d ← attempt (disjunction n)
    if d.isSome then return d
    lambdef n

/-- An expression with the diagnosing alternatives off. -/
def expressionWithoutInvalid : Nat → Parse (Option Node)
  | 0 => pure none
  | n + 1 => framed 1 <| plainly do
    let r ← attempt do
      let some b ← disjunction n | return none
      if (← kw "if").isNone then return none
      let some a ← disjunction n | return none
      if (← kw "else").isNone then return none
      let some c ← expression n | return none
      return some (Node.ifExp a b c)
    if r.isSome then return r
    let d ← attempt (disjunction n)
    if d.isSome then return d
    lambdef n

/-- Two expressions side by side inside brackets, or a conditional without `else`. -/
def invalidExpression : Nat → Parse (Option Node)
  | 0 => pure none
  | n + 1 => framed 1 do
    probeOnly do
      let t ← peek
      if t.kind == .name then
        let t2 ← tokenAt ((← mark) + 1)
        if t2.kind == .string || softKeywords.contains t.text then return none
      let some a ← disjunction n | return none
      let some _ ← expressionWithoutInvalid n | return none
      match a with
      | .name id => if legacyNames.contains id then return none
      | _ => pure ()
      let last ← tokenAt ((← mark) - 1)
      if last.level == 0 then return none
      raise "invalid syntax. Perhaps you forgot a comma?"
    attempt do
      let some _ ← disjunction n | return none
      if (← kw "if").isNone then return none
      let some _ ← disjunction n | return none
      let t ← peek
      if (t.kind == .keyword && t.text == "else") || (t.kind == .op && t.text == ":") then return none
      raise "expected 'else' after 'if' expression"

/-- A statement of an older language version, such as `print x`. -/
def invalidLegacyExpression : Nat → Parse (Option Node)
  | 0 => pure none
  | n + 1 => framed 1 <| attempt do
    let some t ← ofKind .name | return none
    if ← ahead (op "(") then return none
    let some _ ← starExpressions n | return none
    if legacyNames.contains t.text then
      raise ("Missing parentheses in call to '" ++ t.text ++ "'. Did you mean " ++ t.text ++ "(...)?")
    return none

/-- Conjunctions joined by `or`. -/
def disjunction : Nat → Parse (Option Node)
  | 0 => pure none
  | n + 1 => framed 1 <| withMemo 2 do
    let some a ← conjunction n | return none
    let more ← framed 1 (moreJoined n "or")
    return some (if more.isEmpty then a else .boolOp (a :: more))

/-- Inversions joined by `and`. -/
def conjunction : Nat → Parse (Option Node)
  | 0 => pure none
  | n + 1 => framed 1 <| withMemo 3 do
    let some a ← inversion n | return none
    let more ← framed 1 (moreJoined n "and")
    return some (if more.isEmpty then a else .boolOp (a :: more))

/-- More operands after the keyword `word`. -/
def moreJoined : Nat → String → Parse (List Node)
  | 0, _ => pure []
  | n + 1, word => do
    let r ← attempt <| framed 1 do
      if (← kw word).isNone then return none
      if word == "or" then conjunction n else inversion n
    match r with
    | some e => return e :: (← moreJoined n word)
    | none => return []

/-- `not` applied to an inversion, or a comparison. -/
def inversion : Nat → Parse (Option Node)
  | 0 => pure none
  | n + 1 => framed 1 <| withMemo 4 do
    let r ← attempt do
      if (← kw "not").isNone then return none
      let some a ← inversion n | return none
      return some (.unary "not" a)
    if r.isSome then return r
    comparison n

/-- A chain of comparisons. -/
def comparison : Nat → Parse (Option Node)
  | 0 => pure none
  | n + 1 => framed 1 do
    let some a ← binary n 0 | return none
    let pairs ← framed 1 (comparePairs n)
    if pairs.isEmpty then return some a
    return some (.compare a (pairs.map (·.1)) (pairs.map (·.2)))

/-- The operators and operands of a comparison after its first operand. -/
def comparePairs : Nat → Parse (List (String × Node))
  | 0 => pure []
  | n + 1 => do
    let r ← attempt <| framed 2 do
      let some o ← compareOperator | return none
      let some b ← binary n 0 | return none
      return some (o, b)
    match r with
    | some p => return p :: (← comparePairs n)
    | none => return []

/-- The binary operators of a level and those binding tighter. -/
def binary : Nat → Nat → Parse (Option Node)
  | 0, _ => pure none
  | n + 1, level =>
    if level ≥ 6 then factor n
    else framed 2 <| withMemo (10 + level) do
      let some a ← binary n (level + 1) | return none
      binaryTail n level a

/-- More operands of a level after `acc`. -/
def binaryTail : Nat → Nat → Node → Parse (Option Node)
  | 0, _, acc => pure (some acc)
  | n + 1, level, acc => do
    let r ← attempt do
      let t ← peek
      if !(t.kind == .op && (binaryOps level).contains t.text) then return none
      reset ((← mark) + 1)
      let some b ← binary n (level + 1) | return none
      return some (Node.binary t.text acc b)
    match r with
    | some e => binaryTail n level e
    | none => return some acc

/-- A signed or inverted factor, or a power. -/
def factor : Nat → Parse (Option Node)
  | 0 => pure none
  | n + 1 => framed 1 <| withMemo 6 do
    let t ← peek
    if t.kind == .op && (t.text == "+" || t.text == "-" || t.text == "~") then
      let r ← attempt do
        reset ((← mark) + 1)
        let some a ← factor n | return none
        return some (Node.unary t.text a)
      if r.isSome then return r
    power n

/-- A power, or its base alone. -/
def power : Nat → Parse (Option Node)
  | 0 => pure none
  | n + 1 => framed 1 do
    let some a ← awaitPrimary n | return none
    let r ← attempt do
      if (← op "**").isNone then return none
      let some b ← factor n | return none
      return some (Node.binary "**" a b)
    if r.isSome then return r
    return some a

/-- An awaited primary, or a primary. -/
def awaitPrimary : Nat → Parse (Option Node)
  | 0 => pure none
  | n + 1 => framed 1 <| withMemo 7 do
    let r ← attempt do
      if (← kw "await").isNone then return none
      let some a ← primary n | return none
      return some (Node.await a)
    if r.isSome then return r
    primary n

/-- An atom followed by attributes and calls. -/
def primary : Nat → Parse (Option Node)
  | 0 => pure none
  | n + 1 => framed 2 <| withMemo 8 do
    let some a ← atom n | return none
    primaryTail n a

/-- Attributes and calls after `acc`. -/
def primaryTail : Nat → Node → Parse (Option Node)
  | 0, acc => pure (some acc)
  | n + 1, acc => do
    let r ← attempt do
      if (← op ".").isNone then return none
      let some t ← ofKind .name | return none
      return some (Node.attribute acc t.text)
    if let some e := r then return ← primaryTail n e
    let g ← attempt (genexp n)
    if let some g := g then return ← primaryTail n (.call acc [g] [])
    let c ← attempt do
      if (← op "(").isNone then return none
      let args ← arguments n
      if (← op ")").isNone then return none
      match args with
      | some (.call _ a k) => return some (Node.call acc a k)
      | _ => return some (Node.call acc [] [])
    if let some c := c then return ← primaryTail n c
    let s ← attempt do
      if (← op "[").isNone then return none
      let some i ← slices n | return none
      if (← op "]").isNone then return none
      return some (Node.subscript acc i)
    if let some s := s then return ← primaryTail n s
    return some acc

/-- A name, constant, string, number, bracketed expression or display. -/
def atom : Nat → Parse (Option Node)
  | 0 => pure none
  | n + 1 => framed 1 do
    let t ← peek
    match t.kind with
    | .name => reset ((← mark) + 1); return some (.name t.text)
    | .keyword =>
      let c : Option Constant := match t.text with
        | "True" => some (.bool true)
        | "False" => some (.bool false)
        | "None" => some .none
        | _ => none
      match c with
      | some c => reset ((← mark) + 1); return some (.constant c)
      | none => return none
    | .string => strings n
    | .number => reset ((← mark) + 1); return some (.constant (numberKind t.text))
    | .op =>
      if t.text == "(" then framed 1 do
        let r ← attempt (tuple n)
        if r.isSome then return r
        let r ← attempt (group n)
        if r.isSome then return r
        attempt (genexp n)
      else if t.text == "[" then framed 1 do
        let r ← attempt (list n)
        if r.isSome then return r
        attempt (listcomp n)
      else if t.text == "\x7b" then framed 1 do
        let r ← attempt (dict n)
        if r.isSome then return r
        let r ← attempt (setDisplay n)
        if r.isSome then return r
        let r ← attempt (dictcomp n)
        if r.isSome then return r
        attempt (setcomp n)
      else if t.text == "..." then
        reset ((← mark) + 1)
        return some (.constant .ellipsis)
      else return none
    | _ => return none

/-- Adjacent strings, joined. -/
def strings : Nat → Parse (Option Node)
  | 0 => pure none
  | n + 1 => framed 1 <| withMemo 20 do
    let texts ← stringTokens n
    if texts.isEmpty then return none
    match joinStrings (formattedExpression n) texts with
    | .ok node => return some node
    | .error (.invalid m) => raise m
    | .error .tooDeep => throw .overflow

/-- The texts of the string tokens from here. -/
def stringTokens : Nat → Parse (List String)
  | 0 => pure []
  | n + 1 => do
    match ← ofKind .string with
    | some t => return t.text :: (← stringTokens n)
    | none => return []

/-- A parenthesised tuple. -/
def tuple : Nat → Parse (Option Node)
  | 0 => pure none
  | n + 1 => framed 1 do
    if (← op "(").isNone then return none
    let items ← attempt <| framed 1 do
      let some y ← starNamedExpression n | return none
      if (← op ",").isNone then return none
      let z ← starNamedExpressions n
      return some (y :: z.getD [])
    if (← op ")").isNone then return none
    return some (.tuple (items.getD []))

/-- A parenthesised expression. -/
def group : Nat → Parse (Option Node)
  | 0 => pure none
  | n + 1 => framed 1 do
    let r ← attempt do
      if (← op "(").isNone then return none
      let a ← framed 1 do
        let a ← attempt (yieldExpr n)
        if a.isSome then pure a else attempt (namedExpression n)
      let some a := a | return none
      if (← op ")").isNone then return none
      return some a
    if r.isSome then return r
    if ← diagnosing then invalidGroup n else return none

/-- A starred expression in parentheses. -/
def invalidGroup : Nat → Parse (Option Node)
  | 0 => pure none
  | n + 1 => framed 1 do
    probeOnly do
      if (← op "(").isNone then return none
      let some _ ← starredExpression n | return none
      if (← op ")").isNone then return none
      raise "cannot use starred expression here"
    attempt do
      if (← op "(").isNone then return none
      if (← op "**").isNone then return none
      let some _ ← expression n | return none
      if (← op ")").isNone then return none
      raise "cannot use double starred expression here"

/-- A generator expression. -/
def genexp : Nat → Parse (Option Node)
  | 0 => pure none
  | n + 1 => framed 1 do
    let r ← attempt do
      if (← op "(").isNone then return none
      let a ← framed 1 do
        let a ← attempt (assignmentExpression n)
        if a.isSome then pure a else attempt do
          let some e ← expression n | return none
          if ← ahead (op ":=") then return none
          return some e
      let some a := a | return none
      let some cs ← forIfClauses n | return none
      if (← op ")").isNone then return none
      return some (Node.comprehension "GeneratorExp" [a] cs)
    if r.isSome then return r
    if ← diagnosing then invalidComprehension n else return none

/-- `name := expression`. -/
def assignmentExpression : Nat → Parse (Option Node)
  | 0 => pure none
  | n + 1 => framed 1 <| attempt do
    let some t ← ofKind .name | return none
    if (← op ":=").isNone then return none
    let some v ← expression n | return none
    return some (Node.namedExpr (.name t.text) v)

/-- An assignment expression, or an expression not followed by `:=`. -/
def namedExpression : Nat → Parse (Option Node)
  | 0 => pure none
  | n + 1 => framed 1 do
    let r ← attempt (assignmentExpression n)
    if r.isSome then return r
    if ← diagnosing then
      let _ ← invalidNamedExpression n
    attempt do
      let some e ← expression n | return none
      if ← ahead (op ":=") then return none
      return some e

/-- Assignments where an expression is expected. -/
def invalidNamedExpression : Nat → Parse (Option Node)
  | 0 => pure none
  | n + 1 => framed 1 <| withMemo 24 do
    probeOnly do
      let some a ← expression n | return none
      if (← op ":=").isNone then return none
      let some _ ← expression n | return none
      raise ("cannot use assignment expressions with " ++ a.describe)
    probeOnly do
      let some _ ← ofKind .name | return none
      if (← op "=").isNone then return none
      let some _ ← binary n 0 | return none
      if ← atOp ["=", ":="] then return none
      raise "invalid syntax. Maybe you meant '==' or ':=' instead of '='?"
    attempt do
      if ← ahead (list n) then return none
      if ← ahead (tuple n) then return none
      if ← ahead (genexp n) then return none
      let t ← peek
      if t.kind == .keyword && (t.text == "True" || t.text == "None" || t.text == "False") then return none
      let some a ← binary n 0 | return none
      if (← op "=").isNone then return none
      let some _ ← binary n 0 | return none
      if ← atOp ["=", ":="] then return none
      raise ("cannot assign to " ++ a.describe ++ " here. Maybe you meant '==' instead of '='?")

/-- Star-named expressions separated by commas, with an optional comma after. -/
def starNamedExpressions : Nat → Parse (Option (List Node))
  | 0 => pure none
  | n + 1 => framed 2 do
    let some first ← starNamedExpression n | return none
    let rest ← framed 1 (moreStarNamed n)
    let _ ← op ","
    return some (first :: rest)

/-- More star-named expressions, each after a comma. -/
def moreStarNamed : Nat → Parse (List Node)
  | 0 => pure []
  | n + 1 => do
    let r ← attempt do
      if (← op ",").isNone then return none
      starNamedExpression n
    match r with
    | some e => return e :: (← moreStarNamed n)
    | none => return []

/-- A starred operand, or a named expression. -/
def starNamedExpression : Nat → Parse (Option Node)
  | 0 => pure none
  | n + 1 => framed 1 do
    let r ← attempt do
      if (← op "*").isNone then return none
      let some a ← binary n 0 | return none
      return some (Node.starred a)
    if r.isSome then return r
    namedExpression n

/-- A yield expression. -/
def yieldExpr : Nat → Parse (Option Node)
  | 0 => pure none
  | n + 1 => framed 1 do
    let r ← attempt do
      if (← kw "yield").isNone then return none
      if (← kw "from").isNone then return none
      let some a ← expression n | return none
      return some (Node.yieldExp true (some a))
    if r.isSome then return r
    attempt do
      if (← kw "yield").isNone then return none
      let a ← starExpressions n
      return some (Node.yieldExp false a)

/-- Star expressions separated by commas: a tuple when there is a comma. -/
def starExpressions : Nat → Parse (Option Node)
  | 0 => pure none
  | n + 1 => framed 1 do
    let some e ← starExpression n | return none
    let rest ← framed 1 (moreStarExpressions n)
    if !rest.isEmpty then
      let _ ← op ","
      return some (.tuple (e :: rest))
    if (← op ",").isSome then return some (.tuple [e])
    return some e

/-- More star expressions, each after a comma. -/
def moreStarExpressions : Nat → Parse (List Node)
  | 0 => pure []
  | n + 1 => do
    let r ← attempt <| framed 1 do
      if (← op ",").isNone then return none
      starExpression n
    match r with
    | some e => return e :: (← moreStarExpressions n)
    | none => return []

/-- A starred operand, or an expression. -/
def starExpression : Nat → Parse (Option Node)
  | 0 => pure none
  | n + 1 => framed 1 <| withMemo 9 do
    let r ← attempt do
      if (← op "*").isNone then return none
      let some a ← binary n 0 | return none
      return some (Node.starred a)
    if r.isSome then return r
    expression n

/-- A lambda. -/
def lambdef : Nat → Parse (Option Node)
  | 0 => pure none
  | n + 1 => framed 1 <| attempt do
    if (← kw "lambda").isNone then return none
    let params ← attempt (lambdaParams n)
    if (← op ":").isNone then return none
    let some body ← expression n | return none
    return some (Node.lambda (params.getD []) body)

/-- The parameters of a lambda, checked first for mistakes when diagnosing; their names
and default values. -/
def lambdaParams : Nat → Parse (Option (List Node))
  | 0 => pure none
  | n + 1 => framed 1 do
    if ← diagnosing then probeOnly (invalidLambdaParameters n)
    lambdaParameters n

/-- The parameters of a lambda: those before a `/`, those without and with defaults, and
the starred ones, each part optional but in this order; their names and default values. -/
def lambdaParameters : Nat → Parse (Option (List Node))
  | 0 => pure none
  | n + 1 => framed 1 do
    let r ← attempt do
      let some a ← slashNoDefault n | return none
      let b ← paramsNoDefault n
      let c ← paramsWithDefault n
      let d ← attempt (lambdaStarEtc n)
      return some (a ++ b ++ c ++ d.getD [])
    if r.isSome then return r
    let r ← attempt do
      let some a ← slashWithDefault n | return none
      let b ← paramsWithDefault n
      let c ← attempt (lambdaStarEtc n)
      return some (a ++ b ++ c.getD [])
    if r.isSome then return r
    let r ← attempt do
      let a ← paramsNoDefault n
      if a.isEmpty then return none
      let b ← paramsWithDefault n
      let c ← attempt (lambdaStarEtc n)
      return some (a ++ b ++ c.getD [])
    if r.isSome then return r
    let r ← attempt do
      let a ← paramsWithDefault n
      if a.isEmpty then return none
      let b ← attempt (lambdaStarEtc n)
      return some (a ++ b.getD [])
    if r.isSome then return r
    attempt (lambdaStarEtc n)

/-- Parameters without defaults and then `/`. -/
def slashNoDefault : Nat → Parse (Option (List Node))
  | 0 => pure none
  | n + 1 => framed 1 <| attempt do
    let a ← paramsNoDefault n
    if a.isEmpty then return none
    if (← op "/").isNone then return none
    let some _ ← paramEnd | return none
    return some a

/-- Parameters without defaults, some with defaults, and then `/`. -/
def slashWithDefault : Nat → Parse (Option (List Node))
  | 0 => pure none
  | n + 1 => framed 1 <| attempt do
    let a ← paramsNoDefault n
    let b ← paramsWithDefault n
    if b.isEmpty then return none
    if (← op "/").isNone then return none
    let some _ ← paramEnd | return none
    return some (a ++ b)

/-- The default value of a parameter. -/
def paramDefault : Nat → Parse (Option Node)
  | 0 => pure none
  | n + 1 => framed 1 do
    let r ← attempt do
      if (← op "=").isNone then return none
      expression n
    if r.isSome then return r
    if ← diagnosing then
      probeOnly do
        if (← op "=").isNone then return none
        if ← atOp [")", ","] then raise "expected default value expression"
        return none
    return none

/-- A lambda parameter with a default: its name and default value. -/
def paramWithDefault : Nat → Parse (Option (List Node))
  | 0 => pure none
  | n + 1 => framed 2 <| attempt do
    let some t ← ofKind .name | return none
    let some d ← paramDefault n | return none
    let some _ ← paramEnd | return none
    return some [.name t.text, d]

/-- A lambda parameter with or without a default: its name and default value. -/
def paramMaybeDefault : Nat → Parse (Option (List Node))
  | 0 => pure none
  | n + 1 => framed 2 <| attempt do
    let some t ← ofKind .name | return none
    let d ← attempt (paramDefault n)
    let some _ ← paramEnd | return none
    return some (.name t.text :: d.toList)

/-- Lambda parameters with defaults, as many as there are: their names and default
values, none when there is no such parameter. -/
def paramsWithDefault : Nat → Parse (List Node)
  | 0 => pure []
  | n + 1 => do
    let some p ← paramWithDefault n | return []
    return p ++ (← paramsWithDefault n)

/-- Lambda parameters with or without defaults, as many as there are: their names and
default values, none when there is no such parameter. -/
def paramsMaybeDefault : Nat → Parse (List Node)
  | 0 => pure []
  | n + 1 => do
    let some p ← paramMaybeDefault n | return []
    return p ++ (← paramsMaybeDefault n)

/-- The starred parameters of a lambda: `*` with a name or a comma, the parameters after
it, and `**`; their names and default values. -/
def lambdaStarEtc : Nat → Parse (Option (List Node))
  | 0 => pure none
  | n + 1 => framed 1 do
    if ← diagnosing then probeOnly (invalidLambdaStarEtc n)
    let r ← attempt do
      if (← op "*").isNone then return none
      let some a ← paramNoDefault | return none
      let b ← paramsMaybeDefault n
      let c ← lambdaKwds
      return some (a :: b ++ c.toList)
    if r.isSome then return r
    let r ← attempt do
      if (← op "*").isNone then return none
      if (← op ",").isNone then return none
      let b ← paramsMaybeDefault n
      if b.isEmpty then return none
      let c ← lambdaKwds
      return some (b ++ c.toList)
    if r.isSome then return r
    return (← lambdaKwds).map fun k => [k]

/-- A bare `*` with nothing named after it, a `*` parameter with a default, or a second
`*`. -/
def invalidLambdaStarEtc : Nat → Parse (Option Unit)
  | 0 => pure none
  | n + 1 => framed 1 do
    probeOnly do
      if (← op "*").isNone then return none
      if ← atOp [":"] then raise "named arguments must follow bare *"
      if (← op ",").isNone then return none
      if ← atOp [":", "**"] then raise "named arguments must follow bare *"
      return none
    probeOnly do
      if (← op "*").isNone then return none
      if (← ofKind .name).isNone then return none
      if ← atOp ["="] then raise "var-positional argument cannot have default value"
      return none
    attempt do
      if (← op "*").isNone then return none
      if (← paramNoDefault).isNone then
        if (← op ",").isNone then return none
      let _ ← paramsMaybeDefault n
      if (← op "*").isNone then return none
      if (← paramNoDefault).isSome || (← atOp [","]) then raise "* argument may appear only once"
      return none

/-- Lambda parameters out of order or in parentheses. -/
def invalidLambdaParameters : Nat → Parse (Option Unit)
  | 0 => pure none
  | n + 1 => framed 1 do
    probeOnly do
      let _ ← paramsNoDefault n
      let withDefaults ← framed 1 do
        if (← slashWithDefault n).isSome then return true
        return !(← paramsWithDefault n).isEmpty
      if !withDefaults then return none
      if (← paramNoDefault).isSome then raise "non-default argument follows default argument"
      return none
    probeOnly do
      let _ ← paramsNoDefault n
      if (← op "(").isNone then return none
      if (← ofKind .name).isNone then return none
      moreNames n
      let _ ← op ","
      if (← op ")").isNone then return none
      raise "Lambda expression parameters cannot be parenthesized"
    probeOnly do
      if (← op "/").isNone then return none
      if (← op ",").isSome then raise "at least one argument must precede /"
      return none
    probeOnly do
      if (← slashNoDefault n).isNone then
        if (← slashWithDefault n).isNone then return none
      let _ ← paramsMaybeDefault n
      if (← op "/").isSome then raise "/ may appear only once"
      return none
    probeOnly do
      if (← slashNoDefault n).isNone then
        let _ ← slashWithDefault n
      let _ ← paramsMaybeDefault n
      if (← op "*").isNone then return none
      if (← paramNoDefault).isNone then
        if (← op ",").isNone then return none
      let _ ← paramsMaybeDefault n
      if (← op "/").isSome then raise "/ must be ahead of *"
      return none
    attempt do
      if (← paramsMaybeDefault n).isEmpty then return none
      if (← op "/").isNone then return none
      if (← op "*").isSome then raise "expected comma between / and *"
      return none

/-- Names after the first, each after a comma. -/
def moreNames : Nat → Parse Unit
  | 0 => pure ()
  | n + 1 => do
    let r ← attempt do
      if (← op ",").isNone then return none
      ofKind .name
    if r.isSome then moreNames n

/-- One or more `for` clauses: of each, the target, the iterable and the conditions. -/
def forIfClauses : Nat → Parse (Option (List (List Node)))
  | 0 => pure none
  | n + 1 => framed 2 do
    let some c ← forIfClause n | return none
    return some (c :: (← moreForIfClauses n))

/-- More `for` clauses. -/
def moreForIfClauses : Nat → Parse (List (List Node))
  | 0 => pure []
  | n + 1 => do
    let some c ← forIfClause n | return []
    return c :: (← moreForIfClauses n)

/-- A `for` clause with its `if` conditions: the target, the iterable and the
conditions. Once `in` is read, the clause is committed. -/
def forIfClause : Nat → Parse (Option (List Node))
  | 0 => pure none
  | n + 1 => framed 1 do
    let m ← mark
    let _ ← kw "async"
    if (← kw "for").isSome then
      if let some t ← starTargets n then
        if (← kw "in").isSome then
          match ← disjunction n with
          | some i =>
            let conds ← framed 1 (ifConditions n)
            return some (t :: i :: conds)
          | none =>
            reset m
            return none
    reset m
    if ← diagnosing then
      let _ ← invalidForTarget n
    return none

/-- The `if` conditions of a `for` clause. -/
def ifConditions : Nat → Parse (List Node)
  | 0 => pure []
  | n + 1 => do
    let r ← attempt <| framed 1 do
      if (← kw "if").isNone then return none
      disjunction n
    match r with
    | some c => return c :: (← ifConditions n)
    | none => return []

/-- A `for` clause whose target may not be assigned to. -/
def invalidForTarget : Nat → Parse (Option Unit)
  | 0 => pure none
  | n + 1 => framed 1 <| attempt do
    let _ ← kw "async"
    if (← kw "for").isNone then return none
    let some a ← starExpressions n | return none
    match invalidTarget (n + 1) a with
    | some t => raise ("cannot assign to " ++ t.describe)
    | none => return none

/-- Targets separated by commas. -/
def starTargets : Nat → Parse (Option Node)
  | 0 => pure none
  | n + 1 => framed 1 do
    let some a ← starTarget n | return none
    if !(← atOp [","]) then return some a
    let rest ← moreStarTargets n
    let _ ← op ","
    return some (.tuple (a :: rest))

/-- More targets, each after a comma. -/
def moreStarTargets : Nat → Parse (List Node)
  | 0 => pure []
  | n + 1 => do
    let r ← attempt do
      if (← op ",").isNone then return none
      starTarget n
    match r with
    | some e => return e :: (← moreStarTargets n)
    | none => return []

/-- A target, possibly starred. -/
def starTarget : Nat → Parse (Option Node)
  | 0 => pure none
  | n + 1 => framed 1 <| withMemo 21 do
    let r ← attempt do
      if (← op "*").isNone then return none
      if ← atOp ["*"] then return none
      let some t ← starTarget n | return none
      return some (Node.starred t)
    if r.isSome then return r
    targetWithStarAtom n

/-- An attribute target, or a name or bracketed targets. -/
def targetWithStarAtom : Nat → Parse (Option Node)
  | 0 => pure none
  | n + 1 => framed 1 <| withMemo 22 do
    let r ← attempt do
      let some p ← tPrimary n | return none
      if (← op ".").isNone then return none
      let some t ← ofKind .name | return none
      if ← atOp ["(", "[", "."] then return none
      return some (Node.attribute p t.text)
    if r.isSome then return r
    let r ← attempt do
      let some p ← tPrimary n | return none
      if (← op "[").isNone then return none
      let some i ← slices n | return none
      if (← op "]").isNone then return none
      if ← atOp ["(", "[", "."] then return none
      return some (Node.subscript p i)
    if r.isSome then return r
    starAtom n

/-- The object of an attribute target: a primary that goes on. -/
def tPrimary : Nat → Parse (Option Node)
  | 0 => pure none
  | n + 1 => framed 2 <| withMemo 23 do
    let some a ← attempt (do
      let some a ← atom n | return none
      if ← atOp ["(", "[", "."] then return some a
      return none) | return none
    tPrimaryTail n a

/-- Attributes and calls of a target's object after `acc`, each followed by more. -/
def tPrimaryTail : Nat → Node → Parse (Option Node)
  | 0, acc => pure (some acc)
  | n + 1, acc => do
    let r ← attempt do
      if (← op ".").isNone then return none
      let some t ← ofKind .name | return none
      if !(← atOp ["(", "[", "."]) then return none
      return some (Node.attribute acc t.text)
    if let some e := r then return ← tPrimaryTail n e
    let s ← attempt do
      if (← op "[").isNone then return none
      let some i ← slices n | return none
      if (← op "]").isNone then return none
      if !(← atOp ["(", "[", "."]) then return none
      return some (Node.subscript acc i)
    if let some s := s then return ← tPrimaryTail n s
    let g ← attempt do
      let some g ← genexp n | return none
      if !(← atOp ["(", "[", "."]) then return none
      return some g
    if let some g := g then return ← tPrimaryTail n (.call acc [g] [])
    let c ← attempt do
      if (← op "(").isNone then return none
      let _ ← arguments n
      if (← op ")").isNone then return none
      if !(← atOp ["(", "[", "."]) then return none
      return some (Node.call acc [] [])
    if let some c := c then return ← tPrimaryTail n c
    return some acc

/-- A name, or targets in parentheses. -/
def starAtom : Nat → Parse (Option Node)
  | 0 => pure none
  | n + 1 => framed 1 do
    let t ← peek
    if t.kind == .name then
      reset ((← mark) + 1)
      return some (.name t.text)
    let r ← attempt do
      if (← op "(").isNone then return none
      let some a ← targetWithStarAtom n | return none
      if (← op ")").isNone then return none
      return some a
    if r.isSome then return r
    let r ← attempt do
      if (← op "(").isNone then return none
      let items ← attempt (starTargetsTupleSeq n)
      if (← op ")").isNone then return none
      return some (Node.tuple (items.getD []))
    if r.isSome then return r
    attempt do
      if (← op "[").isNone then return none
      let items ← attempt (starTargetsListSeq n)
      if (← op "]").isNone then return none
      return some (Node.list (items.getD []))

/-- Targets separated by commas, at least one comma. -/
def starTargetsTupleSeq : Nat → Parse (Option (List Node))
  | 0 => pure none
  | n + 1 => framed 1 do
    let some a ← starTarget n | return none
    let rest ← moreStarTargets n
    if rest.isEmpty then
      if (← op ",").isNone then return none
      return some [a]
    let _ ← op ","
    return some (a :: rest)

/-- Targets separated by commas, perhaps with a comma after the last. -/
def starTargetsListSeq : Nat → Parse (Option (List Node))
  | 0 => pure none
  | n + 1 => framed 1 do
    let some a ← starTarget n | return none
    let rest ← moreStarTargets n
    let _ ← op ","
    return some (a :: rest)

/-- What stands between the brackets of a subscript: one slice, or slices and starred
expressions separated by commas, which make a tuple. -/
def slices : Nat → Parse (Option Node)
  | 0 => pure none
  | n + 1 => framed 1 do
    let r ← attempt do
      let some a ← slice n | return none
      if ← atOp [","] then return none
      return some a
    if r.isSome then return r
    attempt <| framed 1 do
      let some a ← sliceItem n | return none
      let rest ← framed 1 (moreSliceItems n)
      let _ ← op ","
      return some (Node.tuple (a :: rest))

/-- A slice or a starred expression. -/
def sliceItem : Nat → Parse (Option Node)
  | 0 => pure none
  | n + 1 => framed 1 do
    let r ← attempt (slice n)
    if r.isSome then return r
    attempt (starredExpression n)

/-- More slices, each after a comma. -/
def moreSliceItems : Nat → Parse (List Node)
  | 0 => pure []
  | n + 1 => do
    let r ← attempt do
      if (← op ",").isNone then return none
      sliceItem n
    match r with
    | some e => return e :: (← moreSliceItems n)
    | none => return []

/-- A slice `start:stop:step`, each part optional, or an expression. -/
def slice : Nat → Parse (Option Node)
  | 0 => pure none
  | n + 1 => framed 1 do
    let r ← attempt do
      let lower ← attempt (expression n)
      if (← op ":").isNone then return none
      let upper ← attempt (expression n)
      let step ← framed 1 <| attempt do
        if (← op ":").isNone then return none
        return some (← attempt (expression n)).toList
      return some (Node.slice (lower.toList ++ upper.toList ++ step.getD []))
    if r.isSome then return r
    namedExpression n

/-- The arguments of a call, before its closing parenthesis. -/
def arguments : Nat → Parse (Option Node)
  | 0 => pure none
  | n + 1 => framed 1 <| withMemo 25 do
    let r ← attempt do
      let some a ← args n | return none
      let _ ← op ","
      if !(← atOp [")"]) then return none
      return some a
    if r.isSome then return r
    if ← diagnosing then invalidArguments n else return none

/-- Positional arguments, then keyword arguments; or keyword arguments alone. -/
def args : Nat → Parse (Option Node)
  | 0 => pure none
  | n + 1 => framed 1 do
    let r ← attempt do
      let items ← framed 1 do
        let some first ← argItem n | return none
        return some (first :: (← framed 1 (moreArgItems n)))
      let some items := items | return none
      let kws ← attempt <| framed 1 do
        if (← op ",").isNone then return none
        kwargs n
      return some (collectArgs items (kws.getD []))
    if r.isSome then return r
    attempt do
      let some k ← kwargs n | return none
      return some (collectArgs [] k)

/-- A positional argument: starred, or an expression not followed by `=`. -/
def argItem : Nat → Parse (Option Node)
  | 0 => pure none
  | n + 1 => framed 1 do
    let r ← attempt (starredExpression n)
    if r.isSome then return r
    attempt do
      let a ← framed 1 do
        let a ← attempt (assignmentExpression n)
        if a.isSome then pure a else attempt do
          let some e ← expression n | return none
          if ← ahead (op ":=") then return none
          return some e
      let some e := a | return none
      if ← atOp ["="] then return none
      return some e

/-- More positional arguments, each after a comma. -/
def moreArgItems : Nat → Parse (List Node)
  | 0 => pure []
  | n + 1 => do
    let r ← attempt do
      if (← op ",").isNone then return none
      argItem n
    match r with
    | some e => return e :: (← moreArgItems n)
    | none => return []

/-- `*` and an expression; `*` alone fails. -/
def starredExpression : Nat → Parse (Option Node)
  | 0 => pure none
  | n + 1 => framed 1 do
    if (← op "*").isNone then return none
    match ← expression n with
    | some e => return some (.starred e)
    | none => raise "Invalid star expression"

/-- Keyword and starred arguments, then keyword and double-starred ones. -/
def kwargs : Nat → Parse (Option (List Arg))
  | 0 => pure none
  | n + 1 => framed 1 do
    let r ← attempt do
      let some a ← kwargList n true | return none
      if (← op ",").isNone then return none
      let some b ← kwargList n false | return none
      return some (a ++ b)
    if r.isSome then return r
    let r ← attempt (kwargList n true)
    if r.isSome then return r
    attempt (kwargList n false)

/-- Keyword arguments separated by commas, with starred ones (`starred`) or
double-starred ones. -/
def kwargList : Nat → Bool → Parse (Option (List Arg))
  | 0, _ => pure none
  | n + 1, starred => framed 1 do
    let some first ← kwarg n starred | return none
    let rest ← framed 1 (moreKwargs n starred)
    return some (first :: rest)

/-- More keyword arguments, each after a comma. -/
def moreKwargs : Nat → Bool → Parse (List Arg)
  | 0, _ => pure []
  | n + 1, starred => do
    let r ← attempt do
      if (← op ",").isNone then return none
      kwarg n starred
    match r with
    | some e => return e :: (← moreKwargs n starred)
    | none => return []

/-- A keyword argument, or a starred or double-starred one. -/
def kwarg : Nat → Bool → Parse (Option Arg)
  | 0, _ => pure none
  | n + 1, starred => framed 1 do
    if ← diagnosing then
      let _ ← invalidKwarg n
    let r ← attempt do
      let some t ← ofKind .name | return none
      if (← op "=").isNone then return none
      let some v ← expression n | return none
      return some (Arg.keyword (some t.text) v)
    if r.isSome then return r
    if starred then
      let s ← attempt (starredExpression n)
      return s.map Arg.positional
    attempt do
      if (← op "**").isNone then return none
      let some v ← expression n | return none
      return some (Arg.keyword none v)

/-- A keyword argument whose keyword is not a name. -/
def invalidKwarg : Nat → Parse (Option Unit)
  | 0 => pure none
  | n + 1 => framed 1 do
    probeOnly do
      let t ← peek
      if !(t.kind == .keyword && (t.text == "True" || t.text == "False" || t.text == "None")) then
        return none
      reset ((← mark) + 1)
      if (← op "=").isNone then return none
      raise ("cannot assign to " ++ t.text)
    probeOnly do
      let some _ ← ofKind .name | return none
      if (← op "=").isNone then return none
      let some _ ← expression n | return none
      let some _ ← forIfClauses n | return none
      raise "invalid syntax. Maybe you meant '==' or ':=' instead of '='?"
    attempt do
      let named ← ahead do
        let some _ ← ofKind .name | return none
        op "="
      if named then return none
      let some _ ← expression n | return none
      if (← op "=").isNone then return none
      raise "expression cannot contain assignment, perhaps you meant \"==\"?"

/-- Arguments in an order or form a call does not allow. -/
def invalidArguments : Nat → Parse (Option Node)
  | 0 => pure none
  | n + 1 => framed 1 do
    probeOnly do
      let some _ ← args n | return none
      if (← op ",").isNone then return none
      if (← op "*").isNone then return none
      raise "iterable argument unpacking follows keyword argument unpacking"
    probeOnly do
      let some _ ← expression n | return none
      let some _ ← forIfClauses n | return none
      if (← op ",").isNone then return none
      let r ← attempt (args n)
      if r.isNone then
        probe do
          let some _ ← expression n | return none
          forIfClauses n
      raise "Generator expression must be parenthesized"
    probeOnly do
      let some _ ← ofKind .name | return none
      if (← op "=").isNone then return none
      let some _ ← expression n | return none
      let some _ ← forIfClauses n | return none
      raise "invalid syntax. Maybe you meant '==' or ':=' instead of '='?"
    probeOnly do
      let some a ← args n | return none
      let some _ ← forIfClauses n | return none
      match a with
      | .call _ positional _ =>
        if positional.length ≤ 1 then return none
        raise "Generator expression must be parenthesized"
      | _ => return none
    probeOnly do
      let some _ ← args n | return none
      if (← op ",").isNone then return none
      let some _ ← expression n | return none
      let some _ ← forIfClauses n | return none
      raise "Generator expression must be parenthesized"
    attempt do
      let some a ← args n | return none
      if (← op ",").isNone then return none
      let some _ ← args n | return none
      match a with
      | .call _ _ keywords =>
        if keywords.any (·.1.isNone) then raise "positional argument follows keyword argument unpacking"
        raise "positional argument follows keyword argument"
      | _ => return none

/-- A dictionary display. When its entries do not parse, they are checked for mistakes
in either pass, not only when diagnosing, so that such a mistake is reported even inside
an alternative that turns the diagnosing off. -/
def dict : Nat → Parse (Option Node)
  | 0 => pure none
  | n + 1 => framed 1 do
    let r ← attempt do
      if (← op "\x7b").isNone then return none
      let kvs ← doubleStarredKvpairs n
      if (← op "\x7d").isNone then return none
      return some (Node.dict (kvs.getD []))
    if r.isSome then return r
    attempt do
      if (← op "\x7b").isNone then return none
      let _ ← invalidDoubleStarredKvpairs n
      return none

/-- Dictionary entries separated by commas, with an optional comma after. -/
def doubleStarredKvpairs : Nat → Parse (Option (List (Option Node × Node)))
  | 0 => pure none
  | n + 1 => framed 2 do
    let some first ← doubleStarredKvpair n | return none
    let rest ← framed 1 (moreKvpairs n)
    let _ ← op ","
    return some (first :: rest)

/-- More dictionary entries, each after a comma. -/
def moreKvpairs : Nat → Parse (List (Option Node × Node))
  | 0 => pure []
  | n + 1 => do
    let r ← attempt do
      if (← op ",").isNone then return none
      doubleStarredKvpair n
    match r with
    | some e => return e :: (← moreKvpairs n)
    | none => return []

/-- `**` and an operand, or a key and a value. -/
def doubleStarredKvpair : Nat → Parse (Option (Option Node × Node))
  | 0 => pure none
  | n + 1 => framed 1 do
    let r ← attempt do
      if (← op "**").isNone then return none
      let some v ← binary n 0 | return none
      return some ((none : Option Node), v)
    if r.isSome then return r
    kvpair n

/-- A key, `:` and a value. -/
def kvpair : Nat → Parse (Option (Option Node × Node))
  | 0 => pure none
  | n + 1 => framed 1 <| attempt do
    let some k ← expression n | return none
    if (← op ":").isNone then return none
    let some v ← expression n | return none
    return some (some k, v)

/-- Dictionary entries with a mistake. -/
def invalidDoubleStarredKvpairs : Nat → Parse (Option Unit)
  | 0 => pure none
  | n + 1 => framed 1 do
    probe <| framed 1 do
      let some _ ← doubleStarredKvpair n | return none
      let _ ← framed 1 (moreKvpairs n)
      if (← op ",").isNone then return none
      invalidKvpair n
    probeOnly do
      let some _ ← expression n | return none
      if (← op ":").isNone then return none
      if (← op "*").isNone then return none
      let some _ ← binary n 0 | return none
      raise "cannot use a starred expression in a dictionary value"
    attempt do
      let some _ ← expression n | return none
      if (← op ":").isNone then return none
      if ← atOp ["\x7d", ","] then raise "expression expected after dictionary key and ':'"
      return none

/-- A dictionary entry with a mistake. -/
def invalidKvpair : Nat → Parse (Option Unit)
  | 0 => pure none
  | n + 1 => framed 1 do
    probeOnly do
      let some _ ← expression n | return none
      if ← atOp [":"] then return none
      raise "':' expected after dictionary key"
    probeOnly do
      let some _ ← expression n | return none
      if (← op ":").isNone then return none
      if (← op "*").isNone then return none
      let some _ ← binary n 0 | return none
      raise "cannot use a starred expression in a dictionary value"
    attempt do
      let some _ ← expression n | return none
      if (← op ":").isNone then return none
      if ← atOp ["\x7d", ","] then raise "expression expected after dictionary key and ':'"
      return none

/-- A list display. -/
def list : Nat → Parse (Option Node)
  | 0 => pure none
  | n + 1 => framed 1 do
    if (← op "[").isNone then return none
    let items ← attempt (starNamedExpressions n)
    if (← op "]").isNone then return none
    return some (.list (items.getD []))

/-- A list comprehension. -/
def listcomp : Nat → Parse (Option Node)
  | 0 => pure none
  | n + 1 => framed 1 do
    let r ← attempt do
      if (← op "[").isNone then return none
      let some a ← namedExpression n | return none
      let some cs ← forIfClauses n | return none
      if (← op "]").isNone then return none
      return some (Node.comprehension "ListComp" [a] cs)
    if r.isSome then return r
    if ← diagnosing then invalidComprehension n else return none

/-- A set display. -/
def setDisplay : Nat → Parse (Option Node)
  | 0 => pure none
  | n + 1 => framed 1 do
    if (← op "\x7b").isNone then return none
    let some items ← starNamedExpressions n | return none
    if (← op "\x7d").isNone then return none
    return some (.set items)

/-- A dictionary comprehension. -/
def dictcomp : Nat → Parse (Option Node)
  | 0 => pure none
  | n + 1 => framed 1 do
    let r ← attempt do
      if (← op "\x7b").isNone then return none
      let some (k, v) ← kvpair n | return none
      let some cs ← forIfClauses n | return none
      if (← op "\x7d").isNone then return none
      return some (Node.comprehension "DictComp" (k.toList ++ [v]) cs)
    if r.isSome then return r
    if ← diagnosing then
      attempt do
        if (← op "\x7b").isNone then return none
        if (← op "**").isNone then return none
        let some _ ← binary n 0 | return none
        let some _ ← forIfClauses n | return none
        if (← op "\x7d").isNone then return none
        raise "dict unpacking cannot be used in dict comprehension"
    else return none

/-- A set comprehension. -/
def setcomp : Nat → Parse (Option Node)
  | 0 => pure none
  | n + 1 => framed 1 do
    let r ← attempt do
      if (← op "\x7b").isNone then return none
      let some a ← namedExpression n | return none
      let some cs ← forIfClauses n | return none
      if (← op "\x7d").isNone then return none
      return some (Node.comprehension "SetComp" [a] cs)
    if r.isSome then return r
    if ← diagnosing then invalidComprehension n else return none

/-- A comprehension with a starred or unparenthesised target. -/
def invalidComprehension : Nat → Parse (Option Node)
  | 0 => pure none
  | n + 1 => framed 1 do
    probeOnly do
      if !(← framed 1 (atOp ["[", "(", "\x7b"])) then return none
      reset ((← mark) + 1)
      let some _ ← starredExpression n | return none
      let some _ ← forIfClauses n | return none
      raise "iterable unpacking cannot be used in comprehension"
    probeOnly do
      if !(← framed 1 (atOp ["[", "\x7b"])) then return none
      reset ((← mark) + 1)
      let some _ ← starNamedExpression n | return none
      if (← op ",").isNone then return none
      let some _ ← starNamedExpressions n | return none
      let some _ ← forIfClauses n | return none
      raise "did you forget parentheses around the comprehension target?"
    attempt do
      if !(← framed 1 (atOp ["[", "\x7b"])) then return none
      reset ((← mark) + 1)
      let some _ ← starNamedExpression n | return none
      if (← op ",").isNone then return none
      let some _ ← forIfClauses n | return none
      raise "did you forget parentheses around the comprehension target?"

/-- Parses the expression of a replacement field of a formatted string: it is parsed on
its own, in parentheses and with a line end after, as expressions separated by commas,
with room of its own; the parser's own failures begin with `f-string: `. -/
def formattedExpression : Nat → List Char → Except Refusal Node
  | 0, _ => .error .tooDeep
  | n + 1, expr =>
    let (toks, stop) := tokenize ("(" ++ String.ofList expr ++ ")\n")
    let src : Source := ⟨toks, stop⟩
    parseWith "f-string: " src (runOn (framed 1 (starExpressions n)) src)

end

/-- Parses a text as an expression: the tree, or why it does not parse. -/
def parse (text : String) : Except Refusal Node :=
  let (toks, stop) := tokenize text
  let src : Source := ⟨toks, stop⟩
  parseWith "" src (runOn (evalInput (parseFuel text)) src)

end AddonCatalog.Literal
