import AddonCatalog.Literal.Syntax
import AddonCatalog.Text.Quoted
import AddonCatalog.Text.CharacterNames
/-!
# String literals

A string token is read for its kind and checked for the failures reading it may meet:

* its prefix says whether it is raw (`r`), bytes (`b`) or formatted (`f`);
* bytes may hold ASCII characters only, and a `\x` escape in them needs two hex digits
  (`(value error) invalid \x escape at position N`, `N` the place of the backslash);
* in a text that is not raw, the escapes `\x`, `\u`, `\U` need two, four and eight hex
  digits, `\U` at most `10FFFF`, and `\N` the braced name of a character
  (`Text.isCharacterName`). The place of a failure is
  counted in the text with each character beyond ASCII written as a ten-character
  escape, as the decoder sees it (`(unicode error) 'unicodeescape' codec can't decode
  bytes in position A-B: …`);
* in a formatted string, a single `}` fails, and each replacement field `{…}` must be
  closed, hold an expression that is not blank and that has no backslash or `#`, and
  balance its brackets and quotes; a conversion after `!` is `s`, `r` or `a`, and a
  format spec after `:` may hold replacement fields of its own, one level deep. The
  expression itself is parsed by the function `compile` the checks are given, as soon
  as its end is found and before what follows it; its tree is the value of the field.

Adjacent strings join into one (`joinStrings`): bytes may not join text, and a formatted
part makes the whole a formatted string, whose parts are the fields and a constant for
each run of text.
-/

namespace AddonCatalog.Literal

/-- The kinds of string literals. -/
inductive StringKind where
  | text
  | bytes
  | formatted
deriving BEq, Inhabited, Repr

/-- The prefix, quote and body of a string token. -/
structure StringToken where
  raw : Bool
  bytes : Bool
  formatted : Bool
  body : List Char

/-- Splits a string token into its prefix flags and body. -/
def StringToken.ofText (text : String) : StringToken :=
  let cs := text.toList
  let pre := cs.takeWhile fun c => c != '\'' && c != '"'
  let rest := cs.drop pre.length
  let q := rest.headD '"'
  let triple := rest.length ≥ 6 && rest.take 3 == [q, q, q]
  let body := if triple then (rest.drop 3).take (rest.length - 6) else (rest.drop 1).take (rest.length - 2)
  let has (a b : Char) := pre.any fun c => c == a || c == b
  { raw := has 'r' 'R', bytes := has 'b' 'B', formatted := has 'f' 'F', body }

/-- Whether a character is a hex digit. -/
def isHex (c : Char) : Bool := ('0' ≤ c && c ≤ '9') || ('a' ≤ c && c ≤ 'f') || ('A' ≤ c && c ≤ 'F')

/-- The value of a hex digit. -/
def hexValue (c : Char) : Nat :=
  if c ≤ '9' then c.toNat - 48 else if c ≤ 'F' then c.toNat - 55 else c.toNat - 87

/-- The text as the escape decoder sees it: a character beyond ASCII becomes a ten
character escape, and a backslash before one, or at the end, becomes an escaped
backslash. -/
def escapedBuffer : List Char → List Char
  | [] => []
  | '\\' :: rest =>
    match rest with
    | [] => '\\' :: "u005c".toList
    | c :: _ =>
      if c.toNat ≥ 128 then '\\' :: "u005c".toList ++ escapedBuffer rest
      else '\\' :: escapedBuffer rest
  | c :: rest =>
    if c.toNat ≥ 128 then ("\\U" ++ Text.hexPadded 8 c.toNat).toList ++ escapedBuffer rest
    else c :: escapedBuffer rest

/-- A failure of the escape decoder for the characters from `start` to before `stop`. -/
def escapeFailure (start stop : Nat) (reason : String) : String :=
  "(unicode error) 'unicodeescape' codec can't decode bytes in position " ++ toString start ++
    "-" ++ toString (stop - 1) ++ ": " ++ reason

/-- Reads `count` hex digits at `i`; answers their value and the place after them, or the
place of the first character that is not one. -/
def hexRun (buf : Array Char) (i count : Nat) : Except Nat (Nat × Nat) :=
  let step (acc : Except Nat (Nat × Nat)) (k : Nat) : Except Nat (Nat × Nat) :=
    match acc with
    | .error e => .error e
    | .ok (v, _) =>
      match buf[i + k]? with
      | some c => if isHex c then .ok (16 * v + hexValue c, i + k + 1) else .error (i + k)
      | none => .error (i + k)
  (List.range count).foldl step (.ok (0, i))

/-- The first place from `i` on where a buffer holds `c`. -/
def findFrom (buf : Array Char) (c : Char) (i : Nat) : Option Nat :=
  go (buf.size - i) i
where
  /-- Looks on from place `j`; `fuel` is what is left of the buffer. -/
  go : Nat → Nat → Option Nat
    | 0, _ => none
    | fuel + 1, j => if buf[j]? == some c then some j else go fuel (j + 1)

/-- Checks the escapes of a decoder buffer from place `i`; `fuel` bounds the steps. -/
def checkEscapes (buf : Array Char) : Nat → Nat → Except String Unit
  | 0, _ => .ok ()
  | fuel + 1, i =>
    match buf[i]? with
    | none => .ok ()
    | some '\\' =>
      let start := i
      match buf[i + 1]? with
      | none => .error (escapeFailure start (i + 1) "\\ at end of string")
      | some c =>
        let hex (count : Nat) (reason : String) : Except String Unit :=
          match hexRun buf (i + 2) count with
          | .error bad => .error (escapeFailure start bad reason)
          | .ok (v, next) =>
            if v > 0x10FFFF then .error (escapeFailure start next "illegal Unicode character")
            else checkEscapes buf fuel next
        match c with
        | 'x' => hex 2 "truncated \\xXX escape"
        | 'u' => hex 4 "truncated \\uXXXX escape"
        | 'U' => hex 8 "truncated \\UXXXXXXXX escape"
        | 'N' =>
          let malformed := "malformed \\N character escape"
          match buf[i + 2]? with
          | none => .error (escapeFailure start (i + 2) malformed)
          | some '{' =>
            match findFrom buf '}' (i + 3) with
            | none => .error (escapeFailure start buf.size malformed)
            | some j =>
              if j == i + 3 then .error (escapeFailure start j malformed)
              else if !Text.isCharacterName (String.ofList (buf.extract (i + 3) j).toList) then
                .error (escapeFailure start (j + 1) "unknown Unicode character name")
              else checkEscapes buf fuel (j + 1)
          | some _ => .error (escapeFailure start (i + 2) malformed)
        | _ => checkEscapes buf fuel (i + 2)
    | some _ => checkEscapes buf fuel (i + 1)

/-- Checks the `\x` escapes of bytes from place `i`; `fuel` bounds the steps. -/
def checkByteEscapes (body : Array Char) : Nat → Nat → Except String Unit
  | 0, _ => .ok ()
  | fuel + 1, i =>
    match body[i]? with
    | none => .ok ()
    | some '\\' =>
      match body[i + 1]? with
      | some 'x' =>
        let ok := match body[i + 2]?, body[i + 3]? with
          | some a, some b => isHex a && isHex b
          | _, _ => false
        if ok then checkByteEscapes body fuel (i + 4)
        else .error ("(value error) invalid \\x escape at position " ++ toString i)
      | some _ => checkByteEscapes body fuel (i + 2)
      | none => .error "(value error) Trailing \\ in string"
    | some _ => checkByteEscapes body fuel (i + 1)

/-- What scanning a replacement field's expression finds: where it ends, or a failure. -/
def scanExpression : Nat → List Char → List Char → Option (Char × Nat) → Except String (List Char)
  | 0, _, rest, _ => .ok rest
  | fuel + 1, brackets, rest, quote =>
    match rest with
    | [] =>
      if quote.isSome then .error "f-string: unterminated string"
      else match brackets with
        | o :: _ => .error ("f-string: unmatched '" ++ String.singleton o ++ "'")
        | [] => .ok []
    | c :: more =>
      if c == '\\' then .error "f-string expression part cannot include a backslash"
      else match quote with
      | some (q, size) =>
        if c == q then
          if size == 3 then
            if more.take 2 == [q, q] then scanExpression fuel brackets (more.drop 2) none
            else scanExpression fuel brackets more quote
          else scanExpression fuel brackets more none
        else scanExpression fuel brackets more quote
      | none =>
        if c == '\'' || c == '"' then
          if more.take 2 == [c, c] then scanExpression fuel brackets (more.drop 2) (some (c, 3))
          else scanExpression fuel brackets more (some (c, 1))
        else if c == '(' || c == '[' || c == '{' then scanExpression fuel (c :: brackets) more none
        else if c == '#' then .error "f-string expression part cannot include '#'"
        else if brackets.isEmpty && (c == '!' || c == ':' || c == '}' || c == '=' || c == '<' || c == '>') then
          if more.head? == some '=' && c != ':' && c != '}' then scanExpression fuel brackets more.tail none
          else if c == '<' || c == '>' then scanExpression fuel brackets more none
          else .ok rest
        else if c == ')' || c == ']' || c == '}' then
          match brackets with
          | [] => .error ("f-string: unmatched '" ++ String.singleton c ++ "'")
          | o :: others =>
            if (o == '(' && c == ')') || (o == '[' && c == ']') || (o == '{' && c == '}') then
              scanExpression fuel others more none
            else .error ("f-string: closing parenthesis '" ++ String.singleton c ++
              "' does not match opening parenthesis '" ++ String.singleton o ++ "'")
        else scanExpression fuel brackets more none

/-- Whether a character is a blank an expression may consist of and still be empty. -/
def isExpressionBlank (c : Char) : Bool := c == ' ' || c == '\t' || c == '\n' || c == '\x0c'

/-- Whether a character is an ASCII blank. -/
def isAsciiSpace (c : Char) : Bool := isExpressionBlank c || c == '\r' || c == '\x0b'

/-- A run of literal text in front of the parts of a formatted string: one constant
stands for the whole run. -/
def literalThen : List Node → List Node
  | .constant .str :: parts => .constant .str :: parts
  | parts => .constant .str :: parts

/-- What follows, with a run of literal text in front of the parts read. -/
def afterLiteral (r : List Char × List Node) : List Char × List Node :=
  (r.1, literalThen r.2)

mutual

/-- Checks the literal parts and replacement fields of a formatted string at nesting
`level`, up to its end or, nested, up to the closing `\x7d`; answers what follows and
the parts read. -/
def checkFormatted (compile : List Char → Except Refusal Node) (raw : Bool) : Nat → Nat → List Char → Except Refusal (List Char × List Node)
  | 0, _, rest => .ok (rest, [])
  | fuel + 1, level, rest =>
    match rest with
    | [] => .ok ([], [])
    | '\\' :: c :: more =>
      if raw then checkFormattedAfter compile raw fuel level '\\' (c :: more)
      else if c == 'N' then
        match more with
        | '{' :: after => afterLiteral <$> checkFormatted compile raw fuel level ((after.dropWhile (· != '}')).drop 1)
        | _ :: after => afterLiteral <$> checkFormatted compile raw fuel level after
        | [] => .ok ([], [.constant .str])
      else checkFormattedAfter compile raw fuel level c more
    | c :: more => checkFormattedAfter compile raw fuel level c more

/-- Checks a formatted string after reading the character `c` of a literal part. -/
def checkFormattedAfter (compile : List Char → Except Refusal Node) (raw : Bool) : Nat → Nat → Char → List Char → Except Refusal (List Char × List Node)
  | 0, _, _, rest => .ok (rest, [])
  | fuel + 1, level, c, more =>
    if c == '{' || c == '}' then
      if level == 0 && more.head? == some c then afterLiteral <$> checkFormatted compile raw fuel level more.tail
      else if level == 0 && c == '}' then .error (.invalid "f-string: single '\x7d' is not allowed")
      else if c == '}' then .ok (c :: more, [])
      else do
        let (after, field) ← checkField compile raw fuel level more
        let (rest, parts) ← checkFormatted compile raw fuel level after
        pure (rest, field ++ parts)
    else afterLiteral <$> checkFormatted compile raw fuel level more

/-- Checks a replacement field after its `\x7b`; answers what follows its `\x7d` and the
nodes it makes: its value, after a constant for the text of its expression when it ends
in `=`. -/
def checkField (compile : List Char → Except Refusal Node) (raw : Bool) : Nat → Nat → List Char → Except Refusal (List Char × List Node)
  | 0, _, rest => .ok (rest, [])
  | fuel + 1, level, rest => do
    if level ≥ 2 then throw (.invalid "f-string: expressions nested too deeply")
    let after ← (scanExpression (rest.length + 1) [] rest none).mapError Refusal.invalid
    let expr := rest.take (rest.length - after.length)
    if after.isEmpty then throw (.invalid "f-string: expecting '\x7d'")
    if expr.all isExpressionBlank then
      match after.head? with
      | some c =>
        if c == '!' || c == ':' || c == '=' then
          throw (.invalid ("f-string: expression required before '" ++ String.singleton c ++ "'"))
      | none => pure ()
      throw (.invalid "f-string: empty expression not allowed")
    let value ← compile expr
    let echoed := after.head? == some '='
    let after := if echoed then after.tail.dropWhile isAsciiSpace else after
    if after.isEmpty then throw (.invalid "f-string: expecting '\x7d'")
    let after ← match after with
      | '!' :: c :: more =>
        if c == 's' || c == 'r' || c == 'a' then pure more
        else throw (.invalid "f-string: invalid conversion character: expected 's', 'r', or 'a'")
      | ['!'] => throw (.invalid "f-string: expecting '\x7d'")
      | _ => pure after
    let (after, spec) ← match after with
      | ':' :: more =>
        if more.isEmpty then throw (.invalid "f-string: expecting '\x7d'")
        else do
          let (after, parts) ← checkFormatted compile raw fuel (level + 1) more
          pure (after, some (Node.joinedStr parts))
      | _ => pure (after, none)
    match after with
    | '}' :: more => pure (more, (if echoed then [.constant .str] else []) ++ [.formatted value spec])
    | _ => throw (.invalid "f-string: expecting '\x7d'")

end

/-- The parts of a formatted string token: its replacement fields, and a constant for each
run of literal text. -/
def formattedParts (compile : List Char → Except Refusal Node) (t : StringToken) : Except Refusal (List Node) :=
  (checkFormatted compile t.raw (4 * t.body.length + 4) 0 t.body).map (·.2)

/-- Reads a string token: its kind, or the failure reading it meets. -/
def readString (compile : List Char → Except Refusal Node) (text : String) : Except Refusal StringKind :=
  let t := StringToken.ofText text
  if t.formatted then
    (formattedParts compile t).map fun _ => .formatted
  else if t.bytes then
    if t.body.any (·.toNat ≥ 128) then .error (.invalid "bytes can only contain ASCII literal characters")
    else if t.raw then .ok .bytes
    else ((checkByteEscapes t.body.toArray (t.body.length + 1) 0).map fun _ => .bytes).mapError Refusal.invalid
  else if t.raw || !t.body.contains '\\' then .ok .text
  else
    let buf := (escapedBuffer t.body).toArray
    ((checkEscapes buf (buf.size + 1) 0).map fun _ => .text).mapError Refusal.invalid

/-- What joining string tokens has found so far: the kind of the first, whether one is
formatted, and the parts of the formatted string they make. -/
structure Joined where
  kind : Option StringKind := none
  formatted : Bool := false
  parts : Array Node := #[]

/-- Joins adjacent string tokens into one constant or formatted string. Each token is
read in turn: a plain or bytes string is decoded, then checked against the kind of the
tokens before it, and only then is a formatted string's text checked. -/
def joinStrings (compile : List Char → Except Refusal Node) (texts : List String) : Except Refusal Node := do
  let step (acc : Joined) (text : String) : Except Refusal Joined := do
    let t := StringToken.ofText text
    let k ← if t.formatted then pure .formatted else readString compile text
    let isBytes := k == .bytes
    match acc.kind with
    | some prev => if (prev == .bytes) != isBytes then throw (.invalid "cannot mix bytes and nonbytes literals")
    | none => pure ()
    let parts ← if t.formatted then formattedParts compile t
      else pure (if t.body.isEmpty then [] else [.constant .str])
    pure { kind := some k, formatted := acc.formatted || k == .formatted, parts := acc.parts ++ parts.toArray }
  let joined ← texts.foldlM step {}
  if joined.formatted then pure (.joinedStr joined.parts.toList)
  else if joined.kind == some .bytes then pure (.constant .bytes)
  else pure (.constant .str)

end AddonCatalog.Literal
