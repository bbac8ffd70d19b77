import AddonCatalog.Text.Identifier
import AddonCatalog.Text.Printable
import AddonCatalog.Text.Quoted
/-!
# Reading the tokens of an expression

The parameters of a handler tag are an expression, read token by token:

* names (a letter, `_` or any character beyond ASCII to start, then those and digits;
  a name with a character that may not be in a name fails with `invalid character`);
  the reserved words are keywords;
* numbers: decimal, with fraction, exponent and `j`, or `0x`, `0o`, `0b` with their
  digits; `_` may stand between two digits. A number run into a letter or a digit it may
  not have fails (`invalid decimal literal`, `invalid digit '8' in octal literal`, …),
  except before the words `and`, `else`, `for`, `if`, `in`, `is`, `not` and `or`;
  `0` may not lead a decimal whole number other than zero;
* strings, with a prefix of `r`, `u`, `b`, `f` in the allowed combinations, quoted
  once or thrice; a string that meets the end of the text, or the end of the line when
  quoted once, fails as unterminated;
* operators of up to three characters, and brackets, which are counted: a closing bracket
  that closes nothing, or that does not match the opening one, fails at once;
* line breaks outside brackets end a logical line, and the indentation of the next one
  opens or closes blocks.

Blanks, form feeds and comments are skipped, and a backslash before a line break joins
the lines. Reading stops at the end of the text or at the first failure (`Stop`). Some
failures are only reported when the parser asks for the token that failed (`Stop.onRead`):
the end of the text inside brackets, a backslash not before a line break, and an
indentation that matches no open block.
-/

namespace AddonCatalog.Literal

/-- The kinds of tokens. -/
inductive TokenKind where
  | name
  | keyword
  | number
  | string
  | op
  | newline
  | indent
  | dedent
  | endmarker
deriving BEq, Inhabited, Repr

/-- A token: its kind, its text, the number of brackets open after it and its line.
`atEnd` tells whether reading it looked past the end of the text: a name, number or
operator that the text ends with (the operator `...` apart, which needs no look beyond
it), or an empty string quoted once, whose end is read to tell it from a string quoted
thrice. -/
structure Token where
  kind : TokenKind
  text : String
  level : Nat
  line : Nat
  atEnd : Bool := false
deriving Inhabited, Repr

/-- Why reading stopped. -/
inductive Stop where
  /-- At the end of the text; the last token is the end marker. -/
  | finished
  /-- A failure reported as soon as reading reaches it. -/
  | failed (message : String)
  /-- A failure reported only when the parser asks for the token; `unclosed` is the
  failure of the innermost open bracket and its line, when there is one. -/
  | onRead (message : String) (unclosed : Option (String × Nat))
deriving Inhabited, Repr

/-- The reserved words. -/
def keywords : List String :=
  ["False", "None", "True", "and", "as", "assert", "async", "await", "break", "class",
    "continue", "def", "del", "elif", "else", "except", "finally", "for", "from", "global",
    "if", "import", "in", "is", "lambda", "nonlocal", "not", "or", "pass", "raise",
    "return", "try", "while", "with", "yield"]

/-- The operators of two characters. -/
def twoCharOps : List String :=
  ["!=", "%=", "&=", "**", "*=", "+=", "-=", "->", "//", "/=", ":=", "<<", "<=", "<>",
    "==", ">=", ">>", "@=", "^=", "|="]

/-- The operators of three characters. -/
def threeCharOps : List String := ["**=", "//=", "<<=", ">>="]

/-- The deepest nesting of brackets. -/
def maxLevel : Nat := 200

/-- Whether a character is an ASCII digit. -/
def isAsciiDigit (c : Char) : Bool := '0' ≤ c && c ≤ '9'

/-- Whether a character is a hexadecimal digit. -/
def isHexDigit (c : Char) : Bool :=
  isAsciiDigit c || ('a' ≤ c && c ≤ 'f') || ('A' ≤ c && c ≤ 'F')

/-- Whether a character may start a name as far as reading goes: an ASCII letter, `_`,
or any character beyond ASCII, which is checked afterwards. -/
def mayStartName (c : Char) : Bool :=
  ('a' ≤ c && c ≤ 'z') || ('A' ≤ c && c ≤ 'Z') || c == '_' || c.toNat ≥ 128

/-- Whether a character may go on with a name as far as reading goes. -/
def mayContinueName (c : Char) : Bool := mayStartName c || isAsciiDigit c

/-- The four hex digits (or more) of a code point, in upper case. -/
def codeHex (c : Char) : String := (Text.hexPadded 4 c.toNat).toUpper

/-- The failure of a character that may not be in a name. -/
def badCharacter (c : Char) : String :=
  if Text.isPrintable c then "invalid character '" ++ String.singleton c ++ "' (U+" ++ codeHex c ++ ")"
  else "invalid non-printable character U+" ++ codeHex c

/-- The first character of a name that may not be there, if any. -/
def badNameChar? (cs : List Char) : Option Char :=
  match cs with
  | [] => none
  | c :: rest => if Text.isNameStart c then rest.find? (!Text.isNameContinue ·) else some c

/-- The state of reading. -/
structure Lexer where
  src : Array Char
  pos : Nat := 0
  line : Nat := 1
  /-- The open brackets, innermost first, with their lines. -/
  brackets : List (Char × Nat) := []
  /-- The open blocks: columns counting a tab as up to eight and as one, innermost first. -/
  blocks : List (Nat × Nat) := [(0, 0)]
  atLineStart : Bool := true
  /-- Blocks to open (positive) or close (negative) before the next token. -/
  pending : Int := 0
  /-- Whether the current line holds nothing but blanks and a comment. -/
  blank : Bool := false
  tokens : Array Token := #[]

namespace Lexer

/-- The character at an offset from the current one. -/
def at? (l : Lexer) (k : Nat := 0) : Option Char := l.src[l.pos + k]?

/-- The character at an offset, or a NUL for the end. -/
def peekAt (l : Lexer) (k : Nat := 0) : Char := (l.at? k).getD '\x00'

/-- Whether the offset is past the end. -/
def endsAt (l : Lexer) (k : Nat := 0) : Bool := l.pos + k ≥ l.src.size

/-- How many characters from the current position on satisfy `p`. -/
def runWhile (l : Lexer) (p : Char → Bool) : Nat :=
  go (l.src.size - l.pos) 0
where
  /-- Counts on from offset `k`; `fuel` is what is left of the text. -/
  go : Nat → Nat → Nat
    | 0, k => k
    | fuel + 1, k =>
      match l.at? k with
      | some c => if p c then go fuel (k + 1) else k
      | none => k

/-- The text from `start` to the current position. -/
def textFrom (l : Lexer) (start : Nat) : String := String.ofList (l.src.extract start l.pos).toList

/-- Whether reading a token of this kind and text, ending at the current position, looked
past the end of the text. -/
def looksPastEnd (l : Lexer) (kind : TokenKind) (text : String) : Bool :=
  l.pos == l.src.size &&
    match kind with
    | .name | .keyword | .number => true
    | .op => text != "..."
    | .string => ["''", "\"\""].contains (String.ofList (text.toList.dropWhile Char.isAlpha))
    | _ => false

/-- Adds a token with the given text, ending at the current position. -/
def emitText (l : Lexer) (kind : TokenKind) (text : String) : Lexer :=
  { l with tokens := l.tokens.push ⟨kind, text, l.brackets.length, l.line, l.looksPastEnd kind text⟩ }

/-- Adds a token that ends at the current position. -/
def emit (l : Lexer) (kind : TokenKind) (start : Nat) : Lexer := l.emitText kind (l.textFrom start)

/-- The failure of the innermost open bracket, and its line. -/
def unclosed (l : Lexer) : Option (String × Nat) :=
  l.brackets.head?.map fun (b, line) => ("'" ++ String.singleton b ++ "' was never closed", line)

/-- The failure of reaching the end of the text inside brackets, or outside. -/
def endInside (l : Lexer) : Stop :=
  match l.unclosed with
  | some (m, line) => .onRead m (some (m, line))
  | none => .onRead "unexpected EOF while parsing" none

end Lexer

namespace Lexer

/-- Skips the digits and single underscores of a decimal run from the current position;
an underscore not followed by a digit fails. Answers the reader at the first character
that is neither. -/
def decimalTail : Nat → Lexer → Except Stop Lexer
  | 0, l => .ok l
  | fuel + 1, l =>
    if isAsciiDigit (l.peekAt) then decimalTail fuel { l with pos := l.pos + 1 }
    else if l.peekAt == '_' then
      if isAsciiDigit (l.peekAt 1) then decimalTail fuel { l with pos := l.pos + 2 }
      else .error (.failed "invalid decimal literal")
    else .ok l

/-- Whether the text at the current position is `word` followed by no name character. -/
def wordAhead (l : Lexer) (word : String) : Bool :=
  let cs := word.toList
  (cs.zipIdx.all fun (c, i) => l.at? i == some c) && !mayContinueName (l.peekAt cs.length)

/-- Checks what follows a number: an ASCII name character fails, unless a word that may
follow a number starts there. Other characters end the number and start a token of their
own. -/
def endOfNumber (l : Lexer) (kind : String) : Except Stop Lexer :=
  let c := l.peekAt
  let fine := match c with
    | 'a' => l.wordAhead "and"
    | 'e' => l.wordAhead "else"
    | 'f' => l.wordAhead "for"
    | 'o' => l.wordAhead "or"
    | 'n' => l.wordAhead "not"
    | 'i' => l.peekAt 1 == 'f' || l.peekAt 1 == 'n' || l.peekAt 1 == 's'
    | _ => false
  if !l.endsAt && !fine && mayContinueName c && c.toNat < 128 then .error (.failed ("invalid " ++ kind ++ " literal"))
  else .ok l

/-- Reads an imaginary suffix, or checks the end of a decimal number. -/
def imaginaryOrEnd (l : Lexer) : Except Stop Lexer :=
  if l.peekAt == 'j' || l.peekAt == 'J' then endOfNumber { l with pos := l.pos + 1 } "imaginary"
  else endOfNumber l "decimal"

/-- Reads an exponent at the current `e`, then the rest of a decimal number. -/
def exponent (l : Lexer) : Except Stop Lexer :=
  let sign := l.peekAt 1 == '+' || l.peekAt 1 == '-'
  let digitAt := if sign then 2 else 1
  if isAsciiDigit (l.peekAt digitAt) then do
    let l ← decimalTail (l.src.size + 1) { l with pos := l.pos + digitAt }
    imaginaryOrEnd l
  else if sign then .error (.failed "invalid decimal literal")
  else do
    -- the `e` is not an exponent: it must be a word that may follow a number
    let _ ← endOfNumber l "decimal"
    .ok l

/-- Reads a fraction after the point, an exponent and an imaginary suffix. -/
def fraction (l : Lexer) : Except Stop Lexer := do
  let l ← if isAsciiDigit l.peekAt then decimalTail (l.src.size + 1) l else pure l
  if l.peekAt == 'e' || l.peekAt == 'E' then exponent l else imaginaryOrEnd l

/-- Reads the digits of a number in base 16, 8 or 2 after its prefix: groups of digits
separated by single underscores. A character that is no digit of the base where one must
be fails; `bad` names a decimal digit the base does not have. -/
def radixDigits (isDigitOf : Char → Bool) (bad : Char → Option String) (name : String) :
    Nat → Lexer → Except Stop Lexer
  | 0, l => .ok l
  | fuel + 1, l =>
    let l := if l.peekAt == '_' then { l with pos := l.pos + 1 } else l
    if !isDigitOf l.peekAt then
      .error (.failed ((bad l.peekAt).getD ("invalid " ++ name ++ " literal")))
    else
      let l := { l with pos := l.pos + l.runWhile isDigitOf }
      if l.peekAt == '_' then radixDigits isDigitOf bad name fuel l
      else match bad l.peekAt with
        | some m => .error (.failed m)
        | none => endOfNumber l name

/-- Reads a number that starts with `0`, the reader just after the `0`. -/
def zeroNumber (l : Lexer) : Except Stop Lexer :=
  let c := l.peekAt
  if c == 'x' || c == 'X' then
    radixDigits isHexDigit (fun _ => none) "hexadecimal" (l.src.size + 1) { l with pos := l.pos + 1 }
  else if c == 'o' || c == 'O' then
    radixDigits (fun d => '0' ≤ d && d ≤ '7')
      (fun d => if isAsciiDigit d then some ("invalid digit '" ++ String.singleton d ++ "' in octal literal") else none)
      "octal" (l.src.size + 1) { l with pos := l.pos + 1 }
  else if c == 'b' || c == 'B' then
    radixDigits (fun d => d == '0' || d == '1')
      (fun d => if isAsciiDigit d then some ("invalid digit '" ++ String.singleton d ++ "' in binary literal") else none)
      "binary" (l.src.size + 1) { l with pos := l.pos + 1 }
  else do
    -- zeros, each possibly after one underscore
    let rec zeros : Nat → Lexer → Except Stop Lexer
      | 0, l => .ok l
      | fuel + 1, l =>
        if l.peekAt == '_' then
          if isAsciiDigit (l.peekAt 1) then
            if l.peekAt 1 == '0' then zeros fuel { l with pos := l.pos + 2 }
            else .ok { l with pos := l.pos + 1 }
          else .error (.failed "invalid decimal literal")
        else if l.peekAt == '0' then zeros fuel { l with pos := l.pos + 1 }
        else .ok l
    let l ← zeros (l.src.size + 1) l
    let nonzero := isAsciiDigit l.peekAt
    let l ← if nonzero then decimalTail (l.src.size + 1) l else pure l
    if l.peekAt == '.' then fraction { l with pos := l.pos + 1 }
    else if l.peekAt == 'e' || l.peekAt == 'E' then exponent l
    else if l.peekAt == 'j' || l.peekAt == 'J' then endOfNumber { l with pos := l.pos + 1 } "imaginary"
    else if nonzero then
      .error (.failed "leading zeros in decimal integer literals are not permitted; use an 0o prefix for octal integers")
    else endOfNumber l "decimal"

/-- Reads a number from its first digit. -/
def number (l : Lexer) : Except Stop Lexer :=
  if l.peekAt == '0' then zeroNumber { l with pos := l.pos + 1 }
  else do
    let l ← decimalTail (l.src.size + 1) l
    if l.peekAt == '.' then fraction { l with pos := l.pos + 1 }
    else if l.peekAt == 'e' || l.peekAt == 'E' then exponent l
    else imaginaryOrEnd l

/-- Reads the body of a string after its opening quotes, up to and with its closing
quotes. -/
def stringBody (quote : Char) (triple : Bool) : Nat → Lexer → Nat → Except Stop Lexer
  | 0, l, _ => .ok l
  | fuel + 1, l, closing =>
    if closing == (if triple then 3 else 1) then .ok l
    else match l.at? with
      | none =>
        if triple then
          .error (.failed ("unterminated triple-quoted string literal (detected at line " ++ toString l.line ++ ")"))
        else .error (.failed ("unterminated string literal (detected at line " ++ toString l.line ++ ")"))
      | some c =>
        if c == '\n' && !triple then
          .error (.failed ("unterminated string literal (detected at line " ++ toString l.line ++ ")"))
        else if c == quote then stringBody quote triple fuel { l with pos := l.pos + 1 } (closing + 1)
        else if c == '\\' then
          let line := if l.at? 1 == some '\n' && !l.endsAt 2 then l.line + 1 else l.line
          stringBody quote triple fuel { l with pos := min (l.pos + 2) l.src.size, line } 0
        else
          let line := if c == '\n' && !l.endsAt 1 then l.line + 1 else l.line
          stringBody quote triple fuel { l with pos := l.pos + 1, line } 0

/-- Reads a string from its opening quote. -/
def string (l : Lexer) : Except Stop Lexer :=
  let q := l.peekAt
  if l.peekAt 1 == q && l.peekAt 2 == q then stringBody q true (l.src.size + 1) { l with pos := l.pos + 3 } 0
  else if l.peekAt 1 == q then .ok { l with pos := l.pos + 2 }
  else stringBody q false (l.src.size + 1) { l with pos := l.pos + 1 } 0

/-- The length of the string prefix at the current position when a quote follows it. -/
def prefixLength (l : Lexer) : Option Nat :=
  let rec go : Nat → Nat → Bool → Bool → Bool → Bool → Option Nat
    | 0, _, _, _, _, _ => none
    | fuel + 1, k, b, r, u, f =>
      let c := l.peekAt k
      if c == '\'' || c == '"' then (if k > 0 then some k else none)
      else if !(b || u || f) && (c == 'b' || c == 'B') then go fuel (k + 1) true r u f
      else if !(b || u || r || f) && (c == 'u' || c == 'U') then go fuel (k + 1) b r true f
      else if !(r || u) && (c == 'r' || c == 'R') then go fuel (k + 1) b true u f
      else if !(f || b || u) && (c == 'f' || c == 'F') then go fuel (k + 1) b r u true
      else none
  go 4 0 false false false false

/-- Reads an operator or a bracket. -/
def operator (l : Lexer) : Except Stop Lexer :=
  let start := l.pos
  let c := l.peekAt
  let two := String.ofList [c, l.peekAt 1]
  let three := String.ofList [c, l.peekAt 1, l.peekAt 2]
  if !l.endsAt 1 && twoCharOps.contains two then
    if !l.endsAt 2 && threeCharOps.contains three then .ok ({ l with pos := l.pos + 3 }.emit .op start)
    else .ok ({ l with pos := l.pos + 2 }.emit .op start)
  else
    let l := { l with pos := l.pos + 1 }
    if c == '(' || c == '[' || c == '{' then
      if l.brackets.length ≥ maxLevel then .error (.failed "too many nested parentheses")
      else .ok ({ l with brackets := (c, l.line) :: l.brackets }.emit .op start)
    else if c == ')' || c == ']' || c == '}' then
      match l.brackets with
      | [] => .error (.failed ("unmatched '" ++ String.singleton c ++ "'"))
      | (o, line) :: rest =>
        if (o == '(' && c == ')') || (o == '[' && c == ']') || (o == '{' && c == '}') then
          .ok ({ l with brackets := rest }.emit .op start)
        else
          let msg := "closing parenthesis '" ++ String.singleton c ++
            "' does not match opening parenthesis '" ++ String.singleton o ++ "'"
          .error (.failed (if line != l.line then msg ++ " on line " ++ toString line else msg))
    else if !Text.isPrintable c then .error (.failed ("invalid non-printable character U+" ++ codeHex c))
    else .ok (l.emit .op start)

/-- Reads a name, or a string after its prefix. -/
def nameOrString (l : Lexer) : Except Stop Lexer :=
  let start := l.pos
  match l.prefixLength with
  | some k => do
    let l' ← string { l with pos := l.pos + k }
    .ok (l'.emit .string start)
  | none =>
    let run := (l.src.extract l.pos (l.pos + l.runWhile mayContinueName)).toList
    let l := { l with pos := l.pos + run.length }
    match badNameChar? run with
    | some c => .error (.failed (badCharacter c))
    | none =>
      let text := String.ofList run
      .ok (l.emitText (if keywords.contains text then .keyword else .name) text)

/-- Skips blanks and form feeds. -/
def skipBlanks (l : Lexer) : Lexer :=
  { l with pos := l.pos + l.runWhile fun c => c == ' ' || c == '\t' || c == '\x0c' }

/-- Skips a comment up to the line break. -/
def skipComment (l : Lexer) : Lexer :=
  if l.peekAt == '#' then { l with pos := l.pos + l.runWhile (· != '\n') }
  else l

/-- Joins the next line after a backslash, the reader at the backslash. -/
def continuation (l : Lexer) : Except Stop Lexer :=
  if l.peekAt 1 != '\n' || l.endsAt 1 then
    .error (.onRead "unexpected character after line continuation character" l.unclosed)
  else
    let l := { l with pos := l.pos + 2, line := l.line + 1 }
    if l.endsAt then .error l.endInside else .ok l

/-- Measures the indentation at the start of a line and records the blocks it opens or
closes. Answers the reader after the indentation.

When the indentation runs on over a backslash, the column of the first backslash is the
indentation, in both measures; a backslash in the first column does not count, and the
indentation is then measured as if the lines were one. -/
def indentation (l : Lexer) : Except Stop Lexer := do
  let rec measure : Nat → Lexer → Nat → Nat → Nat → Except Stop (Lexer × Nat × Nat × Nat)
    | 0, l, col, alt, cont => .ok (l, col, alt, cont)
    | fuel + 1, l, col, alt, cont =>
      match l.at? with
      | some ' ' => measure fuel { l with pos := l.pos + 1 } (col + 1) (alt + 1) cont
      | some '\t' => measure fuel { l with pos := l.pos + 1 } ((col / 8 + 1) * 8) (alt + 1) cont
      | some '\x0c' => measure fuel { l with pos := l.pos + 1 } 0 0 cont
      | some '\\' => do
        let l ← continuation l
        measure fuel l col alt (if cont != 0 then cont else col)
      | _ => .ok (l, col, alt, cont)
  let (l, col, alt, cont) ← measure (l.src.size + 1) { l with atLineStart := false } 0 0 0
  let (col, alt) := if cont != 0 then (cont, cont) else (col, alt)
  let blank := l.peekAt == '#' || l.peekAt == '\n'
  let l := { l with blank }
  if blank || !l.brackets.isEmpty then return l
  match l.blocks with
  | [] => return l
  | (top, topAlt) :: _ =>
    if col == top then
      if alt != topAlt then throw (.onRead "inconsistent use of tabs and spaces in indentation" none)
      return l
    else if col > top then
      if alt ≤ topAlt then throw (.onRead "inconsistent use of tabs and spaces in indentation" none)
      return { l with pending := l.pending + 1, blocks := (col, alt) :: l.blocks }
    else
      let kept := l.blocks.dropWhile fun (c, _) => col < c
      let closed := l.blocks.length - kept.length
      match kept with
      | (c, a) :: _ =>
        if c != col then throw (.onRead "unindent does not match any outer indentation level" none)
        if a != alt then throw (.onRead "inconsistent use of tabs and spaces in indentation" none)
        return { l with pending := l.pending - closed, blocks := kept }
      | [] => throw (.onRead "unindent does not match any outer indentation level" none)

/-- Reads the next token, or stops. -/
def next (l : Lexer) : Except Stop (Lexer × Bool) := do
  let l ← if l.atLineStart then indentation l else pure l
  if l.pending > 0 then return ({ l.emitText .indent "" with pending := l.pending - 1 }, false)
  if l.pending < 0 then return ({ l.emitText .dedent "" with pending := l.pending + 1 }, false)
  let l := (skipBlanks l).skipComment
  match l.at? with
  | none =>
    if !l.brackets.isEmpty then throw l.endInside
    return (l.emitText .endmarker "", true)
  | some c =>
    if c == '\n' then
      let l' := { l with pos := l.pos + 1, line := l.line + 1, atLineStart := true }
      if l.blank || !l.brackets.isEmpty then return (l', false)
      return ({ l.emitText .newline "" with pos := l.pos + 1, line := l.line + 1, atLineStart := true }, false)
    if mayStartName c then return (← nameOrString l, false)
    if c == '.' then
      if isAsciiDigit (l.peekAt 1) then
        let start := l.pos
        return ((← fraction { l with pos := l.pos + 1 }).emit .number start, false)
      if l.peekAt 1 == '.' && l.peekAt 2 == '.' then
        return ({ l with pos := l.pos + 3 }.emit .op l.pos, false)
      return ({ l with pos := l.pos + 1 }.emit .op l.pos, false)
    if isAsciiDigit c then
      let start := l.pos
      return ((← number l).emit .number start, false)
    if c == '\'' || c == '"' then
      let start := l.pos
      return ((← string l).emit .string start, false)
    if c == '\\' then return (← continuation l, false)
    return (← operator l, false)

/-- Reads tokens until the end or a stop, after the tokens `read`; `fuel` bounds the
tokens. Each step starts from a reader that holds no tokens and adds what it read to
`read`, so the tokens read so far are never shared with the step that reads more. -/
def run : Nat → Array Token → Lexer → Array Token × Stop
  | 0, read, _ => (read, .finished)
  | fuel + 1, read, l =>
    match l.next with
    | .error s => (read, s)
    | .ok (l, done) =>
      let read := read ++ l.tokens
      if done then (read, .finished) else run fuel read { l with tokens := #[] }

end Lexer

/-- The tokens of a text and why reading stopped; carriage returns count as line breaks. -/
def tokenize (text : String) : Array Token × Stop :=
  let cs := (text.replace "\r\n" "\n").replace "\r" "\n"
  let src := cs.toList.toArray
  Lexer.run (3 * src.size + 10) #[] { src }

end AddonCatalog.Literal
