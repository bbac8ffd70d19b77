import AddonCatalog.Json.Value
import AddonCatalog.Number.FloatText
import AddonCatalog.Number.DigitLimit
/-!
# Reading JSON text

The reader accepts the JSON grammar with three more literals, `NaN`, `Infinity` and
`-Infinity`. Blanks between tokens are space, tab, line feed and carriage return; a
byte order mark is not a blank. A string may not hold a raw control character, and an
escape `\u` of a surrogate must pair a high with a low surrogate. A number with a
fraction or an exponent is a double, rounded correctly; any other number is a whole
number of any size. A repeated key keeps its first place and its last value. After
the value only blanks may follow.

Documents such as settings files and fetched bodies are read more leniently in one
way and more strictly in two others: an escape of a surrogate that pairs with nothing
stands for itself, which a text cannot hold, so it is read as the replacement
character `U+FFFD`; a whole number may have at most `Number.maxDigits` digits; and a
container may be opened inside at most `documentRoom - 1` others. The reader stops at
the first container too deep (`ReadStop.tooDeep`), before anything after it.

* `Json.parse?` reads a whole text;
* `Json.readDocument` and `Json.parseDocument?` read a whole document;
* `Json.nesting` measures how deeply the values of a text are nested.
-/

namespace AddonCatalog.Json

/-- Drops the blanks that may stand between JSON tokens. -/
def skipSpace : List Char → List Char
  | c :: cs => if c == ' ' || c == '\t' || c == '\n' || c == '\r' then skipSpace cs else c :: cs
  | [] => []

/-- The value of four hex digits, of either case. -/
def hex4? (a b c d : Char) : Option Nat :=
  let digit (x : Char) : Option Nat :=
    if '0' ≤ x ∧ x ≤ '9' then some (x.toNat - 48)
    else if 'a' ≤ x ∧ x ≤ 'f' then some (x.toNat - 87)
    else if 'A' ≤ x ∧ x ≤ 'F' then some (x.toNat - 55)
    else none
  match digit a, digit b, digit c, digit d with
  | some w, some x, some y, some z => some (((w * 16 + x) * 16 + y) * 16 + z)
  | _, _, _, _ => none

/-- The character of a short escape `\x`. -/
def shortEscape? : Char → Option Char
  | '"' => some '"'
  | '\\' => some '\\'
  | '/' => some '/'
  | 'b' => some (Char.ofNat 8)
  | 'f' => some (Char.ofNat 12)
  | 'n' => some '\n'
  | 'r' => some '\r'
  | 't' => some '\t'
  | _ => none

/-- Whether a code is a surrogate. -/
def isSurrogate (n : Nat) : Bool := 0xd800 ≤ n && n < 0xe000

/-- Reads the rest of a string after its opening quote: the text, and what follows the
closing quote. With `lone`, a surrogate that pairs with nothing is read as `U+FFFD`. -/
def readString (lone : Bool) (acc : List Char) : List Char → Option (String × List Char)
  | [] => none
  | '"' :: rest => some (String.ofList acc.reverse, rest)
  | '\\' :: 'u' :: a :: b :: c :: d :: '\\' :: 'u' :: e :: f :: g :: h :: rest =>
    match hex4? a b c d, hex4? e f g h with
    | some hi, some lo =>
      if 0xd800 ≤ hi ∧ hi < 0xdc00 ∧ 0xdc00 ≤ lo ∧ lo < 0xe000 then
        readString lone (Char.ofNat (0x10000 + (hi - 0xd800) * 0x400 + (lo - 0xdc00)) :: acc) rest
      else if isSurrogate hi then
        if lone then readString lone ('\uFFFD' :: acc) ('\\' :: 'u' :: e :: f :: g :: h :: rest)
        else none
      else readString lone (Char.ofNat hi :: acc) ('\\' :: 'u' :: e :: f :: g :: h :: rest)
    | some hi, none =>
      if isSurrogate hi then none
      else readString lone (Char.ofNat hi :: acc) ('\\' :: 'u' :: e :: f :: g :: h :: rest)
    | none, _ => none
  | '\\' :: 'u' :: a :: b :: c :: d :: rest =>
    match hex4? a b c d with
    | some n =>
      if isSurrogate n then (if lone then readString lone ('\uFFFD' :: acc) rest else none)
      else readString lone (Char.ofNat n :: acc) rest
    | none => none
  | '\\' :: e :: rest =>
    match shortEscape? e with
    | some c => readString lone (c :: acc) rest
    | none => none
  | c :: rest => if c.toNat < 32 then none else readString lone (c :: acc) rest
termination_by cs => cs.length

/-- Whether the character is an ASCII digit. -/
def isAsciiDigit (c : Char) : Bool := '0' ≤ c && c ≤ '9'

/-- The number written by ASCII digits. -/
def digitsValue (ds : List Char) : Nat := ds.foldl (fun n c => 10 * n + (c.toNat - 48)) 0

/-- The sign of a number: whether the text starts with a minus, and the text after it. -/
def numberSign : List Char → Bool × List Char
  | '-' :: r => (true, r)
  | r => (false, r)

/-- The integer part of a number: a lone `0`, or the digits the text starts with. -/
def wholeDigits : List Char → List Char
  | '0' :: _ => ['0']
  | r => r.takeWhile isAsciiDigit

/-- The fraction of a number, the digits after a point, and the text after them; a point
that no digit follows starts no fraction. -/
def fractionPart (cs : List Char) : Option (List Char) × List Char :=
  match cs with
  | '.' :: d :: r => if isAsciiDigit d then
      let ds := (d :: r).takeWhile isAsciiDigit
      (some ds, (d :: r).drop ds.length)
    else (none, cs)
  | _ => (none, cs)

/-- The exponent of a number, an `e` or `E` with an optional sign and digits, and the text
after it. -/
def exponentPart : List Char → Option (Int × List Char)
  | e :: r => if e == 'e' || e == 'E' then
      let (eneg, r1) := match r with
        | '-' :: r' => (true, r')
        | '+' :: r' => (false, r')
        | r' => (false, r')
      let ds := r1.takeWhile isAsciiDigit
      if ds.isEmpty then none
      else some (if eneg then -(digitsValue ds : Int) else digitsValue ds, r1.drop ds.length)
    else none
  | [] => none

/-- Reads a number: an optional minus, an integer part without leading zeros, an
optional fraction and an optional exponent. -/
def readNumber (cs : List Char) : Option (Json × List Char) :=
  let (neg, cs1) := numberSign cs
  let whole := wholeDigits cs1
  if whole.isEmpty then none
  else
    let (frac, cs3) := fractionPart (cs1.drop whole.length)
    let expPart := exponentPart cs3
    match frac, expPart with
    | none, none =>
      let n : Int := digitsValue whole
      some (.int (if neg then -n else n), cs3)
    | _, _ =>
      let fd := frac.getD []
      let (ex, rest) := expPart.getD (0, cs3)
      let x := Number.Decimal.toFloat ⟨digitsValue (whole ++ fd), ex - fd.length⟩
      some (.float (if neg then -x else x), rest)

/-- Reads a literal or a number. -/
def readScalar : List Char → Option (Json × List Char)
  | 't' :: 'r' :: 'u' :: 'e' :: r => some (.bool true, r)
  | 'f' :: 'a' :: 'l' :: 's' :: 'e' :: r => some (.bool false, r)
  | 'n' :: 'u' :: 'l' :: 'l' :: r => some (.null, r)
  | 'N' :: 'a' :: 'N' :: r => some (.float (0.0 / 0.0), r)
  | 'I' :: 'n' :: 'f' :: 'i' :: 'n' :: 'i' :: 't' :: 'y' :: r => some (.float (1.0 / 0.0), r)
  | '-' :: 'I' :: 'n' :: 'f' :: 'i' :: 'n' :: 'i' :: 't' :: 'y' :: r => some (.float (-1.0 / 0.0), r)
  | cs => readNumber cs

/-- Why a text is not read: it is not JSON, or a container would be open inside more
than the reader allows; `array` tells whether that container is an array. -/
inductive ReadStop where
  | malformed
  | tooDeep (array : Bool)
deriving BEq, Inhabited

/-- How a text is read: whether a lone surrogate escape is read as `U+FFFD`, and how
many containers may be open at once. -/
structure Reading where
  lone : Bool
  room : Nat

mutual
/-- Reads a value after optional blanks, inside `depth` open containers; `fuel` bounds
the number of values read. -/
def readValue (r : Reading) : Nat → Nat → List Char → Except ReadStop (Json × List Char)
  | 0, _, _ => .error .malformed
  | n + 1, depth, cs =>
    match skipSpace cs with
    | '{' :: rest =>
      if depth ≥ r.room then .error (.tooDeep false)
      else match skipSpace rest with
        | '}' :: after => .ok (.obj [], after)
        | after => readMembers r n (depth + 1) [] after
    | '[' :: rest =>
      if depth ≥ r.room then .error (.tooDeep true)
      else match skipSpace rest with
        | ']' :: after => .ok (.arr [], after)
        | after => readItems r n (depth + 1) [] after
    | '"' :: rest => match readString r.lone [] rest with
      | some (t, after) => .ok (.str t, after)
      | none => .error .malformed
    | rest => match readScalar rest with
      | some v => .ok v
      | none => .error .malformed

/-- Reads the items of an array after its first blanks, up to the closing bracket. -/
def readItems (r : Reading) : Nat → Nat → List Json → List Char → Except ReadStop (Json × List Char)
  | 0, _, _, _ => .error .malformed
  | n + 1, depth, acc, cs => do
    let (v, rest) ← readValue r n depth cs
    match skipSpace rest with
    | ',' :: after => readItems r n depth (v :: acc) after
    | ']' :: after => .ok (.arr (v :: acc).reverse, after)
    | _ => .error .malformed

/-- Reads the members of an object after its first blanks, up to the closing brace. -/
def readMembers (r : Reading) : Nat → Nat → List (String × Json) → List Char →
    Except ReadStop (Json × List Char)
  | 0, _, _, _ => .error .malformed
  | n + 1, depth, acc, cs =>
    match skipSpace cs with
    | '"' :: rest =>
      match readString r.lone [] rest with
      | none => .error .malformed
      | some (k, afterKey) =>
        match skipSpace afterKey with
        | ':' :: afterColon => do
          let (v, rest) ← readValue r n depth afterColon
          match skipSpace rest with
          | ',' :: after => readMembers r n depth ((k, v) :: acc) after
          | '}' :: after => .ok (.obj (collectMembers ((k, v) :: acc).reverse), after)
          | _ => .error .malformed
        | _ => .error .malformed
    | _ => .error .malformed
end

/-- Reads a whole JSON text: one value, with only blanks around it. -/
def parseWith (r : Reading) (s : String) : Except ReadStop Json := do
  let (v, rest) ← readValue r (s.length + 2) 0 s.toList
  if (skipSpace rest).isEmpty then pure v else throw .malformed

/-- Reads a whole JSON text. -/
def parse? (s : String) : Option Json := (parseWith ⟨false, s.length + 1⟩ s).toOption

mutual
/-- Whether every whole number in a value has at most `Number.maxDigits` digits. -/
def digitsFit : Json → Bool
  | .int n => (Nat.repr n.natAbs).length ≤ Number.maxDigits
  | .arr xs => itemsFit xs
  | .obj ms => membersFit ms
  | _ => true

/-- Whether every whole number in the items has at most `Number.maxDigits` digits. -/
def itemsFit : List Json → Bool
  | [] => true
  | x :: xs => digitsFit x && itemsFit xs

/-- Whether every whole number in the members has at most `Number.maxDigits` digits. -/
def membersFit : List (String × Json) → Bool
  | [] => true
  | (_, v) :: ms => digitsFit v && membersFit ms
end

/-- The nesting of the tokens of a JSON text from here: `quoted` inside a string, `escaped`
after a backslash in one, `depth` the containers open, `best` the most seen so far. -/
def nestingFrom : List Char → Bool → Bool → Nat → Nat → Nat
  | [], _, _, _, best => best
  | c :: cs, true, escaped, depth, best =>
    if escaped then nestingFrom cs true false depth best
    else nestingFrom cs (c != '"') (c == '\\') depth best
  | c :: cs, false, _, depth, best =>
    if c == ' ' || c == '\t' || c == '\n' || c == '\r' || c == ',' || c == ':' then
      nestingFrom cs false false depth best
    else if c == ']' || c == '}' then nestingFrom cs false false (depth - 1) best
    else if c == '[' || c == '{' then nestingFrom cs false false (depth + 1) (max best depth)
    else nestingFrom cs (c == '"') false depth (max best depth)

/-- The most containers that enclose a key or a value of a well-formed JSON text. -/
def nesting (s : String) : Nat := nestingFrom s.toList false false 0 0

/-- The most containers a document may have open at once. -/
def documentRoom : Nat := 975

/-- Reads a whole document: lone surrogates are allowed, containers may be open at most
`documentRoom` deep, and whole numbers are limited. -/
def readDocument (s : String) : Except ReadStop Json := do
  let v ← parseWith ⟨true, documentRoom⟩ s
  if digitsFit v then pure v else throw .malformed

/-- Reads a whole document, as `readDocument` does. -/
def parseDocument? (s : String) : Option Json := (readDocument s).toOption

end AddonCatalog.Json
