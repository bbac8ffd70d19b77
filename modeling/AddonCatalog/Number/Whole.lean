import AddonCatalog.Json.Show
import AddonCatalog.Failure
import AddonCatalog.Text.Blank
import AddonCatalog.Text.Digit
import AddonCatalog.Number.DigitLimit
/-!
# Reading whole numbers

A whole number is read from a value as follows (`Number.wholeOf`):

* a whole number is itself, `true` is 1 and `false` is 0;
* a double is cut towards zero; infinity and NaN are errors;
* a text is read in base ten: blanks around it (all blanks but the information
  separators `U+001C`–`U+001F`), an optional sign, and decimal digits of any script,
  with single `_` allowed between digits (`1_000`, `１２`); anything else is a
  `ValueError` that quotes the text, and more than `maxDigits` digits are a
  `ValueError` too;
* any other value is a `TypeError`.
-/

namespace AddonCatalog.Number

/-- The error for a text that is not a whole number. -/
def invalidWhole (s : String) : Failure :=
  ⟨.invalidValue, "invalid literal for int() with base 10: " ++ Text.quote s⟩

/-- Whether a character may stand in the run of a number's digits: a digit or `_`. -/
def isRunChar (c : Char) : Bool := (Text.digitValue? c).isSome || c == '_'

/-- Whether a run of digits has its underscores in place: none first, last or doubled. -/
def underscoresFit (run : List Char) : Bool :=
  run.head? != some '_' && run.getLast? != some '_' &&
    !(run.zip run.tail).any fun (a, b) => a == '_' && b == '_'

/-- The value of decimal digits. -/
def digitsValue (cs : List Char) : Nat :=
  cs.foldl (fun acc c => 10 * acc + (Text.digitValue? c).getD 0) 0

/-- Reads a whole number from a text, in base ten. The run of digits after the sign is
checked first: its underscores, then its length against the limit; only then must it be
non-empty and followed by nothing but blanks. -/
def wholeOfText (s : String) : Except Failure Int := do
  let cs := s.toList.dropWhile Text.isNumberBlank
  let (neg, body) := match cs with
    | '-' :: r => (true, r)
    | '+' :: r => (false, r)
    | r => (false, r)
  let run := body.takeWhile isRunChar
  unless underscoresFit run do throw (invalidWhole s)
  let digits := run.filter (· != '_')
  checkDigits digits.length
  unless !digits.isEmpty && (body.drop run.length).all Text.isNumberBlank do throw (invalidWhole s)
  let n := digitsValue digits
  pure (if neg then -(n : Int) else n)

/-- A double cut towards zero. -/
def truncateFloat (x : Float) : Except Failure Int :=
  match Binary.ofFloat x with
  | .finite b =>
    let mag : Nat := if b.exponent ≥ 0 then b.mantissa * Nat.pow 2 b.exponent.toNat
      else b.mantissa / Nat.pow 2 (-b.exponent).toNat
    .ok (if b.negative then -(mag : Int) else mag)
  | .infinite _ => .error ⟨.overflow, "cannot convert float infinity to integer"⟩
  | .nan => .error ⟨.invalidValue, "cannot convert float NaN to integer"⟩

/-- Reads a whole number from a value. -/
def wholeOf : Json → Except Failure Int
  | .int n => .ok n
  | .bool b => .ok (if b then 1 else 0)
  | .float x => truncateFloat x
  | .str s => wholeOfText s
  | v => .error ⟨.wrongType,
      "int() argument must be a string, a bytes-like object or a real number, not '" ++
        v.typeName ++ "'"⟩

end AddonCatalog.Number
