import AddonCatalog.Text.Printable
/-!
# Quoted text

The quoted form of a text, as messages show a value between quotes: single quotes,
or double quotes when the text holds a single quote and no double quote. Inside, the
chosen quote and the backslash are escaped, tab, line feed and carriage return take
their short escapes, and the other characters that do not print themselves take a hex
escape of two, four or eight digits.
-/

namespace AddonCatalog.Text

/-- The lower-case hex digits of `n`, padded with zeros to `width`. -/
def hexPadded (width n : Nat) : String :=
  let ds := Nat.toDigits 16 n
  String.ofList (List.replicate (width - ds.length) '0' ++ ds)

/-- The escaped form of one character inside a quoted text with quote `q`. -/
def quoteChar (q : Char) (c : Char) : String :=
  let n := c.toNat
  if c == q || c == '\\' then String.ofList ['\\', c]
  else if c == '\t' then "\\t"
  else if c == '\n' then "\\n"
  else if c == '\r' then "\\r"
  else if n < 32 || n == 127 then "\\x" ++ hexPadded 2 n
  else if n < 127 then String.ofList [c]
  else if isPrintable c then String.ofList [c]
  else if n ≤ 0xff then "\\x" ++ hexPadded 2 n
  else if n ≤ 0xffff then "\\u" ++ hexPadded 4 n
  else "\\U" ++ hexPadded 8 n

/-- The quoted form of a text. -/
def quote (s : String) : String :=
  let q := if s.contains '\'' && !s.contains '"' then '"' else '\''
  String.ofList [q] ++ String.join (s.toList.map (quoteChar q)) ++ String.ofList [q]

end AddonCatalog.Text
