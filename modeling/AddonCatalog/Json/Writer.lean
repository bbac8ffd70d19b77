import AddonCatalog.Json.Value
import AddonCatalog.Number.FloatText
import AddonCatalog.Text.Quoted
/-!
# Writing JSON text

A `JsonStyle` fixes the layout of a JSON text: the separators between items and after
keys, an optional indentation, whether characters beyond ASCII are escaped, how
doubles are laid out and how the values that are not finite numbers are written.
Inside strings the quote, the backslash and the control characters are always escaped,
the control characters with their short escapes where they have one and `\u00XX`
otherwise, in lower-case hex. Members are written in their order.

* `JsonStyle.record` is the compact form of stored records;
* `JsonStyle.settings` is the form of settings files: two-space indentation, ASCII only;
* `JsonStyle.document` is the one-line ASCII form with spaced separators;
* `JsonStyle.answer` is the one-line form with spaced separators that keeps all
  characters.
-/

namespace AddonCatalog

/-- The layout of a JSON text. -/
structure JsonStyle where
  itemSeparator : String
  keySeparator : String
  /-- Spaces per level of nesting; `none` writes everything on one line. -/
  indent : Option Nat
  /-- Whether every character beyond printable ASCII is escaped. -/
  asciiOnly : Bool
  floatLayout : Number.FloatLayout
  /-- Whether a double that is not finite is written as `null`; otherwise it is written
  `NaN`, `Infinity` or `-Infinity`. -/
  nonFiniteAsNull : Bool

namespace JsonStyle

/-- Stored records: no spaces, all characters kept, doubles in their compact layout,
`null` for values that are not finite. -/
def record : JsonStyle := ⟨",", ":", none, false, .compact, true⟩

/-- Settings files: two-space indentation, ASCII only. -/
def settings : JsonStyle := ⟨",", ": ", some 2, true, .display, false⟩

/-- One line, spaced separators, ASCII only. -/
def document : JsonStyle := ⟨", ", ": ", none, true, .display, false⟩

/-- One line, spaced separators, all characters kept. -/
def answer : JsonStyle := ⟨", ", ": ", none, false, .display, false⟩

end JsonStyle

namespace Json

/-- The escaped form of a character inside a JSON string. -/
def escapeChar (asciiOnly : Bool) (c : Char) : String :=
  let n := c.toNat
  if c == '"' then "\\\""
  else if c == '\\' then "\\\\"
  else if c == '\n' then "\\n"
  else if c == '\r' then "\\r"
  else if c == '\t' then "\\t"
  else if n == 8 then "\\b"
  else if n == 12 then "\\f"
  else if n < 32 then "\\u" ++ Text.hexPadded 4 n
  else if asciiOnly && n > 126 then
    if n < 0x10000 then "\\u" ++ Text.hexPadded 4 n
    else
      let m := n - 0x10000
      "\\u" ++ Text.hexPadded 4 (0xd800 + m / 0x400) ++ "\\u" ++ Text.hexPadded 4 (0xdc00 + m % 0x400)
  else String.ofList [c]

/-- A JSON string literal. -/
def writeString (asciiOnly : Bool) (s : String) : String :=
  "\"" ++ String.join (s.toList.map (escapeChar asciiOnly)) ++ "\""

/-- A double as a JSON number. -/
def writeFloat (st : JsonStyle) (x : Float) : String :=
  match Number.Binary.ofFloat x with
  | .finite b => st.floatLayout.renderBinary b
  | .infinite neg =>
    if st.nonFiniteAsNull then "null" else if neg then "-Infinity" else "Infinity"
  | .nan => if st.nonFiniteAsNull then "null" else "NaN"

/-- The line break and indentation before an item at nesting `level`. -/
def breakAt (st : JsonStyle) (level : Nat) : String :=
  match st.indent with
  | some k => "\n" ++ String.ofList (List.replicate (k * level) ' ')
  | none => ""

mutual
/-- The text of a value at nesting `level`. -/
def write (st : JsonStyle) (level : Nat) : Json → String
  | .null => "null"
  | .bool b => if b then "true" else "false"
  | .int n => toString n
  | .float x => writeFloat st x
  | .str s => writeString st.asciiOnly s
  | .arr [] => "[]"
  | .arr xs => "[" ++ String.join (writeItems st (level + 1) true xs) ++ breakAt st level ++ "]"
  | .obj [] => "\x7b\x7d"
  | .obj ms =>
    "\x7b" ++ String.join (writeMembers st (level + 1) true ms) ++ breakAt st level ++ "\x7d"

/-- The items of an array, each preceded by its separator and line break. -/
def writeItems (st : JsonStyle) (level : Nat) : Bool → List Json → List String
  | _, [] => []
  | first, x :: xs =>
    ((if first then "" else st.itemSeparator) ++ breakAt st level ++ write st level x) ::
      writeItems st level false xs

/-- The members of an object, each preceded by its separator and line break. -/
def writeMembers (st : JsonStyle) (level : Nat) : Bool → List (String × Json) → List String
  | _, [] => []
  | first, (k, v) :: ms =>
    ((if first then "" else st.itemSeparator) ++ breakAt st level ++ writeString st.asciiOnly k ++
      st.keySeparator ++ write st level v) :: writeMembers st level false ms
end

/-- The JSON text of a value in a style. -/
def render (st : JsonStyle) (v : Json) : String := write st 0 v

end Json

end AddonCatalog
