import AddonCatalog.Number.Whole
import AddonCatalog.Text.Lower
/-!
# Styles

A style definition is a text of words, read in order after lower-casing each:

* an attribute (`bold` or `b`, `dim` or `d`, `italic` or `i`, `underline` or `u`,
  `blink`, `blink2`, `reverse` or `r`, `conceal` or `c`, `strike` or `s`,
  `underline2` or `uu`, `frame`, `encircle`, `overline` or `o`) sets it;
* `not` and an attribute, written exactly, clears it;
* `on` and a color gives the background, `link` and a url the link (both kept as
  written, a color in lower case);
* any other word must be a color: `default`, one of the 256 named colors,
  `#rrggbb`, `color(n)` with `n ≤ 255`, or `rgb(r,g,b)` with three numbers of at most
  255. A component of `rgb(…)` that is empty is not a number, which fails outright
  rather than making the definition invalid.

A definition of nothing but blanks around `none`, or the empty text, is the null style.
Its normal form (`normalizeStyle`) names the attributes set, in a fixed order, then
the color, `on` and the background, `link` and the url, or `none`; a definition that
is not a style is normalised to itself, trimmed and in lower case. Markup matches a
closing tag to an open one by their normal forms.
-/

namespace AddonCatalog.Console

/-- The names of the 256 colors of a terminal, with their spelling variants. -/
def colorNames : List String := (String.intercalate " " [
    "black red green yellow blue magenta cyan white bright_black bright_red bright_green",
    "bright_yellow bright_blue bright_magenta bright_cyan bright_white grey0 gray0 navy_blue",
    "dark_blue blue3 blue1 dark_green deep_sky_blue4 dodger_blue3 dodger_blue2 green4",
    "spring_green4 turquoise4 deep_sky_blue3 dodger_blue1 green3 spring_green3 dark_cyan",
    "light_sea_green deep_sky_blue2 deep_sky_blue1 spring_green2 cyan3 dark_turquoise",
    "turquoise2 green1 spring_green1 medium_spring_green cyan2 cyan1 dark_red deep_pink4",
    "purple4 purple3 blue_violet orange4 grey37 gray37 medium_purple4 slate_blue3 royal_blue1",
    "chartreuse4 dark_sea_green4 pale_turquoise4 steel_blue steel_blue3 cornflower_blue",
    "chartreuse3 cadet_blue sky_blue3 steel_blue1 pale_green3 sea_green3 aquamarine3",
    "medium_turquoise chartreuse2 sea_green2 sea_green1 aquamarine1 dark_slate_gray2",
    "dark_magenta dark_violet purple light_pink4 plum4 medium_purple3 slate_blue1 yellow4",
    "wheat4 grey53 gray53 light_slate_grey light_slate_gray medium_purple light_slate_blue",
    "dark_olive_green3 dark_sea_green light_sky_blue3 sky_blue2 dark_sea_green3",
    "dark_slate_gray3 sky_blue1 chartreuse1 light_green pale_green1 dark_slate_gray1 red3",
    "medium_violet_red magenta3 dark_orange3 indian_red hot_pink3 medium_orchid3",
    "medium_orchid medium_purple2 dark_goldenrod light_salmon3 rosy_brown grey63 gray63",
    "medium_purple1 gold3 dark_khaki navajo_white3 grey69 gray69 light_steel_blue3",
    "light_steel_blue yellow3 dark_sea_green2 light_cyan3 light_sky_blue1 green_yellow",
    "dark_olive_green2 dark_sea_green1 pale_turquoise1 deep_pink3 magenta2 hot_pink2 orchid",
    "medium_orchid1 orange3 light_pink3 pink3 plum3 violet light_goldenrod3 tan misty_rose3",
    "thistle3 plum2 khaki3 light_goldenrod2 light_yellow3 grey84 gray84 light_steel_blue1",
    "yellow2 dark_olive_green1 honeydew2 light_cyan1 red1 deep_pink2 deep_pink1 magenta1",
    "orange_red1 indian_red1 hot_pink dark_orange salmon1 light_coral pale_violet_red1",
    "orchid2 orchid1 orange1 sandy_brown light_salmon1 light_pink1 pink1 plum1 gold1",
    "navajo_white1 misty_rose1 thistle1 yellow1 light_goldenrod1 khaki1 wheat1 cornsilk1",
    "grey100 gray100 grey3 gray3 grey7 gray7 grey11 gray11 grey15 gray15 grey19 gray19 grey23",
    "gray23 grey27 gray27 grey30 gray30 grey35 gray35 grey39 gray39 grey42 gray42 grey46",
    "gray46 grey50 gray50 grey54 gray54 grey58 gray58 grey62 gray62 grey66 gray66 grey70",
    "gray70 grey74 gray74 grey78 gray78 grey82 gray82 grey85 gray85 grey89 gray89 grey93",
    "gray93"
  ]).splitOn " "

/-- The attributes of a style, in the order of their normal form. -/
def attributeNames : List String :=
  ["bold", "dim", "italic", "underline", "blink", "blink2", "reverse", "conceal", "strike",
    "underline2", "frame", "encircle", "overline"]

/-- The attribute a word names: a full name or its abbreviation. -/
def attributeOf? (w : String) : Option String :=
  if attributeNames.contains w then some w
  else match w with
    | "d" => some "dim"
    | "b" => some "bold"
    | "i" => some "italic"
    | "u" => some "underline"
    | "r" => some "reverse"
    | "c" => some "conceal"
    | "s" => some "strike"
    | "uu" => some "underline2"
    | "o" => some "overline"
    | _ => none

/-- Why a definition is not read: it is not a style, or a number in it fails. -/
inductive StyleError where
  | invalid
  | failure (f : Failure)

/-- Whether a character is a lower-case hex digit. -/
def isLowerHex (c : Char) : Bool := ('0' ≤ c && c ≤ '9') || ('a' ≤ c && c ≤ 'f')

/-- The components of `rgb(…)`, each read as a whole number. -/
def rgbComponents (inner : List Char) : Except StyleError Unit :=
  match (String.ofList inner).splitOn "," with
  | [r, g, b] => do
    let read (t : String) : Except StyleError Int := match Number.wholeOfText t with
      | .ok n => .ok n
      | .error f => .error (.failure f)
    let r ← read r
    let g ← read g
    let b ← read b
    if r ≤ 255 && g ≤ 255 && b ≤ 255 then pure () else throw .invalid
  | _ => throw .invalid

/-- Checks a color word, in lower case. -/
def checkColor (w : String) : Except StyleError Unit :=
  if w == "default" || colorNames.contains w then .ok ()
  else match w.toList with
    | '#' :: hex => if hex.length == 6 && hex.all isLowerHex then .ok () else .error .invalid
    | 'c' :: 'o' :: 'l' :: 'o' :: 'r' :: '(' :: rest =>
      let ds := rest.takeWhile fun c => '0' ≤ c && c ≤ '9'
      if rest.drop ds.length == [')'] && 1 ≤ ds.length && ds.length ≤ 3 &&
          (String.ofList ds).toNat! ≤ 255 then .ok ()
      else .error .invalid
    | 'r' :: 'g' :: 'b' :: '(' :: rest =>
      let inner := rest.dropLast
      if rest.getLast? == some ')' && !inner.isEmpty &&
          inner.all (fun c => Text.isDigit c || Text.isBlank c || c == ',') then rgbComponents inner
      else .error .invalid
    | _ => .error .invalid

/-- A style as read from a definition. -/
structure Style where
  /-- The attributes set or cleared, the last word for each winning. -/
  attributes : List (String × Bool) := []
  color : Option String := none
  background : Option String := none
  link : Option String := none

/-- Sets or clears an attribute. -/
def Style.withAttribute (s : Style) (name : String) (on : Bool) : Style :=
  { s with attributes := (s.attributes.filter (·.1 != name)) ++ [(name, on)] }

/-- Reads the words of a definition; `fuel` bounds the words read. -/
def readWords : Nat → Style → List String → Except StyleError Style
  | 0, s, _ => .ok s
  | _ + 1, s, [] => .ok s
  | fuel + 1, s, w :: rest =>
    match Text.lower w with
    | "on" => match rest with
      | [] => .error .invalid
      | c :: more => do
        checkColor (Text.lower c)
        readWords fuel { s with background := some (Text.lower c) } more
    | "not" => match rest.head?.bind attributeOf? with
      | some a => readWords fuel (s.withAttribute a false) (rest.drop 1)
      | none => .error .invalid
    | "link" => match rest with
      | [] => .error .invalid
      | url :: more => readWords fuel { s with link := some url } more
    | lw => match attributeOf? lw with
      | some a => readWords fuel (s.withAttribute a true) rest
      | none => do
        checkColor lw
        readWords fuel { s with color := some lw } rest

/-- The words of a text, split at runs of blanks. -/
def blankWords (s : String) : List String :=
  let (first, rest) := s.toList.foldr (fun c (acc : List Char × List String) =>
    if Text.isBlank c then ([], if acc.1.isEmpty then acc.2 else String.ofList acc.1 :: acc.2)
    else (c :: acc.1, acc.2)) ([], [])
  if first.isEmpty then rest else String.ofList first :: rest

/-- The normal form of a style: its attributes in order, then its colors and link. -/
def Style.normal (s : Style) : String :=
  let attrs := attributeNames.filterMap fun a => (s.attributes.lookup a).map fun on =>
    if on then a else "not " ++ a
  let parts := attrs ++ s.color.toList ++ (s.background.map ("on " ++ ·)).toList ++
    (s.link.map ("link " ++ ·)).toList
  if parts.isEmpty then "none" else " ".intercalate parts

/-- The normal form of a style definition; a definition that is not a style is
trimmed and lower-cased. Fails only when a number in a color fails. -/
def normalizeStyle (d : String) : Except Failure String :=
  let ws := blankWords d
  if ws == ["none"] || d.isEmpty then .ok "none"
  else match readWords (ws.length + 1) {} ws with
    | .ok s => .ok s.normal
    | .error .invalid => .ok (Text.lower (Text.trim d))
    | .error (.failure f) => .error f

/-- Reads style definitions in order, as drawing a text does: a definition that is not a
style is drawn without one, and the first whose number fails ends the drawing. -/
def checkStyles (defs : List String) : Except Failure Unit :=
  defs.forM fun d => (normalizeStyle d).map fun _ => ()

end AddonCatalog.Console
