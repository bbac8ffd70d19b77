import AddonCatalog.Text.RangeTable
/-!
# Lower case

The lower-case form of a text, character by character: the simple lower-case mapping
of the Unicode character database (version 15.0), except that `İ` (U+0130) becomes
`i` followed by the combining dot above (U+0307), as its full mapping says.

Capitals come in runs with a fixed distance to their small letters; a run either
covers every code point between its ends, or every second one, where capitals and
small letters alternate. The runs are written as text: `41-5a:32` (every code point),
`100~12e:1` (every second one) or `178:-121` (one code point), in hex with a decimal
distance.

* `Text.lowerChar` maps one character, `Text.lower` a text.
-/

namespace AddonCatalog.Text

/-- A run of capitals: its ends, the step between its capitals, and the distance from
each capital to its small letter. -/
structure CaseRun where
  first : Nat
  last : Nat
  step : Nat
  delta : Int

/-- Reads a decimal distance, with an optional minus sign. -/
def readDistance (s : String) : Int :=
  match s.toList with
  | '-' :: ds => -((String.ofList ds).toNat? |>.getD 0 : Int)
  | _ => (s.toNat?.getD 0 : Int)

/-- Reads one run. -/
def readCaseRun (e : String) : CaseRun :=
  match e.splitOn ":" with
  | [range, d] =>
    match range.splitOn "~", range.splitOn "-" with
    | [a, b], _ => ⟨RangeTable.readHex a, RangeTable.readHex b, 2, readDistance d⟩
    | _, [a, b] => ⟨RangeTable.readHex a, RangeTable.readHex b, 1, readDistance d⟩
    | _, _ => ⟨RangeTable.readHex range, RangeTable.readHex range, 1, readDistance d⟩
  | _ => ⟨0, 0, 1, 0⟩

/-- The runs of capitals, in code point order. -/
def caseRuns : Array CaseRun :=
  ((String.intercalate " " [
    "41-5a:32 c0-d6:32 d8-de:32 100~12e:1 132~136:1 139~147:1 14a~176:1 178:-121 179~17d:1",
    "181:210 182~184:1 186:206 187:1 189-18a:205 18b:1 18e:79 18f:202 190:203 191:1 193:205",
    "194:207 196:211 197:209 198:1 19c:211 19d:213 19f:214 1a0~1a4:1 1a6:218 1a7:1 1a9:218",
    "1ac:1 1ae:218 1af:1 1b1-1b2:217 1b3~1b5:1 1b7:219 1b8:1 1bc:1 1c4:2 1c5:1 1c7:2 1c8:1",
    "1ca:2 1cb~1db:1 1de~1ee:1 1f1:2 1f2~1f4:1 1f6:-97 1f7:-56 1f8~21e:1 220:-130 222~232:1",
    "23a:10795 23b:1 23d:-163 23e:10792 241:1 243:-195 244:69 245:71 246~24e:1 370~372:1",
    "376:1 37f:116 386:38 388-38a:37 38c:64 38e-38f:63 391-3a1:32 3a3-3ab:32 3cf:8 3d8~3ee:1",
    "3f4:-60 3f7:1 3f9:-7 3fa:1 3fd-3ff:-130 400-40f:80 410-42f:32 460~480:1 48a~4be:1 4c0:15",
    "4c1~4cd:1 4d0~52e:1 531-556:48 10a0-10c5:7264 10c7:7264 10cd:7264 13a0-13ef:38864",
    "13f0-13f5:8 1c90-1cba:-3008 1cbd-1cbf:-3008 1e00~1e94:1 1e9e:-7615 1ea0~1efe:1",
    "1f08-1f0f:-8 1f18-1f1d:-8 1f28-1f2f:-8 1f38-1f3f:-8 1f48-1f4d:-8 1f59~1f5f:-8",
    "1f68-1f6f:-8 1f88-1f8f:-8 1f98-1f9f:-8 1fa8-1faf:-8 1fb8-1fb9:-8 1fba-1fbb:-74 1fbc:-9",
    "1fc8-1fcb:-86 1fcc:-9 1fd8-1fd9:-8 1fda-1fdb:-100 1fe8-1fe9:-8 1fea-1feb:-112 1fec:-7",
    "1ff8-1ff9:-128 1ffa-1ffb:-126 1ffc:-9 2126:-7517 212a:-8383 212b:-8262 2132:28",
    "2160-216f:16 2183:1 24b6-24cf:26 2c00-2c2f:48 2c60:1 2c62:-10743 2c63:-3814 2c64:-10727",
    "2c67~2c6b:1 2c6d:-10780 2c6e:-10749 2c6f:-10783 2c70:-10782 2c72:1 2c75:1",
    "2c7e-2c7f:-10815 2c80~2ce2:1 2ceb~2ced:1 2cf2:1 a640~a66c:1 a680~a69a:1 a722~a72e:1",
    "a732~a76e:1 a779~a77b:1 a77d:-35332 a77e~a786:1 a78b:1 a78d:-42280 a790~a792:1",
    "a796~a7a8:1 a7aa:-42308 a7ab:-42319 a7ac:-42315 a7ad:-42305 a7ae:-42308 a7b0:-42258",
    "a7b1:-42282 a7b2:-42261 a7b3:928 a7b4~a7c2:1 a7c4:-48 a7c5:-42307 a7c6:-35384",
    "a7c7~a7c9:1 a7d0:1 a7d6~a7d8:1 a7f5:1 ff21-ff3a:32 10400-10427:40 104b0-104d3:40",
    "10570-1057a:39 1057c-1058a:39 1058c-10592:39 10594-10595:39 10c80-10cb2:64",
    "118a0-118bf:32 16e40-16e5f:32 1e900-1e921:34"
  ]).splitOn " ").toArray.map readCaseRun

/-- Whether a run holds a code point. -/
def CaseRun.holds (r : CaseRun) (n : Nat) : Bool :=
  r.first ≤ n && n ≤ r.last && (n - r.first) % r.step == 0

/-- The lower-case form of a character. -/
def lowerChar (c : Char) : List Char :=
  if c.toNat < 128 then [if 'A' ≤ c && c ≤ 'Z' then Char.ofNat (c.toNat + 32) else c]
  else if c.toNat == 0x130 then ['i', Char.ofNat 0x307]
  else match caseRuns.find? (·.holds c.toNat) with
    | some r => [Char.ofNat (c.toNat + r.delta).toNat]
    | none => [c]

/-- The lower-case form of a text. -/
def lower (s : String) : String := String.ofList (s.toList.flatMap lowerChar)

end AddonCatalog.Text
