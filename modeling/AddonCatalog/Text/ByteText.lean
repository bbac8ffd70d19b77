import AddonCatalog.Text.Quoted
/-!
# Bytes as text

Names inside archives are bytes, read as text in one of two encodings, and shown as
bytes in messages.

* Code page 437 gives every byte a character: ASCII below `0x80`, and the table
  `codePage437High` above (`decodeCodePage437`).
* UTF-8 (`decodeUtf8`) fails at the first byte that does not fit, naming the bytes and
  the reason: a byte that cannot start a character (`invalid start byte`, also for
  overlong and out-of-range leads), a following byte outside the range its lead allows
  (`invalid continuation byte`, naming the bytes before it), or a sequence cut short by
  the end (`unexpected end of data`, naming the rest).
* `quoteBytes` shows bytes as a quoted byte literal: `b'a\x00b'`.
-/

namespace AddonCatalog.Text

/-- The characters of the bytes `0x80` to `0xFF` in code page 437. -/
def codePage437High : String :=
  "\u00C7\u00FC\u00E9\u00E2\u00E4\u00E0\u00E5\u00E7\u00EA\u00EB\u00E8\u00EF\u00EE\u00EC\u00C4\u00C5" ++
  "\u00C9\u00E6\u00C6\u00F4\u00F6\u00F2\u00FB\u00F9\u00FF\u00D6\u00DC\u00A2\u00A3\u00A5\u20A7\u0192" ++
  "\u00E1\u00ED\u00F3\u00FA\u00F1\u00D1\u00AA\u00BA\u00BF\u2310\u00AC\u00BD\u00BC\u00A1\u00AB\u00BB" ++
  "\u2591\u2592\u2593\u2502\u2524\u2561\u2562\u2556\u2555\u2563\u2551\u2557\u255D\u255C\u255B\u2510" ++
  "\u2514\u2534\u252C\u251C\u2500\u253C\u255E\u255F\u255A\u2554\u2569\u2566\u2560\u2550\u256C\u2567" ++
  "\u2568\u2564\u2565\u2559\u2558\u2552\u2553\u256B\u256A\u2518\u250C\u2588\u2584\u258C\u2590\u2580" ++
  "\u03B1\u00DF\u0393\u03C0\u03A3\u03C3\u00B5\u03C4\u03A6\u0398\u03A9\u03B4\u221E\u03C6\u03B5\u2229" ++
  "\u2261\u00B1\u2265\u2264\u2320\u2321\u00F7\u2248\u00B0\u2219\u00B7\u221A\u207F\u00B2\u25A0\u00A0"

/-- Reads bytes in code page 437. -/
def decodeCodePage437 (bs : List UInt8) : String :=
  let high := codePage437High.toList
  String.ofList (bs.map fun b =>
    if b.toNat < 128 then Char.ofNat b.toNat else high.getD (b.toNat - 128) ' ')

/-- Why UTF-8 decoding failed: the positions of the first and last byte concerned and
the reason. -/
structure Utf8Error where
  start : Nat
  last : Nat
  reason : String

/-- The message of a UTF-8 decoding failure over the given bytes. -/
def Utf8Error.message (e : Utf8Error) (bs : List UInt8) : String :=
  if e.start == e.last then
    "'utf-8' codec can't decode byte 0x" ++ hexPadded 2 (bs.getD e.start 0).toNat ++
      " in position " ++ toString e.start ++ ": " ++ e.reason
  else
    "'utf-8' codec can't decode bytes in position " ++ toString e.start ++ "-" ++
      toString e.last ++ ": " ++ e.reason

/-- The number of bytes a lead byte starts, and the range of its first following byte;
`none` for a byte that cannot start a character. -/
def leadShape (b : Nat) : Option (Nat × Nat × Nat) :=
  if b < 0x80 then some (1, 0, 0)
  else if 0xC2 ≤ b ∧ b ≤ 0xDF then some (2, 0x80, 0xBF)
  else if b == 0xE0 then some (3, 0xA0, 0xBF)
  else if b == 0xED then some (3, 0x80, 0x9F)
  else if 0xE1 ≤ b ∧ b ≤ 0xEF then some (3, 0x80, 0xBF)
  else if b == 0xF0 then some (4, 0x90, 0xBF)
  else if b == 0xF4 then some (4, 0x80, 0x8F)
  else if 0xF1 ≤ b ∧ b ≤ 0xF3 then some (4, 0x80, 0xBF)
  else none

/-- How many of the following bytes fit after a lead: the first in `[lo, hi]`, the
others in `[0x80, 0xBF]`, at most `need`. -/
def fittingFollowers (lo hi need : Nat) (rest : List UInt8) : Nat :=
  let fits (i : Nat) (b : UInt8) : Bool :=
    if i == 0 then lo ≤ b.toNat && b.toNat ≤ hi else 0x80 ≤ b.toNat && b.toNat ≤ 0xBF
  (((rest.take need).zipIdx.map fun (b, i) => fits i b).takeWhile id).length

/-- Decodes UTF-8 from position `pos`, collecting characters in reverse. -/
def decodeUtf8From (acc : List Char) (pos : Nat) : List UInt8 → Except Utf8Error String
  | [] => .ok (String.ofList acc.reverse)
  | b :: rest =>
    match leadShape b.toNat with
    | none => .error ⟨pos, pos, "invalid start byte"⟩
    | some (1, _, _) => decodeUtf8From (Char.ofNat b.toNat :: acc) (pos + 1) rest
    | some (n, lo, hi) =>
      let k := fittingFollowers lo hi (n - 1) rest
      if k == n - 1 then
        let cont := (rest.take k).foldl (fun v c => v * 64 + (c.toNat - 0x80)) 0
        let leadBits := b.toNat % (if n == 2 then 32 else if n == 3 then 16 else 8)
        let code := leadBits * Nat.pow 64 k + cont
        decodeUtf8From (Char.ofNat code :: acc) (pos + n) (rest.drop k)
      else if k == rest.length then .error ⟨pos, pos + rest.length, "unexpected end of data"⟩
      else .error ⟨pos, pos + k, "invalid continuation byte"⟩
termination_by bs => bs.length
decreasing_by all_goals (simp_wf; try omega)

/-- Decodes bytes as UTF-8. -/
def decodeUtf8 (bs : List UInt8) : Except Utf8Error String := decodeUtf8From [] 0 bs

/-- The escaped form of one byte inside a byte literal with quote `q`. -/
def quoteByte (q : Char) (b : UInt8) : String :=
  let n := b.toNat
  let c := Char.ofNat n
  if c == q || c == '\\' then String.ofList ['\\', c]
  else if c == '\t' then "\\t"
  else if c == '\n' then "\\n"
  else if c == '\r' then "\\r"
  else if n < 32 || n ≥ 127 then "\\x" ++ hexPadded 2 n
  else String.ofList [c]

/-- The quoted form of bytes, as a byte literal. -/
def quoteBytes (bs : List UInt8) : String :=
  let q := if bs.contains 39 && !bs.contains 34 then '"' else '\''
  "b" ++ String.ofList [q] ++ String.join (bs.map (quoteByte q)) ++ String.ofList [q]

end AddonCatalog.Text
