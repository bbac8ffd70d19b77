/-!
# Texts with styled spans

A rendered console text is its characters and the spans of style definitions that markup
put on it. A span is a stretch `[start, stop)` of positions and a definition. The
definitions are only read when the text is finally drawn, so a span matters as long as
it lives; laying the text out can end its life:

* `divide` cuts a text at offsets; each piece keeps what a span covers of it, and a span
  that covers nothing of a piece is not kept there. A text cut at no offset is kept as
  it is, its empty spans included, but empty spans vanish at any cut;
* `setChars` replaces the characters; when the text gets shorter, spans that start
  beyond its end go and the others are cut to it (`trimTo`), and `cropRight` removes
  characters at the end in the same way;
* `padLeft` shifts the spans, `padRight` leaves them, and `extendEnd` stretches the
  spans that reach the end over the spaces it adds;
* `join` puts pieces one after the other, shifting their spans.
-/

namespace AddonCatalog.Console

/-- A stretch of positions `[start, stop)` that carries a style definition. -/
structure Span where
  start : Nat
  stop : Nat
  style : String
deriving BEq, Inhabited, Repr

/-- What a span covers of the stretch `[a, b)`, relative to `a`, if anything. -/
def Span.within (s : Span) (a b : Nat) : Option Span :=
  let start := s.start - a
  let stop := min (s.stop - a) (b - a)
  if start < stop then some ⟨start, stop, s.style⟩ else none

/-- A text and its spans, in the order the spans were made. -/
structure Styled where
  chars : List Char
  spans : List Span := []
deriving BEq, Inhabited

namespace Styled

/-- A text without spans. -/
def plain (cs : List Char) : Styled := { chars := cs }

/-- The number of characters. -/
def length (t : Styled) : Nat := t.chars.length

/-- The pieces between consecutive bounds. -/
def pieces (t : Styled) : List Nat → List Styled
  | a :: b :: rest =>
    { chars := (t.chars.drop a).take (b - a), spans := t.spans.filterMap (·.within a b) } ::
      pieces t (b :: rest)
  | _ => []

/-- Cuts a text at increasing offsets. -/
def divide (t : Styled) (offsets : List Nat) : List Styled :=
  if offsets.isEmpty then [t] else t.pieces (0 :: offsets ++ [t.length])

/-- Keeps the spans that start before `n`, cut to end there. -/
def trimTo (n : Nat) (spans : List Span) : List Span :=
  (spans.filter (·.start < n)).map fun s => { s with stop := min s.stop n }

/-- Replaces the characters; a shorter text keeps only what its spans cover of it. -/
def setChars (t : Styled) (cs : List Char) : Styled :=
  if cs == t.chars then t
  else if cs.length < t.length then { chars := cs, spans := trimTo cs.length t.spans }
  else { t with chars := cs }

/-- Removes `n` characters at the end. -/
def cropRight (t : Styled) (n : Nat) : Styled :=
  let keep := t.length - n
  { chars := t.chars.take keep, spans := trimTo keep t.spans }

/-- Puts `n` spaces before the text. -/
def padLeft (t : Styled) (n : Nat) : Styled :=
  if n = 0 then t
  else { chars := List.replicate n ' ' ++ t.chars,
         spans := t.spans.map fun s => { s with start := s.start + n, stop := s.stop + n } }

/-- Puts `n` spaces after the text. -/
def padRight (t : Styled) (n : Nat) : Styled := { t with chars := t.chars ++ List.replicate n ' ' }

/-- Puts `n` spaces after the text, inside every span that reaches its end. -/
def extendEnd (t : Styled) (n : Nat) : Styled :=
  if n = 0 then t
  else { chars := t.chars ++ List.replicate n ' ',
         spans := t.spans.map fun s => if s.stop ≥ t.length then { s with stop := s.stop + n } else s }

/-- Moves the spans `n` positions on. -/
def shiftSpans (n : Nat) (spans : List Span) : List Span :=
  spans.map fun s => { s with start := s.start + n, stop := s.stop + n }

/-- The pieces one after the other. -/
def join (ts : List Styled) : Styled :=
  let step (acc : Styled) (t : Styled) : Styled :=
    { chars := acc.chars ++ t.chars, spans := acc.spans ++ shiftSpans acc.length t.spans }
  ts.foldl step { chars := [] }

/-- The style definitions of the spans, in order. -/
def styles (t : Styled) : List String := t.spans.map (·.style)

end Styled

end AddonCatalog.Console
