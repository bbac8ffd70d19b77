import AddonCatalog.Text.CellWidth
import AddonCatalog.Text.Blank
import AddonCatalog.Console.Styled
/-!
# Laying out text in a width

A console text is laid out line by line, each line of the text (split at line
breaks) separately:

1. each tab becomes a space and then spaces up to the next multiple of eight cells,
   the text since the last tab measured as one piece;
2. the line is cut into words, each with the blanks that follow it (the first also
   with the blanks before it), and broken before every word that does not fit in the
   rest of the current line (`divideLine`). A word longer than the whole width is
   folded into pieces of the width, or, when folding is off, kept whole;
3. blanks at the end of a piece are removed as far as the piece is longer than the
   width (in characters);
4. the pieces are aligned (left: padded to the width; centred: trimmed, then padded on
   both sides with the larger half on the right), and cut to the width, with an
   ellipsis `…` in the last cell when the overflow is `ellipsis`.

Widths are counted in terminal cells (`Text.cells`), and texts are cut between
clusters (`Text.clusters`), never inside one. A printed line wider than the console is
cut to its width (`cropLine`).

The spans of the text follow it through every step (`Styled`): a piece keeps what the
spans cover of it, spaces added for a tab belong to the spans that reach the tab, and
what is cut off takes its part of the spans along.
-/

namespace AddonCatalog.Console

/-- What happens to a word longer than the width. -/
inductive Overflow where
  | fold
  | ellipsis
deriving BEq, Inhabited

/-- How the pieces of a line are aligned. -/
inductive Justify where
  /-- As they are. -/
  | none
  | left
  | center
deriving BEq, Inhabited

/-- The offsets just after the tabs of a text. -/
def tabEnds (cs : List Char) : List Nat :=
  (cs.zipIdx.filter (·.1 == '\t')).map (·.2 + 1)

/-- Expands the tab that ends a part starting at cell `column`: the tab becomes a space,
followed by spaces up to the next multiple of eight cells. Answers the part and the cell
after it. -/
def expandPart (column : Nat) (part : Styled) : Styled × Nat :=
  if part.chars.getLast? == some '\t' then
    let part := { part with chars := part.chars.dropLast ++ [' '] }
    let column := column + Text.cellsOf part.chars
    let n := (8 - column % 8) % 8
    (part.extendEnd n, column + n)
  else (part, column + Text.cellsOf part.chars)

/-- Replaces each tab by spaces, the line cut into parts that each end with a tab. -/
def expandTabs (line : Styled) : Styled :=
  if !line.chars.contains '\t' then line
  else
    let step (acc : List Styled × Nat) (p : Styled) : List Styled × Nat :=
      let (q, column) := expandPart acc.2 p
      (acc.1 ++ [q], column)
    Styled.join ((line.divide (tabEnds line.chars)).foldl step ([], 0)).1

/-- The words of a line, with their offsets; `fuel` bounds the words. -/
def wordsFrom : Nat → List Char → Nat → List (Nat × List Char)
  | 0, _, _ => []
  | fuel + 1, cs, i =>
    let lead := cs.takeWhile Text.isBlank
    let rest := cs.drop lead.length
    let core := rest.takeWhile (!Text.isBlank ·)
    if core.isEmpty then []
    else
      let after := rest.drop core.length
      let trail := after.takeWhile Text.isBlank
      let w := lead ++ core ++ trail
      (i, w) :: wordsFrom fuel (after.drop trail.length) (i + w.length)

/-- The words of a line, with their offsets. -/
def words (cs : List Char) : List (Nat × List Char) := wordsFrom (cs.length + 1) cs 0

/-- Drops the blanks at the end. -/
def dropTrailingBlanks (cs : List Char) : List Char :=
  (cs.reverse.dropWhile Text.isBlank).reverse

/-- Cuts a text into pieces of at most `width` cells; a cluster wider than the rest of
a piece starts the next. -/
def chopCells (width : Nat) (cs : List Char) : List (List Char) :=
  let step (acc : List (List Char) × Nat) (k : Text.Cluster) :=
    let (pieces, used) := acc
    if used + k.cells > width then (pieces ++ [k.chars], k.cells)
    else match pieces.getLast? with
      | some last => (pieces.dropLast ++ [last ++ k.chars], used + k.cells)
      | none => ([k.chars], k.cells)
  match (Text.clusters cs).foldl step ([[]], 0) with
  | (pieces, _) => pieces

/-- The offsets at which folded pieces of a word start, after the word's own start,
and the cells of the last piece. -/
def foldBreaks (start : Nat) : List (List Char) → List Nat × Nat
  | [] => ([], 0)
  | [last] => ((if start != 0 then [start] else []), Text.cellsOf last)
  | p :: rest =>
    let (bs, w) := foldBreaks (start + p.length) rest
    ((if start != 0 then [start] else []) ++ bs, w)

/-- The offsets at which a line is broken to fit a width. -/
def divideLine (cs : List Char) (width : Nat) (fold : Bool) : List Nat :=
  let step (acc : List Nat × Nat) (word : Nat × List Char) : List Nat × Nat :=
    let (breaks, offset) := acc
    let (start, w) := word
    let len := Text.cellsOf (dropTrailingBlanks w)
    if offset + len ≤ width then (breaks, offset + Text.cellsOf w)
    else if len > width then
      if fold then
        let (bs, last) := foldBreaks start (chopCells width w)
        (breaks ++ bs, last)
      else ((if start != 0 then breaks ++ [start] else breaks), Text.cellsOf w)
    else if offset != 0 && start != 0 then (breaks ++ [start], Text.cellsOf w)
    else (breaks, offset)
  ((words cs).foldl step ([], 0)).1

/-- Removes blanks at the end as far as the line is longer than `width` characters. -/
def trimToWidth (width : Nat) (t : Styled) : Styled :=
  let blanks := (t.chars.reverse.takeWhile Text.isBlank).length
  if t.length > width && blanks > 0 then t.cropRight (min blanks (t.length - width)) else t

/-- A text made exactly `total` cells wide: padded with spaces when it is narrower, and
otherwise its first clusters that fit, padded with spaces to the width. -/
def fitCells (total : Nat) (cs : List Char) : List Char :=
  let len := Text.cellsOf cs
  if total = 0 then []
  else if len == total then cs
  else if len < total then cs ++ List.replicate (total - len) ' '
  else
    let step (acc : List Char × Nat × Bool) (k : Text.Cluster) :=
      let (kept, used, full) := acc
      if full then acc
      else if used + k.cells ≤ total then (kept ++ k.chars, used + k.cells, false)
      else (kept, used, true)
    let (kept, used, _) := (Text.clusters cs).foldl step ([], 0, false)
    kept ++ List.replicate (total - used) ' '

/-- A printed line cut to the console width: a line wider than the width keeps the
clusters that fit, and a wide character cut in half becomes a space. -/
def cropLine (width : Nat) (line : String) : String :=
  if Text.cells line > width then String.ofList (fitCells width line.toList) else line

/-- Cuts a piece to a width; with `pad`, a shorter piece is padded with spaces. -/
def truncate (width : Nat) (overflow : Overflow) (pad : Bool) (t : Styled) : Styled :=
  let len := Text.cellsOf t.chars
  let t := if len > width then
      t.setChars (match overflow with
        | .ellipsis => if width = 0 then ['…'] else fitCells (width - 1) t.chars ++ ['…']
        | .fold => fitCells width t.chars)
    else t
  if pad && len < width then t.padRight (width - len) else t

/-- Aligns a piece in a width. -/
def justifyPiece (width : Nat) (justify : Justify) (overflow : Overflow) (t : Styled) : Styled :=
  match justify with
  | .none => t
  | .left => truncate width overflow true t
  | .center =>
    let t := truncate width overflow false (t.setChars (dropTrailingBlanks t.chars))
    let t := t.padLeft ((width - Text.cellsOf t.chars) / 2)
    t.padRight (width - Text.cellsOf t.chars)

/-- Lays out one line of a text. -/
def wrapLine (width : Nat) (justify : Justify) (overflow : Overflow) (line : Styled) : List Styled :=
  let line := expandTabs line
  (line.divide (divideLine line.chars width (overflow == .fold))).map fun p =>
    truncate width overflow false (justifyPiece width justify overflow (trimToWidth width p))

/-- The offsets around the line feeds of a text. -/
def breakBounds (cs : List Char) : List Nat :=
  (cs.zipIdx.filter (·.1 == '\n')).flatMap fun (_, i) => [i, i + 1]

/-- The lines of a text, split at its line feeds. -/
def splitLines (t : Styled) : List Styled :=
  if !t.chars.contains '\n' then [t]
  else (t.divide (breakBounds t.chars)).filter (·.chars != ['\n'])

/-- Lays out a text in a width: its lines, each cut into pieces that fit. -/
def wrap (width : Nat) (justify : Justify) (overflow : Overflow) (text : Styled) : List Styled :=
  (splitLines text).flatMap (wrapLine width justify overflow)

/-- The lines of a laid out text as printed. -/
def printed (lines : List Styled) : List String := lines.map fun l => String.ofList l.chars

/-- The style definitions that drawing the laid out lines reads, in order. -/
def drawnStyles (lines : List Styled) : List String := lines.flatMap (·.styles)

end AddonCatalog.Console
