import AddonCatalog.Console.Wrap
import AddonCatalog.Console.Markup
/-!
# Tables

A table has an optional title, a header row and body rows of texts. It is drawn with a
heavy-headed box:

* a top edge `┏━┳━┓`, the header row between `┃`, a rule `┡━╇━┩` under the header,
  the body rows between `│`, and a bottom edge `└─┴─┘`;
* every cell has one space of padding on each side, and its text is laid out in the
  rest of the column's width, aligned left, words too long for it cut with `…`; the
  cells of a row are as tall as its tallest cell, header cells aligned to the bottom and
  body cells to the top;
* the title is centred over the table.

Title and cells are marked up, and the markup is read as the table is drawn: first the
cells, column by column, to measure them (only when the columns have room for text at
all), then the title, then the rows, each cell that has room for text in turn; the
styles of a text are read when it is drawn. The first failure ends the drawing. A console
with no width draws nothing.

A column is as wide as its widest cell line plus the padding. When the columns and
the box do not fit in the console width, the widest columns shrink first
(`collapseWidths`): the widest are brought down towards the next widest until the
excess is gone; if that is not enough, every column gives up a share of the excess in
proportion to its width (`reduceByRatio`). Shares are rounded half to even.
-/

namespace AddonCatalog.Console

/-- A table: title, header and rows of marked-up texts. -/
structure Table where
  title : Option String := none
  headers : List String
  rows : List (List String)
deriving Inhabited

/-- `a / b` rounded to the nearest whole number, halves to even. -/
def roundHalfEven (a b : Nat) : Nat :=
  let q := a / b
  let r := a % b
  if 2 * r > b then q + 1 else if 2 * r < b then q else if q % 2 == 0 then q else q + 1

/-- Takes `total` from the values in proportion to the ratios, each value giving at most
its maximum; values whose maximum is zero give nothing. -/
def reduceByRatio (total : Nat) (ratios maximums values : List Nat) : List Nat :=
  let ratios := (ratios.zip maximums).map fun (r, m) => if m == 0 then 0 else r
  let totalRatio := ratios.foldr (· + ·) 0
  if totalRatio == 0 then values
  else
    let step (acc : List Nat × Nat × Nat) (x : Nat × Nat × Nat) :=
      let (out, remaining, ratioLeft) := acc
      let (r, m, v) := x
      if r != 0 && ratioLeft > 0 then
        let d := min m (roundHalfEven (r * remaining) ratioLeft)
        (out ++ [v - d], remaining - d, ratioLeft - r)
      else (out ++ [v], remaining, ratioLeft)
    (((ratios.zip (maximums.zip values)).foldl step ([], total, totalRatio))).1

/-- Shrinks the widest columns until the widths fit `maxWidth` or all are equal;
`fuel` bounds the rounds. -/
def collapseFrom : Nat → Nat → List Nat → List Nat
  | 0, _, widths => widths
  | fuel + 1, maxWidth, widths =>
    let total := widths.foldr (· + ·) 0
    if total == 0 || total ≤ maxWidth then widths
    else
      let excess := total - maxWidth
      let widest := widths.foldl max 0
      let second := widths.foldl (fun acc w => if w != widest then max acc w else acc) 0
      let gap := widest - second
      if gap == 0 then widths
      else
        let ratios := widths.map fun w => if w == widest then 1 else 0
        let limit := min excess gap
        collapseFrom fuel maxWidth (reduceByRatio excess ratios (widths.map fun _ => limit) widths)

/-- Shrinks the widest columns until the widths fit `maxWidth`. -/
def collapseWidths (maxWidth : Nat) (widths : List Nat) : List Nat :=
  collapseFrom ((widths.foldr (· + ·) 0) + 1) maxWidth widths

/-- Whether a character ends a line when a cell is measured: the line feed, the
information separators `\x1c`–`\x1e`, the next-line control and the line and paragraph
separators. The other line breaks never reach a cell. -/
def isLineBreak (c : Char) : Bool :=
  c == '\n' || c == '\x1c' || c == '\x1d' || c == '\x1e' || c == '\x85' ||
    c == '\u2028' || c == '\u2029'

/-- The lines of a text, split at its line breaks. -/
def linesOf (cs : List Char) : List (List Char) :=
  let (first, rest) := cs.foldr (fun c (acc : List Char × List (List Char)) =>
    if isLineBreak c then ([], acc.1 :: acc.2) else (c :: acc.1, acc.2)) ([], [])
  first :: rest

/-- The widest line of a cell, in cells. -/
def cellLineWidth (text : Styled) : Nat :=
  ((linesOf text.chars).map Text.cellsOf).foldl max 0

/-- The width a column asks for in `maxWidth`: its widest line plus padding. -/
def columnWidth (maxWidth : Nat) (cells : List Styled) : Nat :=
  if maxWidth < 1 then 1
  else if maxWidth < 3 then maxWidth
  else
    let widest := (cells.map fun c => min (cellLineWidth c) (maxWidth - 2) + 2).foldl max 0
    let w := min widest maxWidth
    if w == 0 then 1 else w

/-- The room for the columns of `n` columns in a console width: the width less the
edges and dividers. -/
def columnRoom (n width : Nat) : Nat := width - (2 + (n - 1))

/-- The widths of columns of measured cells in the room for them. -/
def columnWidths (maxWidth : Nat) (columns : List (List Styled)) : List Nat :=
  let natural := columns.map (columnWidth maxWidth)
  if (natural.foldr (· + ·) 0) ≤ maxWidth then natural
  else
    let collapsed := collapseWidths maxWidth natural
    if (collapsed.foldr (· + ·) 0) ≤ maxWidth then collapsed
    else reduceByRatio ((collapsed.foldr (· + ·) 0) - maxWidth) (collapsed.map fun _ => 1) collapsed collapsed

/-- The lines of a cell in a column width: the text laid out, each line then made
exactly as wide as the room for it, measured character by character (`fitCells`), and
padded on both sides. A column too narrow for any text has no lines, and its text is
not drawn. -/
def cellLines (width : Nat) (text : Styled) : Except Failure (List String) :=
  if width < 3 then .ok []
  else do
    let lines := wrap (width - 2) .left .ellipsis text
    checkStyles (drawnStyles lines)
    pure ((printed lines).map fun l => " " ++ String.ofList (fitCells (width - 2) l.toList) ++ " ")

/-- The lines of a row, between the given edge and divider. A row is at least one line
tall; shorter cells are filled with blank lines below, or above when `bottom` is set. -/
def rowLines (edge : String) (bottom : Bool) (widths : List Nat) (cells : List Styled) :
    Except Failure (List String) := do
  let rendered ← (widths.zip cells).mapM fun (w, c) => do pure (w, ← cellLines w c)
  let height := (rendered.map (·.2.length)).foldl max 1
  let blank (w : Nat) := String.ofList (List.replicate w ' ')
  let fill (w : Nat) (ls : List String) : List String :=
    if bottom then List.replicate (height - ls.length) (blank w) ++ ls
    else ls ++ List.replicate (height - ls.length) (blank w)
  let columns := rendered.map fun (w, ls) => (w, fill w ls)
  pure ((List.range height).map fun i =>
    edge ++ edge.intercalate (columns.map fun (w, ls) => ls.getD i (blank w)) ++ edge)

/-- A horizontal rule of the box. -/
def rule (left fill divider right : Char) (widths : List Nat) : String :=
  String.ofList ([left] ++ List.intercalate [divider] (widths.map fun w => List.replicate w fill) ++ [right])

/-- The cells of a row, one per column. -/
def Table.cellsOf (n : Nat) (cells : List String) : List String :=
  (List.range n).map fun i => cells.getD i ""

/-- The lines of a table in a console width. -/
def Table.render (t : Table) (width : Nat) : Except Failure (List String) := do
  if width = 0 then return []
  let n := t.headers.length
  let maxWidth := columnRoom n width
  let rows := (t.headers :: t.rows).map (Table.cellsOf n)
  let columns := (List.range n).map fun i => rows.map fun r => r.getD i ""
  let measured ← if maxWidth ≥ 3 then columns.mapM (·.mapM Console.render)
    else pure (columns.map (·.map fun _ => Styled.plain []))
  let widths := columnWidths maxWidth measured
  let tableWidth := (widths.foldr (· + ·) 0) + 2 + (n - 1)
  let title ← match t.title with
    | some s =>
      if s.isEmpty then pure []
      else do
        let lines := wrap tableWidth .center .fold (← Console.render s)
        checkStyles (drawnStyles lines)
        pure (printed lines)
    | none => pure []
  let styledRows := (List.range rows.length).map fun j => measured.map fun col => col.getD j (Styled.plain [])
  match styledRows with
  | header :: body =>
    let headerLines ← rowLines "┃" true widths header
    let bodyLines ← body.mapM (rowLines "│" false widths)
    pure (title ++ [rule '┏' '━' '┳' '┓' widths] ++ headerLines ++
      [rule '┡' '━' '╇' '┩' widths] ++ bodyLines.flatten ++ [rule '└' '─' '┴' '┘' widths])
  | [] => pure title

end AddonCatalog.Console
