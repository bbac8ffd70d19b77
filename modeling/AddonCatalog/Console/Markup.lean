import AddonCatalog.Console.Emoji
import AddonCatalog.Console.Style
import AddonCatalog.Console.Styled
import AddonCatalog.Literal.Eval
import AddonCatalog.Text.Alnum
/-!
# Console markup

Console texts carry style tags in square brackets, such as `[bold]` and `[/bold]`.
A tag is a `[`, a lower-case letter or one of `# / @`, then anything up to the next
`]` with no `[` on the way. Rendering removes the tags and keeps the text:

* a tag preceded by an odd number of backslashes is text: half of the backslashes
  stay, and the tag is kept as written; an even number of backslashes before a tag
  halves and the tag stays a tag;
* `\[` outside a tag reads `[`, and emoji codes such as `:rocket:` become their emoji
  (`replaceEmoji`);
* a closing tag `[/name]` closes the innermost open tag whose style has the same normal
  form (`normalizeStyle`: `[/b]` closes `[bold]`), and `[/]` the innermost open tag;
  closing what is not open is a markup error;
* the control characters bell, backspace, vertical tab, form feed and carriage return
  are dropped.

The text keeps the stretches the tags covered, as spans of their style definitions (the
normal form of the tag's name, then its parameters), ordered by where they start and,
among those that start together, the last made first. A tag still open at the end
covers the rest of the text. A handler tag, whose name starts with `@`, sets no style:
its parameters, when it has any, must be a literal value after the handler's name
(`checkHandler`, `splitHandler`), and are checked when the tag is closed.

`escape` protects a text so that rendering gives it back: every tag-like bracket gets
a backslash.
-/

namespace AddonCatalog.Console

/-- Whether a character may follow the `[` of a tag. -/
def opensTag (c : Char) : Bool := ('a' ≤ c && c ≤ 'z') || c == '#' || c == '/' || c == '@'

/-- A tag found at the start of a text: its backslashes, the text inside the
brackets, and what follows. -/
def tagAt (cs : List Char) : Option (Nat × List Char × List Char) :=
  let slashes := (cs.takeWhile (· == '\\')).length
  match cs.drop slashes with
  | '[' :: c :: rest =>
    if opensTag c then
      let body := rest.takeWhile fun d => d != '[' && d != ']'
      match rest.drop body.length with
      | ']' :: after => some (slashes, c :: body, after)
      | _ => none
    else none
  | _ => none

/-- A piece of a marked-up text. -/
inductive Piece where
  | text (s : String)
  /-- A tag, with its name, its parameters after `=`, and where it starts. -/
  | tag (name : String) (params : Option String) (position : Nat)
deriving Inhabited

/-- Cuts a text at its first `=`. -/
def partitionEq (cs : List Char) : String × Option String :=
  match cs.findIdx? (· == '=') with
  | some i => (String.ofList (cs.take i), some (String.ofList (cs.drop (i + 1))))
  | none => (String.ofList cs, none)

/-- The pieces of a text from position `i`; `pending` is the text read since the last
piece, last character first. `fuel` bounds the characters read. -/
def piecesFrom : Nat → List Char → Nat → List Char → List Piece
  | 0, _, _, _ => []
  | _ + 1, [], _, pending => if pending.isEmpty then [] else [.text (String.ofList pending.reverse)]
  | fuel + 1, c :: rest, i, pending =>
    match tagAt (c :: rest) with
    | some (k, inner, after) =>
      let before := if pending.isEmpty then [] else [Piece.text (String.ofList pending.reverse)]
      let pairs := k / 2
      let kept := if pairs > 0 then [Piece.text (String.ofList (List.replicate pairs '\\'))] else []
      let start := i + 2 * pairs
      let next := i + k + inner.length + 2
      let this := if k % 2 == 1 then Piece.text ("[" ++ String.ofList inner ++ "]")
        else let (n, p) := partitionEq inner; Piece.tag n p start
      before ++ kept ++ [this] ++ piecesFrom fuel after next []
    | none => piecesFrom fuel rest (i + 1) (c :: pending)

/-- The pieces of a marked-up text. -/
def pieces (s : String) : List Piece := piecesFrom (s.length + 1) s.toList 0 []

/-- Drops the control characters a console text never holds. -/
def stripControls (s : String) : String :=
  String.ofList (s.toList.filter fun c => !(c.toNat == 7 || c.toNat == 8 || c.toNat == 11 ||
    c.toNat == 12 || c.toNat == 13))

/-- The text of a tag as written. -/
def tagMarkup (name : String) (params : Option String) : String :=
  match params with
  | some p => "[" ++ name ++ "=" ++ p ++ "]"
  | none => "[" ++ name ++ "]"

/-- A tag opened and not yet closed: where it starts in the text, the normal form of its
name, and its parameters. -/
structure OpenTag where
  start : Nat
  name : String
  params : Option String

/-- The style definition of a tag: its name, then its parameters. -/
def OpenTag.style (t : OpenTag) : String :=
  match t.params with
  | some p => t.name ++ " " ++ p
  | none => t.name

/-- Takes the innermost open tag of a name out of the open tags. -/
def takeNamed (name : String) : List OpenTag → Option (OpenTag × List OpenTag)
  | [] => none
  | t :: rest =>
    if t.name == name then some (t, rest)
    else (takeNamed name rest).map fun (found, others) => (found, t :: others)

/-- Whether a character may be part of a handler's name: a word character or a dot. -/
def isHandlerNameChar (c : Char) : Bool := Text.isAlnum c || c == '_' || c == '.'

/-- Whether a text ends here for a handler's parameters: nothing, or one line end. -/
def atParamsEnd (cs : List Char) : Bool := cs.isEmpty || cs == ['\n']

/-- The argument list that a text after a handler's name is, if it is one: `(`, the
fewest characters other than a line end, and `)`, with only the end after it. The `)`
has only the end, or one line end, after it, so it is the last `)` of the text, and the
characters before it must hold no line end. -/
def handlerArgs? : List Char → Option (List Char)
  | '(' :: rest =>
    let body := if rest.getLast? == some '\n' then rest.dropLast else rest
    if body.getLast? == some ')' && !body.contains '\n' then some ('(' :: body) else none
  | _ => none

/-- Splits the parameters of a handler tag into the handler's name and its arguments:
the shortest run of word characters and dots after which the rest is an argument list,
or nothing; the arguments are `()` when there are none. `none` when no run does. A
shorter run than the whole leading run leaves a word character or a dot in front,
which starts neither an argument list nor the end, so only the whole run can do. -/
def splitHandler (cs : List Char) : Option (List Char × List Char) :=
  let names := cs.takeWhile isHandlerNameChar
  let rest := cs.drop names.length
  match handlerArgs? rest with
  | some args => some (names, args)
  | none => if atParamsEnd rest then some (names, "()".toList) else none

/-- Checks the parameters of a handler tag: trimmed, and without the handler's name when
they split into a name and arguments (`splitHandler`), they must be a literal value. A
syntax error names the text read and the parameters; another failure names the
parameters. -/
def checkHandler (params : String) : Except Failure Unit :=
  let trimmed := Text.trim params
  let rest := match splitHandler trimmed.toList with
    | some (_, args) => String.ofList args
    | none => trimmed
  match Literal.check rest with
  | .ok () => .ok ()
  | .error (.syntaxError m) =>
    .error ⟨.markup, "error parsing " ++ Text.quote rest ++ " in " ++ Text.quote params ++ "; " ++ m⟩
  | .error (.other m) => .error ⟨.markup, "error parsing " ++ Text.quote params ++ "; " ++ m⟩

/-- What rendering has made so far: the text, the open tags (innermost first), and the
spans, the last made first. -/
structure Rendering where
  chars : Array Char := #[]
  openTags : List OpenTag := []
  spans : List Span := []

/-- The text of a text piece as it appears: `\[` reads `[`, emoji codes become emoji, and
control characters go. -/
def pieceText (s : String) : List Char :=
  (stripControls (replaceEmoji (s.replace "\\[" "["))).toList

/-- Closes an open tag at the end of the text so far: a handler's parameters are
checked, and any other tag leaves a span of its style. -/
def Rendering.close (r : Rendering) (t : OpenTag) : Except Failure Rendering :=
  if t.name.startsWith "@" then do
    match t.params with
    | some p => if !p.isEmpty then checkHandler p
    | none => pure ()
    pure r
  else pure { r with spans := ⟨t.start, r.chars.size, t.style⟩ :: r.spans }

/-- Renders pieces after what is rendered so far. -/
def renderPieces : List Piece → Rendering → Except Failure Rendering
  | [], r => .ok r
  | .text s :: rest, r => renderPieces rest { r with chars := r.chars ++ (pieceText s).toArray }
  | .tag name params position :: rest, r =>
    if name.startsWith "/" then do
      let closing := Text.trim (String.ofList (name.toList.drop 1))
      let (t, others) ← if closing.isEmpty then
          match r.openTags with
          | t :: others => pure (t, others)
          | [] => throw ⟨.markup, "closing tag '[/]' at position " ++ toString position ++
              " has nothing to close"⟩
        else do
          let closing ← normalizeStyle closing
          match takeNamed closing r.openTags with
          | some found => pure found
          | none => throw ⟨.markup, "closing tag '" ++ tagMarkup name params ++ "' at position " ++
              toString position ++ " doesn't match any open tag"⟩
      let r ← Rendering.close { r with openTags := others } t
      renderPieces rest r
    else do
      let opened ← normalizeStyle name
      renderPieces rest { r with openTags := ⟨r.chars.size, opened, params⟩ :: r.openTags }

/-- The styled text of a rendering: the tags still open cover the rest of the text, the
innermost first, and the spans are ordered by their start, the last made first among
those that start together. -/
def Rendering.finish (r : Rendering) : Styled :=
  let spans := r.openTags.foldl (fun acc t =>
    if t.style.isEmpty then acc else ⟨t.start, r.chars.size, t.style⟩ :: acc) r.spans
  { chars := r.chars.toList, spans := spans.mergeSort fun a b => a.start ≤ b.start }

/-- The styled text of a marked-up text. -/
def render (s : String) : Except Failure Styled :=
  (renderPieces (pieces s) {}).map Rendering.finish

/-- Protects every tag-like bracket of a text; `fuel` bounds the characters read. -/
def escapeFrom : Nat → List Char → List Char
  | 0, _ => []
  | _ + 1, [] => []
  | fuel + 1, c :: rest =>
    match tagAt (c :: rest) with
    | some (k, inner, after) =>
      List.replicate (2 * k) '\\' ++ ['\\', '['] ++ inner ++ [']'] ++ escapeFrom fuel after
    | none => c :: escapeFrom fuel rest

/-- Protects a text from markup: rendering the result gives the text back. -/
def escape (s : String) : String :=
  let e := String.ofList (escapeFrom (s.length + 1) s.toList)
  if e.endsWith "\\" && !e.endsWith "\\\\" then e ++ "\\" else e

end AddonCatalog.Console
