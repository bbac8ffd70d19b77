/-!
# Close matches

An unknown long option or command is answered with the known ones that resemble it. Two texts
resemble each other when their similarity `2·M / (|a| + |b|)` is at least `0.6`, where
`M` counts the characters of their matching blocks: the longest common block (the
first one, scanning `a` and then `b`), then recursively the matching blocks on its left
and on its right. At most three suggestions are kept, the most similar first, ties
going to the larger text.
-/

namespace AddonCatalog.Cli

/-- The longest common block of `a[alo..ahi)` and `b[blo..bhi)`: its start in `a`, its
start in `b`, and its length; the first found wins ties. -/
def longestBlock (a b : List Char) (alo ahi blo bhi : Nat) : Nat × Nat × Nat :=
  let rowStep (acc : List Nat × (Nat × Nat × Nat)) (i : Nat) :=
    let (prev, best) := acc
    let ai := a.getD i ' '
    let cells := (List.range b.length).map fun j =>
      if blo ≤ j && j < bhi && b.getD j ' ' == ai then
        (if j > blo then prev.getD (j - 1) 0 else 0) + 1
      else 0
    let best := ((List.range b.length).zip cells).foldl (fun (bi, bj, bk) (j, k) =>
      if k > bk then (i + 1 - k, j + 1 - k, k) else (bi, bj, bk)) best
    (cells, best)
  ((List.range (ahi - alo)).map (· + alo) |>.foldl rowStep ((List.range b.length).map fun _ => 0, (alo, blo, 0))).2

/-- The number of characters in the matching blocks of two ranges; `fuel` bounds the
depth. -/
def matchedFrom (a b : List Char) : Nat → Nat → Nat → Nat → Nat → Nat
  | 0, _, _, _, _ => 0
  | fuel + 1, alo, ahi, blo, bhi =>
    let (i, j, k) := longestBlock a b alo ahi blo bhi
    if k == 0 then 0
    else
      k + (if alo < i && blo < j then matchedFrom a b fuel alo i blo j else 0) +
        (if i + k < ahi && j + k < bhi then matchedFrom a b fuel (i + k) ahi (j + k) bhi else 0)

/-- The characters two texts have in matching blocks. -/
def matched (a b : String) : Nat :=
  matchedFrom a.toList b.toList (a.length + 1) 0 a.length 0 b.length

/-- Whether two texts are similar enough: `2·M / (|a| + |b|) ≥ 0.6`. -/
def resembles (candidate word : String) : Bool :=
  10 * matched candidate word ≥ 3 * (candidate.length + word.length)

/-- Whether the first scored candidate ranks before the second: higher similarity,
then the larger text. -/
def ranksBefore (x y : Nat × Nat × String) : Bool :=
  let (mx, tx, sx) := x
  let (my, ty, sy) := y
  mx * ty > my * tx || (mx * ty == my * tx && decide (sy < sx))

/-- The known texts that resemble a word, at most three, the best first. -/
def closeMatches (word : String) (known : List String) : List String :=
  let scored := (known.filter (resembles · word)).map fun c =>
    (matched c word, c.length + word.length, c)
  ((scored.mergeSort ranksBefore).take 3).map (·.2.2)

end AddonCatalog.Cli
