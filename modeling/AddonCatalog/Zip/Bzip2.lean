import AddonCatalog.Zip.Streamed
/-!
# Decoding bzip2 streams

A bzip2 stream is read bit by bit, most significant bit of each byte first:

1. the header `BZh` and a level digit `1`–`9`; a block holds at most 100000 bytes per
   level before its runs are expanded;
2. blocks, each after the six bytes `31 41 59 26 53 59`: its check value, a flag bit,
   the 24-bit start of the sorting cycle, the bytes in use (16 bits for groups of 16,
   then 16 bits for each group in use), the number of code tables (2 to 6) and of
   selectors (at least one), each selector in unary (less than the number of tables) and
   moved to the front, the code lengths of each table (a 5-bit start, then steps of ±1
   while a `1` bit comes, each length between 1 and 20), and then the symbols, each
   decoded with the table its selector names for its group of 50. Symbols 0 and 1 write
   runs of the front byte in bijective base 2, the last symbol ends the block, and the
   others move a byte to the front and write it;
3. the end: the six bytes `17 72 45 38 50 90` and the check value of the whole stream,
   which combines those of the blocks.

A block's bytes are put back in order by following the sorting cycle from its start, and
runs of four equal bytes are then followed by a count of more. The check values are the
CRC-32 of the bytes written, most significant bit first; a block's is checked when it is
written, the stream's at the end.

Any check that fails breaks the stream, which fails with `Invalid data stream`. Bytes
that end before the stream does leave it wanting more, having written the blocks that
were complete. A block marked as randomised is read as any other.

* `Zip.Bzip2.decode` decodes the bytes handed over so far.
-/

namespace AddonCatalog.Zip.Bzip2

/-- Why reading stops: the bytes end first, or the stream is broken. -/
inductive Halt where
  | short
  | broken

/-- Reading from the bytes at a bit position. -/
abbrev Read := ReaderT ByteArray (StateT Nat (Except Halt))

/-- The next bit. -/
def bit : Read Nat := do
  let src ← read
  let pos ← get
  match src[pos / 8]? with
  | some b =>
    set (pos + 1)
    pure ((b.toNat >>> (7 - pos % 8)) % 2)
  | none => throw .short

/-- The next `n` bits, the first the most significant. -/
def bits : Nat → Read Nat
  | 0 => pure 0
  | n + 1 => do
    let high ← bits n
    let b ← bit
    pure (2 * high + b)

/-- Fails unless the condition holds. -/
def ensure (c : Bool) : Read Unit := if c then pure () else throw .broken

/-- Reads a byte that must have a value. -/
def expectByte (b : Nat) : Read Unit := do ensure ((← bits 8) == b)

/-- A unary number below `limit`: `1` bits ended by a `0`. -/
def unary (limit : Nat) : Nat → Nat → Read Nat
  | 0, j => pure j
  | fuel + 1, j => do
    if (← bit) == 0 then pure j
    else
      ensure (j + 1 < limit)
      unary limit fuel (j + 1)

/-- A code length after `curr`: steps of one up (`10`) or down (`11`) until a `0` bit,
each length on the way between 1 and 20. -/
def codeLength : Nat → Int → Read Int
  | 0, _ => throw .short
  | fuel + 1, curr => do
    ensure (1 ≤ curr && curr ≤ 20)
    if (← bit) == 0 then pure curr
    else if (← bit) == 0 then codeLength fuel (curr + 1)
    else codeLength fuel (curr - 1)

/-- The bits left to read. -/
def bitsLeft : Read Nat := do pure (8 * (← read).size - (← get))

/-- A code table for decoding: the shortest length, and for each length the last code
of that length (`limit`), the offset of its first symbol (`base`), and the symbols by
length and then by value (`perm`). -/
structure Table where
  minLen : Nat
  limit : Array Int
  base : Array Int
  perm : Array Nat

/-- The table of a code with the given lengths. -/
def Table.ofLengths (lens : List Nat) : Table :=
  let minLen := lens.foldl min 32
  let maxLen := lens.foldl max 0
  let span := (List.range (maxLen + 1 - minLen)).map (· + minLen)
  let perm := span.flatMap fun l => (lens.zipIdx.filter (·.1 == l)).map (·.2)
  let counts := lens.foldl (fun (b : Array Int) l => b.modify (l + 1) (· + 1)) (Array.replicate 23 0)
  let cumulative := (List.range 22).foldl (fun (b : Array Int) i =>
    b.set! (i + 1) (b.getD (i + 1) 0 + b.getD i 0)) counts
  let (limit, _) := span.foldl (fun (acc : Array Int × Int) i =>
    let vec := acc.2 + (cumulative.getD (i + 1) 0 - cumulative.getD i 0)
    (acc.1.set! i (vec - 1), 2 * vec)) (Array.replicate 23 0, 0)
  let base := (span.drop 1).foldl (fun (b : Array Int) i =>
    b.set! i (2 * (limit.getD (i - 1) 0 + 1) - b.getD i 0)) cumulative
  { minLen, limit, base, perm := perm.toArray }

/-- Decodes a symbol whose code so far is `zvec`, of length `zn`. -/
def Table.search (t : Table) : Nat → Nat → Nat → Read Nat
  | 0, _, _ => throw .broken
  | fuel + 1, zn, zvec => do
    ensure (zn ≤ 20)
    if (zvec : Int) ≤ t.limit.getD zn 0 then
      let i := (zvec : Int) - t.base.getD zn 0
      ensure (0 ≤ i && i < 258)
      pure (t.perm.getD i.toNat 0)
    else
      let b ← bit
      t.search fuel (zn + 1) (2 * zvec + b)

/-- Decodes a symbol. -/
def Table.decode (t : Table) : Read Nat := do
  let zvec ← bits t.minLen
  t.search 22 t.minLen zvec

/-- Moves the entry at `i` to the front; answers it and the new order. -/
def toFront (order : List Nat) (i : Nat) : Nat × List Nat :=
  let v := order.getD i 0
  (v, v :: order.eraseIdx i)

/-- The state of decoding a block's symbols. -/
structure Symbols where
  /-- The selectors left for the groups to come. -/
  selectors : List Nat
  /-- The table of the current group, and how many of its symbols are left. -/
  current : Option Table := none
  groupLeft : Nat := 0
  /-- The bytes in use, by their place in the front order. -/
  order : List Nat
  /-- The block so far. -/
  block : Array Nat := #[]

/-- Decodes the next symbol, moving to the next group of 50 when one is used up. -/
def Symbols.next (tables : Array Table) (s : Symbols) : Read (Nat × Symbols) := do
  let (t, s) ← if s.groupLeft = 0 then
      match s.selectors with
      | g :: rest =>
        let t := tables.getD g { minLen := 1, limit := #[], base := #[], perm := #[] }
        pure (t, { s with selectors := rest, current := some t, groupLeft := 50 })
      | [] => throw .broken
    else
      match s.current with
      | some t => pure (t, s)
      | none => throw .broken
  let sym ← t.decode
  pure (sym, { s with groupLeft := s.groupLeft - 1 })

/-- The number a run of symbols 0 and 1 stands for, from `sym` on with weight `n`;
answers it and the symbol after the run. -/
def runLength (tables : Array Table) : Nat → Nat → Nat → Nat → Symbols → Read (Nat × Nat × Symbols)
  | 0, _, _, _, _ => throw .short
  | fuel + 1, sym, n, acc, s => do
    ensure (n < 2 * 1024 * 1024)
    let acc := acc + (sym + 1) * n
    let (next, s) ← s.next tables
    if next ≤ 1 then runLength tables fuel next (2 * n) acc s
    else pure (acc, next, s)

/-- Decodes the symbols of a block from `sym` until the end symbol `eob`, with room for
`most` bytes; `inUse` maps places in the front order to bytes. -/
def symbolsFrom (tables : Array Table) (inUse : Array Nat) (eob most : Nat) :
    Nat → Nat → Symbols → Read Symbols
  | 0, _, _ => throw .short
  | fuel + 1, sym, s =>
    if sym == eob then pure s
    else if sym ≤ 1 then do
      let (count, next, s) ← runLength tables (fuel + 1) sym 1 0 s
      ensure (s.block.size + count ≤ most)
      let b := inUse.getD (s.order.headD 0) 0
      symbolsFrom tables inUse eob most fuel next
        { s with block := s.block ++ Array.replicate count b }
    else do
      ensure (s.block.size < most)
      let (v, order) := toFront s.order (sym - 1)
      let (next, s) ← { s with order, block := s.block.push (inUse.getD v 0) }.next tables
      symbolsFrom tables inUse eob most fuel next s

/-- The links of the sorting cycle of a block: for each place, the next place. -/
def links (block : Array Nat) : Array Nat :=
  let counts := block.foldl (fun (c : Array Nat) b => c.modify b (· + 1)) (Array.replicate 256 0)
  let starts := (counts.toList.foldl (fun (acc : List Nat × Nat) c => (acc.1 ++ [acc.2], acc.2 + c))
    ([], 0)).1.toArray
  let step (acc : Array Nat × Array Nat) (x : Nat × Nat) :=
    let (next, starts) := acc
    let (b, i) := x
    let j := starts.getD b 0
    (next.set! j i, starts.modify b (· + 1))
  (block.toList.zipIdx.foldl step (Array.replicate block.size 0, starts)).1

/-- The byte at a place of the cycle, and the place after it. -/
def follow (block next : Array Nat) (t : Nat) : Option (Nat × Nat) := do
  let b ← block[t]?
  let n ← next[t]?
  pure (b, n)

/-- Writes a block of `n` bytes along its cycle, expanding runs: `used` bytes have been
read, `k0` is the byte in hand and `t` the place of the next. Fails when the count of a
run reaches beyond the block. -/
def expand (block next : Array Nat) (n : Nat) : Nat → Nat → Nat → Nat → ByteArray → Option ByteArray
  | 0, _, _, _, out => some out
  | fuel + 1, used, k0, t, out =>
    if used > n + 1 then none
    else if used == n + 1 then some out
    else do
      let emit (k : Nat) (o : ByteArray) : ByteArray :=
        (List.replicate k k0.toUInt8).foldl ByteArray.push o
      let (k1, t) ← follow block next t
      if k1 != k0 then expand block next n fuel (used + 1) k1 t (emit 1 out)
      else if used + 1 == n + 1 then expand block next n fuel (used + 1) k0 t (emit 1 out)
      else
        let (k1, t) ← follow block next t
        if used + 2 == n + 1 then expand block next n fuel (used + 2) k0 t (emit 2 out)
        else if k1 != k0 then expand block next n fuel (used + 2) k1 t (emit 2 out)
        else
          let (k1, t) ← follow block next t
          if used + 3 == n + 1 then expand block next n fuel (used + 3) k0 t (emit 3 out)
          else if k1 != k0 then expand block next n fuel (used + 3) k1 t (emit 3 out)
          else
            let (count, t) ← follow block next t
            let (k1, t) ← follow block next t
            expand block next n fuel (used + 5) k1 t (emit (count + 4) out)

/-- The CRC-32 of bytes, most significant bit first, after `crc`. -/
def crcUpdate (crc : UInt32) (b : UInt8) : UInt32 :=
  (List.range 8).foldl (fun c _ => if c &&& 0x80000000 != 0 then (c <<< 1) ^^^ 0x04c11db7 else c <<< 1)
    (crc ^^^ (b.toUInt32 <<< 24))

/-- The check value of bytes. -/
def checkValue (bs : ByteArray) : UInt32 := ~~~(bs.foldl crcUpdate 0xffffffff)

/-- Reads a block after its six bytes, at `level`: its bytes, written. -/
def readBlock (level : Nat) : Read ByteArray := do
  let stored ← bits 32
  let _ ← bit
  let origin ← bits 24
  ensure (origin ≤ 10 + 100000 * level)
  let groups ← bits 16
  let mut inUse : Array Nat := #[]
  for i in [0:16] do
    if (groups >>> (15 - i)) % 2 == 1 then
      let m ← bits 16
      for j in [0:16] do
        if (m >>> (15 - j)) % 2 == 1 then inUse := inUse.push (16 * i + j)
  ensure (inUse.size > 0)
  let alphaSize := inUse.size + 2
  let nTables ← bits 3
  ensure (2 ≤ nTables && nTables ≤ 6)
  let nSelectors ← bits 15
  ensure (nSelectors ≥ 1)
  let mut moved : Array Nat := #[]
  for i in [0:nSelectors] do
    let j ← unary nTables (nTables + 1) 0
    if i < 18002 then moved := moved.push j
  let (selectors, _) := moved.foldl (fun (acc : Array Nat × List Nat) v =>
    let (g, order) := toFront acc.2 v
    (acc.1.push g, order)) (#[], List.range nTables)
  let mut tables : Array Table := #[]
  for _ in [0:nTables] do
    let mut curr : Int := (← bits 5)
    let mut lens : Array Nat := #[]
    for _ in [0:alphaSize] do
      curr ← codeLength ((← bitsLeft) + 1) curr
      lens := lens.push curr.toNat
    tables := tables.push (Table.ofLengths lens.toList)
  let s : Symbols := { selectors := selectors.toList, order := List.range 256 }
  let (first, s) ← s.next tables
  let s ← symbolsFrom tables inUse (inUse.size + 1) (100000 * level) ((← bitsLeft) + 2) first s
  let block := s.block
  ensure (origin < block.size)
  let next := links block
  let some (k0, t) := follow block next (next.getD origin 0) | throw .broken
  let some out := expand block next block.size (block.size + 3) 1 k0 t ByteArray.empty | throw .broken
  ensure ((checkValue out).toNat == stored)
  pure out

/-- What follows in a stream: a block's bytes, or the end with the stream's check value. -/
inductive Part where
  | block (bytes : ByteArray)
  | finish (stored : Nat)

/-- Reads the next part of a stream. -/
def readPart (level : Nat) : Read Part := do
  let b ← bits 8
  if b == 0x17 then
    for m in [0x72, 0x45, 0x38, 0x50, 0x90] do expectByte m
    pure (.finish (← bits 32))
  else
    ensure (b == 0x31)
    for m in [0x41, 0x59, 0x26, 0x53, 0x59] do expectByte m
    pure (.block (← readBlock level))

/-- Reads the header of a stream: its level. -/
def readHeader : Read Nat := do
  expectByte 0x42
  expectByte 0x5a
  expectByte 0x68
  let level ← bits 8
  ensure (0x31 ≤ level && level ≤ 0x39)
  pure (level - 0x30)

/-- Reads parts from bit `pos` on, after `out` with combined check value `combined`. -/
def parts (src : ByteArray) (level : Nat) : Nat → Nat → UInt32 → ByteArray → Decoding
  | 0, _, _, out => { written := out, progress := .wants }
  | fuel + 1, pos, combined, out =>
    match ((readPart level).run src).run pos with
    | .error .short => { written := out, progress := .wants }
    | .error .broken => { written := out, progress := .failed ⟨.os, "Invalid data stream"⟩ }
    | .ok (.finish stored, _) =>
      if stored == combined.toNat then { written := out, progress := .ended }
      else { written := out, progress := .failed ⟨.os, "Invalid data stream"⟩ }
    | .ok (.block bytes, pos) =>
      let crc := checkValue bytes
      parts src level fuel pos (((combined <<< 1) ||| (combined >>> 31)) ^^^ crc) (out ++ bytes)

/-- Decodes the bytes of a bzip2 stream handed over so far. -/
def decode (src : ByteArray) : Decoding :=
  match (readHeader.run src).run 0 with
  | .error .short => { written := ByteArray.empty, progress := .wants }
  | .error .broken => { written := ByteArray.empty, progress := .failed ⟨.os, "Invalid data stream"⟩ }
  | .ok (level, pos) => parts src level (src.size + 1) pos 0 ByteArray.empty

end AddonCatalog.Zip.Bzip2
