import AddonCatalog.Zip.Streamed
/-!
# Decoding LZMA members

An LZMA member starts with four bytes, a version and the size of the properties (two
bytes, least significant first), then the properties and the LZMA stream. The decoder
starts once it has more bytes than that; until then it wants more. The properties are
five bytes: `(pb * 5 + lp) * 9 + lc`, at most 224 with `lc + lp` at most 4, and the size
of the dictionary. Other properties fail with `Invalid or unsupported options`.

The stream is read by a range decoder: a first byte `0`, four bytes of code, and then
bits, each decoded with an adaptive probability (`bitAt`) or directly, a byte read
whenever the range falls below `2^24`. It is a sequence of

* literals, decoded with the probabilities of the position's low `lp` bits and the high
  `lc` bits of the byte before, and after a match also guided by the byte at the last
  distance;
* matches of 2 to 273 bytes at a distance decoded from a slot and extra bits, which must
  lie within what was written and within the dictionary (its size, 4096 at least,
  rounded up to a multiple of 16);
* repeats of one of the last four distances, which need something written before.

The distance `2^32 - 1` marks the end; after one more byte read when the range asks for
it, the code must be zero. Any of these checks that fails is `Corrupt input data`. Bytes
that end in the middle of a literal or a match leave the decoder wanting more, having
written what came before it.

* `Zip.Lzma.decodeMember` decodes the bytes of a member handed over so far.
-/

namespace AddonCatalog.Zip.Lzma

/-- Why decoding stops: the bytes end first, or the stream is broken. -/
inductive Halt where
  | short
  | broken

/-- Where the groups of probabilities start. -/
def isMatchAt : Nat := 0
def isRepAt : Nat := 192
def isRepG0At : Nat := 204
def isRepG1At : Nat := 216
def isRepG2At : Nat := 228
def isRep0LongAt : Nat := 240
def posSlotAt : Nat := 432
def posSpecialAt : Nat := 688
def alignAt : Nat := 802
def matchLenAt : Nat := 818
def repLenAt : Nat := 1332
def literalAt : Nat := 1846

/-- The properties of a stream. -/
structure Params where
  lc : Nat
  lp : Nat
  pb : Nat
  dictSize : Nat

/-- The properties of five bytes, if they are valid. -/
def Params.ofBytes (props : ByteArray) : Option Params :=
  if props.size != 5 then none
  else
    let b := (props[0]?.getD 0).toNat
    let pb := b / 45
    let lp := (b % 45) / 9
    let lc := b % 9
    let dictSize := (List.range 4).foldr (fun i acc => 256 * acc + (props[i + 1]?.getD 0).toNat) 0
    if b > 224 || lc + lp > 4 then none else some { lc, lp, pb, dictSize }

/-- The size of the dictionary a stream is decoded with. -/
def Params.window (p : Params) : Nat := (max p.dictSize 4096 + 15) / 16 * 16

/-- The state of the decoder. -/
structure Decoder where
  pos : Nat
  range : UInt32
  code : UInt32
  probs : Array UInt32
  out : ByteArray := ByteArray.empty
  state : Nat := 0
  rep0 : Nat := 0
  rep1 : Nat := 0
  rep2 : Nat := 0
  rep3 : Nat := 0

/-- Decoding the bytes of a stream. -/
abbrev Dec := ReaderT ByteArray (StateT Decoder (Except Halt))

/-- Reads a byte into the code when the range has become small. -/
def normalize : Dec Unit := do
  if (← get).range < 0x1000000 then
    match (← read)[(← get).pos]? with
    | some b => modify fun d =>
      { d with range := d.range <<< 8, code := (d.code <<< 8) ||| b.toUInt32, pos := d.pos + 1 }
    | none => throw .short

/-- Decodes a bit with the probability at `i`, and adapts it. -/
def bitAt (i : Nat) : Dec Nat := do
  normalize
  modifyGet fun d =>
    let p : UInt32 := d.probs.getD i 1024
    let bound : UInt32 := d.range / 2048 * p
    if d.code < bound then (0, { d with range := bound, probs := d.probs.set! i (p + (2048 - p) / 32) })
    else (1, { d with range := d.range - bound, code := d.code - bound, probs := d.probs.set! i (p - p / 32) })

/-- Decodes `n` bits directly, after `acc`. -/
def directBits : Nat → Nat → Dec Nat
  | 0, acc => pure acc
  | n + 1, acc => do
    normalize
    let b ← modifyGet fun d =>
      let range : UInt32 := d.range / 2
      let code : UInt32 := d.code - range
      let mask : UInt32 := 0 - code / 0x80000000
      ((mask + 1).toNat, { d with range, code := code + (range &&& mask) })
    directBits n (2 * acc + b)

/-- Decodes the bits of a tree of probabilities at `base`, from node `m`. -/
def treeFrom (base : Nat) : Nat → Nat → Dec Nat
  | 0, m => pure m
  | n + 1, m => do
    let b ← bitAt (base + m)
    treeFrom base n (2 * m + b)

/-- Decodes `n` bits with the tree at `base`, the first the most significant. -/
def tree (base n : Nat) : Dec Nat := do pure ((← treeFrom base n 1) - Nat.pow 2 n)

/-- Decodes bits with the tree at `base`, the first the least significant; `i` is the
place of the next bit, `m` the node. -/
def reverseTree (base : Nat) : Nat → Nat → Nat → Nat → Dec Nat
  | 0, _, _, sym => pure sym
  | n + 1, i, m, sym => do
    let b ← bitAt (base + m)
    reverseTree base n (i + 1) (2 * m + b) (sym ||| (b <<< i))

/-- Decodes a length with the length probabilities at `base`. -/
def length (base posState : Nat) : Dec Nat := do
  if (← bitAt base) == 0 then pure (2 + (← tree (base + 2 + 8 * posState) 3))
  else if (← bitAt (base + 1)) == 0 then pure (10 + (← tree (base + 130 + 8 * posState) 3))
  else pure (18 + (← tree (base + 258) 8))

/-- Decodes the distance of a match of length `len`. -/
def distance (len : Nat) : Dec Nat := do
  let slot ← tree (posSlotAt + 64 * min (len - 2) 3) 6
  if slot < 4 then pure slot
  else
    let direct := slot / 2 - 1
    let dist := (2 + slot % 2) <<< direct
    if slot < 14 then pure (dist + (← reverseTree (posSpecialAt + dist - slot - 1) direct 0 1 0))
    else
      let high ← directBits (direct - 4) 0
      let low ← reverseTree alignAt 4 0 1 0
      pure (dist + (high <<< 4) + low)

/-- Decodes a literal guided by `matchByte`, from node `sym`; `offs` tells whether the
bits so far agree with it. -/
def matchedLiteral (base : Nat) : Nat → Nat → Nat → Nat → Dec Nat
  | 0, _, _, sym => pure (sym - 0x100)
  | fuel + 1, matchByte, offs, sym =>
    if sym ≥ 0x100 then pure (sym - 0x100)
    else do
      let matchByte := 2 * matchByte
      let agreeing := offs
      let offs := offs &&& matchByte
      let b ← bitAt (base + offs + agreeing + sym)
      matchedLiteral base fuel matchByte (if b == 0 then offs ^^^ agreeing else offs) (2 * sym + b)

/-- Writes `n` bytes copied from `dist + 1` bytes back. -/
def copy (dist : Nat) : Nat → Dec Unit
  | 0 => pure ()
  | n + 1 => do
    modify fun d => { d with out := d.out.push (d.out[d.out.size - dist - 1]?.getD 0) }
    copy dist n

/-- What a step found: more to come, or the end. -/
inductive Step where
  | more
  | finish

/-- The next state after a literal. -/
def afterLiteral (s : Nat) : Nat := if s < 4 then 0 else if s < 10 then s - 3 else s - 6

/-- Decodes one literal, match or repeat. -/
def step (p : Params) : Dec Step := do
  let total := (← get).out.size
  let state := (← get).state
  let posState := total % Nat.pow 2 p.pb
  if (← bitAt (isMatchAt + 16 * state + posState)) == 0 then
    let out := (← get).out
    let prev := if total = 0 then 0 else (out[total - 1]?.getD 0).toNat
    let base := literalAt + 0x300 * (((total % Nat.pow 2 p.lp) <<< p.lc) + (prev >>> (8 - p.lc)))
    let sym ← if state < 7 then tree base 8
      else do
        let rep0 := (← get).rep0
        matchedLiteral base 9 ((← get).out[total - rep0 - 1]?.getD 0).toNat 0x100 1
    modify fun d => { d with out := d.out.push sym.toUInt8, state := afterLiteral state }
    pure .more
  else if (← bitAt (isRepAt + state)) == 0 then
    let len ← length matchLenAt posState
    let dist ← distance len
    if dist == 0xFFFFFFFF then pure .finish
    else
      unless dist < min total p.window do throw .broken
      modify fun d => { d with
        state := if state < 7 then 7 else 10
        rep3 := d.rep2, rep2 := d.rep1, rep1 := d.rep0, rep0 := dist }
      copy dist len
      pure .more
  else
    if total = 0 then throw .broken
    if (← bitAt (isRepG0At + state)) == 0 then
      if (← bitAt (isRep0LongAt + 16 * state + posState)) == 0 then
        modify fun d => { d with state := if state < 7 then 9 else 11 }
        copy (← get).rep0 1
        return .more
    else
      if (← bitAt (isRepG1At + state)) == 0 then
        modify fun d => { d with rep1 := d.rep0, rep0 := d.rep1 }
      else if (← bitAt (isRepG2At + state)) == 0 then
        modify fun d => { d with rep2 := d.rep1, rep1 := d.rep0, rep0 := d.rep2 }
      else
        modify fun d => { d with rep3 := d.rep2, rep2 := d.rep1, rep1 := d.rep0, rep0 := d.rep3 }
    let len ← length repLenAt posState
    modify fun d => { d with state := if state < 7 then 8 else 11 }
    copy (← get).rep0 len
    pure .more

/-- The failure of a broken stream. -/
def corrupt : Failure := ⟨.lzma, "Corrupt input data"⟩

/-- Decodes steps from `d`; `fuel` bounds them. -/
def steps (p : Params) (src : ByteArray) : Nat → Decoder → Decoding
  | 0, d => { written := d.out, progress := .wants }
  | fuel + 1, d =>
    match ((step p).run src).run d with
    | .error .short => { written := d.out, progress := .wants }
    | .error .broken => { written := d.out, progress := .failed corrupt }
    | .ok (.more, d) => steps p src fuel d
    | .ok (.finish, d) =>
      match (normalize.run src).run d with
      | .error _ => { written := d.out, progress := .wants }
      | .ok (_, d) =>
        { written := d.out, progress := if d.code == 0 then .ended else .failed corrupt }

/-- Decodes the bytes of a stream with the given properties handed over so far. -/
def decodeStream (p : Params) (src : ByteArray) : Decoding :=
  let empty : Decoding := { written := ByteArray.empty, progress := .wants }
  match src[0]? with
  | none => empty
  | some first =>
    if first != 0 then { written := ByteArray.empty, progress := .failed corrupt }
    else if src.size < 5 then empty
    else
      let code : UInt32 := (List.range 4).foldl (fun acc i => acc * 256 + (src[i + 1]?.getD 0).toUInt32) 0
      let probs := Array.replicate (literalAt + 0x300 * Nat.pow 2 (p.lc + p.lp)) (1024 : UInt32)
      steps p src (512 * (src.size + 8)) { pos := 5, range := 0xFFFFFFFF, code, probs }

/-- Decodes the bytes of an LZMA member handed over so far. -/
def decodeMember (src : ByteArray) : Decoding :=
  let empty : Decoding := { written := ByteArray.empty, progress := .wants }
  if src.size ≤ 4 then empty
  else
    let psize := (src[2]?.getD 0).toNat + 256 * (src[3]?.getD 0).toNat
    if src.size ≤ 4 + psize then empty
    else match Params.ofBytes (src.extract 4 (4 + psize)) with
      | none => { written := ByteArray.empty, progress := .failed ⟨.lzma, "Invalid or unsupported options"⟩ }
      | some p => decodeStream p (src.extract (4 + psize) src.size)

end AddonCatalog.Zip.Lzma
