/-!
# Inflating deflate streams

A deflate stream is a sequence of blocks, each opened by three bits: whether it is the
final block, and its type. A stored block carries its length, the length's complement and
that many bytes; a coded block is a sequence of symbols of two prefix codes, fixed ones or
ones given at the start of the block by their code lengths. A literal symbol writes one
byte; a length symbol, with the distance after it, copies bytes written before; the
end-of-block symbol closes the block. Bits are taken from the low end of each byte, and
a code's bits one by one from its first.

The inflater here is a machine that can stop and go on: it is handed the bytes of a
stream a part at a time and given room for its output, and a run stops when

* the next byte to write finds no room (`Halt.full`): the symbol after the last byte
  written has been read already, so a broken symbol there is found before the room runs
  out;
* the next step needs bits that have not been handed over (`Halt.starved`);
* the final block is over (`Halt.ended`);
* the stream is broken (`Halt.broken`), with a message that says how: `invalid block
  type`, `invalid distance too far back`, and so on. A distance reaching
  before the first byte is found only when there is room to copy.

A set of code lengths that gives more codes than fit, or fewer, is refused, except that
a literal or distance code may have a single code of one bit (its other bit is then an
invalid code) or none at all (every code is invalid); a code-length code with no codes
reads every length as zero.

* `PrefixCode.ofLengths` and `PrefixCode.decode` give the canonical codes of a list of
  code lengths;
* `Inflater.run` runs the machine.
-/

namespace AddonCatalog.Zip

/-- The bit at position `i`, counting from the low end of each byte. -/
def bitAt (src : ByteArray) (i : Nat) : Nat :=
  (src[i / 8]?.getD 0).toNat / Nat.pow 2 (i % 8) % 2

/-- The number of the `n` bits from position `i`, the first bit the lowest. -/
def bitsAt (src : ByteArray) (i n : Nat) : Nat :=
  (List.range n).foldr (fun k acc => acc * 2 + bitAt src (i + k)) 0

/-- The longest code length. -/
def maxCodeLength : Nat := 15

/-- The canonical prefix code of a list of code lengths. -/
structure PrefixCode where
  /-- The number of symbols with a code of each length, from 0 to 15 bits. -/
  counts : Array Nat
  /-- The symbols with a code, by length and then by symbol. -/
  symbols : Array Nat
deriving Inhabited

namespace PrefixCode

/-- The canonical code of the lengths; a length of zero gives the symbol no code. -/
def ofLengths (lens : List Nat) : PrefixCode where
  counts := ((List.range (maxCodeLength + 1)).map fun l => lens.count l).toArray
  symbols := ((List.range maxCodeLength).flatMap fun l =>
    (lens.zipIdx.filter (·.1 == l + 1)).map (·.2)).toArray

/-- The number of codes of length `l`. -/
def count (c : PrefixCode) (l : Nat) : Nat := c.counts[l]?.getD 0

/-- The length of the longest code, zero when there is none. -/
def longest (c : PrefixCode) : Nat :=
  ((List.range maxCodeLength).map (· + 1)).foldl (fun m l => if c.count l > 0 then l else m) 0

/-- The room left in the code space after all codes, scaled to the longest length: below
zero when the codes do not fit. -/
def slack (c : PrefixCode) : Int :=
  ((List.range maxCodeLength).map (· + 1)).foldl (fun left l => 2 * left - c.count l) 1

/-- Whether the lengths make a usable code: every code fits, and none is missing, except
that with `lax` a code of no codes or of a single one-bit code is allowed. -/
def usable (c : PrefixCode) (lax : Bool) : Bool :=
  if c.longest = 0 then true
  else if c.slack < 0 then false
  else c.slack = 0 || (lax && c.longest = 1)

/-- What reading one code gives. -/
inductive Decoded where
  /-- A symbol and the bits of its code. -/
  | symbol (s bits : Nat)
  /-- A code of one bit that stands for no symbol. -/
  | invalid
  /-- The code needs bits beyond `avail`. -/
  | short
deriving Inhabited

/-- Reads codes of growing length from bit `pos`: `code` holds the `len - 1` bits read,
shifted up by one, `first` is the first code of length `len` and `index` the place of its
symbol. -/
def decodeFrom (c : PrefixCode) (src : ByteArray) (avail pos : Nat) :
    Nat → Nat → Nat → Nat → Nat → Decoded
  | 0, _, _, _, _ => .invalid
  | fuel + 1, len, code, first, index =>
    if len > c.longest then .invalid
    else if pos + len > avail then .short
    else
      let code := code + bitAt src (pos + len - 1)
      let n := c.count len
      if code < first + n then .symbol (c.symbols[index + (code - first)]?.getD 0) len
      else decodeFrom c src avail pos fuel (len + 1) (2 * code) (2 * (first + n)) (index + n)

/-- Reads one code from bit `pos`, with the bits before `avail` handed over. -/
def decode (c : PrefixCode) (src : ByteArray) (avail pos : Nat) : Decoded :=
  if c.longest = 0 then (if pos + 1 > avail then .short else .invalid)
  else decodeFrom c src avail pos maxCodeLength 1 0 0 0

end PrefixCode

/-- The literal and length code of fixed blocks. -/
def fixedLiterals : PrefixCode :=
  PrefixCode.ofLengths (List.replicate 144 8 ++ List.replicate 112 9 ++ List.replicate 24 7 ++
    List.replicate 8 8)

/-- The distance code of fixed blocks. -/
def fixedDistances : PrefixCode := PrefixCode.ofLengths (List.replicate 32 5)

/-- The shortest copy of each length symbol from 257 on. -/
def lengthBase : List Nat :=
  [3, 4, 5, 6, 7, 8, 9, 10, 11, 13, 15, 17, 19, 23, 27, 31, 35, 43, 51, 59, 67, 83, 99, 115,
    131, 163, 195, 227, 258]

/-- The extra bits of each length symbol from 257 on. -/
def lengthExtra : List Nat :=
  [0, 0, 0, 0, 0, 0, 0, 0, 1, 1, 1, 1, 2, 2, 2, 2, 3, 3, 3, 3, 4, 4, 4, 4, 5, 5, 5, 5, 0]

/-- The shortest distance of each distance symbol. -/
def distanceBase : List Nat :=
  [1, 2, 3, 4, 5, 7, 9, 13, 17, 25, 33, 49, 65, 97, 129, 193, 257, 385, 513, 769, 1025, 1537,
    2049, 3073, 4097, 6145, 8193, 12289, 16385, 24577]

/-- The extra bits of each distance symbol. -/
def distanceExtra : List Nat :=
  [0, 0, 0, 0, 1, 1, 2, 2, 3, 3, 4, 4, 5, 5, 6, 6, 7, 7, 8, 8, 9, 9, 10, 10, 11, 11, 12, 12,
    13, 13]

/-- The order in which the lengths of the code-length code are given. -/
def lengthCodeOrder : List Nat :=
  [16, 17, 18, 0, 8, 7, 9, 6, 10, 5, 11, 4, 12, 3, 13, 2, 14, 1, 15]

/-- What reading a part of the stream gives: the value and the bit after it, too few
bits, or the message of a broken stream. -/
inductive Parsed (α : Type) where
  | done (value : α) (pos : Nat)
  | short
  | broken (message : String)
deriving Inhabited

/-- Reads `total` code lengths with the code-length code, after those in `lens`. -/
def readLengths (src : ByteArray) (avail : Nat) (code : PrefixCode) (total : Nat) :
    Nat → List Nat → Nat → Parsed (List Nat)
  | 0, lens, pos => .done lens pos
  | fuel + 1, lens, pos =>
    if lens.length ≥ total then .done lens pos
    else
      let (sym, bits) := match code.decode src avail pos with
        | .symbol s b => (some s, b)
        | .invalid => (some 0, 1)
        | .short => (none, 0)
      match sym with
      | none => .short
      | some s =>
        if s < 16 then readLengths src avail code total fuel (lens ++ [s]) (pos + bits)
        else
          let extra := if s = 16 then 2 else if s = 17 then 3 else 7
          if pos + bits + extra > avail then .short
          else if s = 16 && lens.isEmpty then .broken "invalid bit length repeat"
          else
            let times := bitsAt src (pos + bits) extra + (if s = 18 then 11 else 3)
            let value := if s = 16 then lens.getLastD 0 else 0
            if lens.length + times > total then .broken "invalid bit length repeat"
            else readLengths src avail code total fuel (lens ++ List.replicate times value)
              (pos + bits + extra)

/-- Reads the codes of a dynamic block from bit `pos`. -/
def readCodes (src : ByteArray) (avail pos : Nat) : Parsed (PrefixCode × PrefixCode) :=
  if pos + 14 > avail then .short
  else
    let nlen := bitsAt src pos 5 + 257
    let ndist := bitsAt src (pos + 5) 5 + 1
    let ncode := bitsAt src (pos + 10) 4 + 4
    if nlen > 286 || ndist > 30 then .broken "too many length or distance symbols"
    else if pos + 14 + 3 * ncode > avail then .short
    else
      let given := (List.range ncode).map fun i => bitsAt src (pos + 14 + 3 * i) 3
      let lens := (List.range 19).map fun s =>
        match lengthCodeOrder.idxOf? s with
        | some i => given.getD i 0
        | none => 0
      let lengthCode := PrefixCode.ofLengths lens
      if !lengthCode.usable false then .broken "invalid code lengths set"
      else
        let total := nlen + ndist
        match readLengths src avail lengthCode total (total + 1) [] (pos + 14 + 3 * ncode) with
        | .short => .short
        | .broken m => .broken m
        | .done all next =>
          if all.getD 256 0 = 0 then .broken "invalid code -- missing end-of-block"
          else
            let lit := PrefixCode.ofLengths (all.take nlen)
            let dist := PrefixCode.ofLengths (all.drop nlen)
            if !lit.usable true then .broken "invalid literal/lengths set"
            else if !dist.usable true then .broken "invalid distances set"
            else .done (lit, dist) next

/-- A byte to write, or a copy of earlier bytes, read but not yet written. -/
inductive Pending where
  | nothing
  | literal (b : UInt8)
  | copy (length distance : Nat)
deriving Inhabited

/-- Where the inflater is in the stream. -/
inductive Stage where
  /-- Before a block header, or at the end when the last block was final. -/
  | header
  /-- Inside a stored block, with the bytes still to copy. -/
  | stored (left : Nat)
  /-- Inside a coded block, with its two codes. -/
  | coded (literals distances : PrefixCode)
  | finished
deriving Inhabited

/-- Why a run stopped. -/
inductive Halt where
  | full
  | starved
  | ended
  | broken (message : String)
deriving Inhabited, BEq

/-- The state of an inflater: the bits read, where it is, and all bytes written. -/
structure Inflater where
  pos : Nat := 0
  final : Bool := false
  stage : Stage := .header
  pending : Pending := .nothing
  written : ByteArray := ByteArray.empty
deriving Inhabited

/-- The next item of a coded block: a literal, the end of the block, or a copy. -/
def readItem (src : ByteArray) (avail pos : Nat) (lit dist : PrefixCode) :
    Parsed (Option Pending) :=
  match lit.decode src avail pos with
  | .short => .short
  | .invalid => .broken "invalid literal/length code"
  | .symbol s bits =>
    let pos := pos + bits
    if s < 256 then .done (some (.literal s.toUInt8)) pos
    else if s = 256 then .done none pos
    else if s > 285 then .broken "invalid literal/length code"
    else
      let extra := lengthExtra.getD (s - 257) 0
      if pos + extra > avail then .short
      else
        let length := lengthBase.getD (s - 257) 0 + bitsAt src pos extra
        let pos := pos + extra
        match dist.decode src avail pos with
        | .short => .short
        | .invalid => .broken "invalid distance code"
        | .symbol d dbits =>
          if d > 29 then .broken "invalid distance code"
          else
            let pos := pos + dbits
            let dextra := distanceExtra.getD d 0
            if pos + dextra > avail then .short
            else .done (some (.copy length (distanceBase.getD d 0 + bitsAt src pos dextra)))
              (pos + dextra)

/-- Appends `n` bytes copied from `distance` bytes back, one at a time. -/
def copyBack (out : ByteArray) (distance : Nat) : Nat → ByteArray
  | 0 => out
  | n + 1 => copyBack (out.push (out[out.size - distance]?.getD 0)) distance n

namespace Inflater

/-- One step with `room` bytes of room, the bits before `avail` handed over: the next
state and the bytes written, or why the run stops. -/
def step (src : ByteArray) (avail room : Nat) (z : Inflater) : Except Halt (Inflater × Nat) :=
  match z.pending with
  | .literal b =>
    if room = 0 then .error .full
    else .ok ({ z with pending := .nothing, written := z.written.push b }, 1)
  | .copy length distance =>
    if room = 0 then .error .full
    else if distance > z.written.size then .error (.broken "invalid distance too far back")
    else
      let n := min room length
      .ok ({ z with
        pending := if length - n = 0 then .nothing else .copy (length - n) distance
        written := copyBack z.written distance n }, n)
  | .nothing =>
    match z.stage with
    | .finished => .error .ended
    | .stored 0 => .ok ({ z with stage := .header }, 0)
    | .stored (left + 1) =>
      let inBytes := avail / 8 - z.pos / 8
      let n := min (left + 1) (min inBytes room)
      if n = 0 then .error (if room = 0 then .full else .starved)
      else .ok ({ z with
        pos := z.pos + 8 * n
        stage := .stored (left + 1 - n)
        written := z.written ++ src.extract (z.pos / 8) (z.pos / 8 + n) }, n)
    | .header =>
      if z.final then .ok ({ z with pos := (z.pos + 7) / 8 * 8, stage := .finished }, 0)
      else if z.pos + 3 > avail then .error .starved
      else
        let final := bitAt src z.pos = 1
        let start := z.pos + 3
        match bitsAt src (z.pos + 1) 2 with
        | 0 =>
          let aligned := (start + 7) / 8 * 8
          if aligned + 32 > avail then .error .starved
          else
            let length := bitsAt src aligned 16
            if length + bitsAt src (aligned + 16) 16 != 65535 then
              .error (.broken "invalid stored block lengths")
            else .ok ({ z with pos := aligned + 32, final, stage := .stored length }, 0)
        | 1 => .ok ({ z with pos := start, final, stage := .coded fixedLiterals fixedDistances }, 0)
        | 2 =>
          match readCodes src avail start with
          | .short => .error .starved
          | .broken m => .error (.broken m)
          | .done (lit, dist) next => .ok ({ z with pos := next, final, stage := .coded lit dist }, 0)
        | _ => .error (.broken "invalid block type")
    | .coded lit dist =>
      match readItem src avail z.pos lit dist with
      | .short => .error .starved
      | .broken m => .error (.broken m)
      | .done none next => .ok ({ z with pos := next, stage := .header }, 0)
      | .done (some p) next => .ok ({ z with pos := next, pending := p }, 0)

/-- Runs the inflater with `room` bytes of room and the first `avail` bytes of `src`
handed over, until it stops; `fuel` bounds the steps. -/
def runFor (src : ByteArray) (avail : Nat) : Nat → Nat → Inflater → Halt × Inflater
  | 0, _, z => (.starved, z)
  | fuel + 1, room, z =>
    match step src (8 * avail) room z with
    | .error h => (h, z)
    | .ok (z', n) => runFor src avail fuel (room - n) z'

/-- Runs the inflater until it stops: every step reads a bit, writes a byte or moves to
a header or the end, so the bits left and the room bound the steps. -/
def run (src : ByteArray) (avail room : Nat) (z : Inflater) : Halt × Inflater :=
  runFor src avail (3 * (8 * avail - z.pos + room) + 3) room z

/-- The handed-over bytes that a run left untouched: none when it waited for more. -/
def untouched (avail : Nat) (h : Halt) (z : Inflater) : Nat :=
  match h with
  | .starved => 0
  | _ => avail - (z.pos + 7) / 8

/-- Room that no run from this state can fill: a copy writes at most 258 bytes for the
bits of its symbol, and a stored byte takes eight bits. -/
def boundlessRoom (avail : Nat) (z : Inflater) : Nat := 259 * (8 * avail - z.pos + 2)

end Inflater

end AddonCatalog.Zip
