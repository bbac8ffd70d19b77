import AddonCatalog.Text.Quoted
import AddonCatalog.Failure
/-!
# Member data in blocks

A member's data is delivered in blocks of 64 KiB. Each block is filled piece by piece
from a reader of the member's data, until the block is full or the data is over; a piece
longer than the block wants gives the rest to the next block. A failure while a block is
filled loses that whole block, so what was delivered is the blocks before it.

* `Zip.Pieces` is a reader of pieces: its next piece for a block that wants `n` more
  bytes, and whether the data is over;
* `Zip.Pieces.data` delivers a member's data block by block.
-/

namespace AddonCatalog.Zip

/-- What reading a member delivered: the data written before reading stopped, and the
failure that stopped it, if any. -/
structure MemberData where
  data : ByteArray
  failure : Option Failure := none

/-- The size of the blocks in which member data is delivered. -/
def blockSize : Nat := 65536

/-- The fewest compressed bytes read from the file at once. -/
def minRead : Nat := 4096

/-- The failure of data whose check value differs from the member's. -/
def badCheck (name : String) : Failure := ⟨.badArchive, "Bad CRC-32 for file " ++ Text.quote name⟩

/-- A reader of a member's data in pieces, with state `σ`. -/
structure Pieces (σ : Type) where
  /-- The next piece for a block that wants `n` more bytes. -/
  next : σ → Nat → Except Failure (ByteArray × σ)
  /-- Whether the data is over. -/
  finished : σ → Bool
  /-- A bound on the pieces one block takes. -/
  bound : σ → Nat

namespace Pieces

variable {σ : Type}

/-- Fills a block that wants `want` more bytes after `acc`; answers the block, the bytes
of the last piece beyond it, and the state. `fuel` bounds the pieces. -/
def fill (p : Pieces σ) : Nat → σ → Nat → ByteArray → Except Failure (ByteArray × ByteArray × σ)
  | 0, s, _, acc => .ok (acc, ByteArray.empty, s)
  | fuel + 1, s, want, acc =>
    if want = 0 || p.finished s then .ok (acc, ByteArray.empty, s)
    else do
      let (data, s) ← p.next s want
      if want < data.size then pure (acc ++ data.extract 0 want, data.extract want data.size, s)
      else p.fill fuel s (want - data.size) (acc ++ data)

/-- Reads the next block, starting with the bytes `kept` from the last piece. -/
def block (p : Pieces σ) (s : σ) (kept : ByteArray) : Except Failure (ByteArray × ByteArray × σ) :=
  if blockSize < kept.size then .ok (kept.extract 0 blockSize, kept.extract blockSize kept.size, s)
  else p.fill (p.bound s) s (blockSize - kept.size) kept

/-- Reads blocks until one is empty or fails; `fuel` bounds the blocks. -/
def blocks (p : Pieces σ) : Nat → σ → ByteArray → ByteArray → MemberData
  | 0, _, _, out => { data := out }
  | fuel + 1, s, kept, out =>
    match p.block s kept with
    | .error f => { data := out, failure := some f }
    | .ok (b, kept, s) => if b.size = 0 then { data := out } else p.blocks fuel s kept (out ++ b)

/-- Delivers the data of a member of `size` bytes, starting from state `s`. -/
def data (p : Pieces σ) (size : Nat) (s : σ) : MemberData :=
  p.blocks (size + 2) s ByteArray.empty ByteArray.empty

end Pieces

end AddonCatalog.Zip
