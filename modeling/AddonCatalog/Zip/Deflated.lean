import AddonCatalog.Zip.Inflate
import AddonCatalog.Zip.Blocks
import AddonCatalog.Digest.Crc32
/-!
# Reading deflated members

A deflated member is read the way the standard reader reads it, because where a broken
stream is noticed depends on it. Each block is filled piece by piece. For a piece of `n`
bytes, the reader first reads more compressed bytes from the file when the inflater holds
fewer than `n` untouched ones: `n` less those, but 4096 at least and no more than are
left; the file ending before that fails with `EOFError`. The inflater then runs with room
for `n` bytes, or 4096 when `n` is smaller, and a broken stream fails with its message.
The data is over when the stream ends, or when the file has nothing left and the inflater
has touched every byte; the inflater then runs on without a limit, and a broken stream
there is not noticed. A piece is cut to the bytes the member still has, and when the data
is over, its check value must be that of all bytes delivered. The pieces fill the blocks
of the member's data as `Zip.Pieces` says.

* `Zip.deflatedData` reads a deflated member.
-/

namespace AddonCatalog.Zip

/-- The failure of a broken stream. -/
def brokenStream (message : String) : Failure :=
  ⟨.brokenStream, "Error -3 while decompressing data: " ++ message⟩

/-- The state of reading a deflated member. -/
structure Deflated where
  /-- The compressed bytes that the file holds for the member. -/
  src : ByteArray
  name : String
  /-- The member's check value. -/
  crc : Nat
  /-- Compressed bytes not yet read from the file. -/
  compressLeft : Nat
  /-- Compressed bytes read from the file. -/
  handed : Nat := 0
  /-- Compressed bytes read that the inflater has not touched. -/
  untouched : Nat := 0
  inflater : Inflater := {}
  /-- Bytes the member still has to deliver. -/
  left : Nat
  /-- Whether the data is over. -/
  finished : Bool := false
  /-- All bytes delivered. -/
  delivered : ByteArray := ByteArray.empty

namespace Deflated

/-- Reads at least `n` more compressed bytes from the file, within the member. -/
def fetch (r : Deflated) (n : Nat) : Except Failure Deflated :=
  if r.compressLeft = 0 then .ok r
  else
    let got := min (min (max n minRead) r.compressLeft) (r.src.size - r.handed)
    if got = 0 then .error ⟨.endOfData, ""⟩
    else .ok { r with
      compressLeft := r.compressLeft - got, handed := r.handed + got, untouched := r.untouched + got }

/-- Reads one piece of at most `n` bytes. -/
def piece (r : Deflated) (n : Nat) : Except Failure (ByteArray × Deflated) := do
  let r ← if n > r.untouched then r.fetch (n - r.untouched) else pure r
  let before := r.inflater.written.size
  let (halt, z) := r.inflater.run r.src r.handed (max n minRead)
  if let .broken m := halt then throw (brokenStream m)
  let untouched := Inflater.untouched r.handed halt z
  let ended := halt == .ended
  let finished := ended || (r.compressLeft = 0 && untouched = 0)
  let z := if finished && !ended then (z.run r.src r.handed (Inflater.boundlessRoom r.handed z)).2 else z
  let out := (z.written.extract before z.written.size).extract 0 r.left
  let left := r.left - out.size
  let finished := finished || left = 0
  let delivered := r.delivered ++ out
  if finished && (Digest.crc32 delivered).toNat != r.crc then throw (badCheck r.name)
  pure (out, { r with untouched, inflater := z, left, finished, delivered })

/-- The reader of a deflated member's data. -/
def pieces : Pieces Deflated where
  next := piece
  finished := (·.finished)
  bound r := 2 * r.compressLeft + r.untouched + r.left + 2

end Deflated

/-- Reads a deflated member of `size` bytes with check value `crc`, whose `compressed`
bytes start at `start`. -/
def deflatedData (a : ByteArray) (name : String) (crc size compressed start : Nat) : MemberData :=
  let r : Deflated :=
    { src := a.extract start (start + compressed), name, crc, compressLeft := compressed, left := size }
  Deflated.pieces.data size r

end AddonCatalog.Zip
