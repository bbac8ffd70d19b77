import AddonCatalog.Zip.Blocks
import AddonCatalog.Digest.Crc32
/-!
# Members read through a stream decoder

Members compressed with bzip2 or LZMA are read through a decoder that takes the
compressed bytes as they come. Such a decoder is given by what it makes of all the bytes
handed to it so far (`Decoding`): the bytes it has written, and whether it wants more,
has reached the end of its stream, or has failed. Handing bytes over in parts gives the
same as handing them over at once, so this says all there is about the decoder.

For a piece for a block that wants `n` more bytes, the reader reads compressed bytes from
the file: `n`, but 4096 at least and no more than the member has left, and nothing once
it has none left; a file that ends while the member still has bytes fails with
`EOFError`. The decoder takes them, and its failure fails the piece. The data is over
when the decoder's stream ends or the member has no compressed bytes left. The piece is
what the decoder wrote since the last piece, cut to the bytes the member still has, and
when the data is over, its check value must be that of all bytes delivered.

* `Zip.streamedData` reads a member through a decoder.
-/

namespace AddonCatalog.Zip

/-- How far a decoder has come with the bytes handed to it. -/
inductive Progress where
  /-- It wants more bytes. -/
  | wants
  /-- Its stream has ended; bytes after the end are not read. -/
  | ended
  | failed (f : Failure)

/-- What a decoder makes of the bytes handed to it so far. -/
structure Decoding where
  written : ByteArray
  progress : Progress

/-- The state of reading a member through a decoder. -/
structure Streamed where
  /-- The compressed bytes that the file holds for the member. -/
  src : ByteArray
  name : String
  /-- The member's check value. -/
  crc : Nat
  /-- Compressed bytes not yet read from the file. -/
  compressLeft : Nat
  /-- Compressed bytes handed to the decoder. -/
  handed : Nat := 0
  /-- Bytes the decoder has written so far. -/
  taken : Nat := 0
  /-- Bytes the member still has to deliver. -/
  left : Nat
  /-- Whether the data is over. -/
  finished : Bool := false
  /-- All bytes delivered. -/
  delivered : ByteArray := ByteArray.empty

namespace Streamed

/-- Reads one piece for a block that wants `n` more bytes, decoding with `decode`. -/
def piece (decode : ByteArray → Decoding) (r : Streamed) (n : Nat) :
    Except Failure (ByteArray × Streamed) := do
  let r ← if r.compressLeft = 0 then pure r
    else
      let got := min (min (max n minRead) r.compressLeft) (r.src.size - r.handed)
      if got = 0 then throw ⟨.endOfData, ""⟩
      pure { r with compressLeft := r.compressLeft - got, handed := r.handed + got }
  let d := decode (r.src.extract 0 r.handed)
  let ended ← match d.progress with
    | .failed f => throw f
    | .ended => pure true
    | .wants => pure false
  let out := (d.written.extract r.taken d.written.size).extract 0 r.left
  let left := r.left - out.size
  let finished := ended || r.compressLeft = 0 || left = 0
  let delivered := r.delivered ++ out
  if finished && (Digest.crc32 delivered).toNat != r.crc then throw (badCheck r.name)
  pure (out, { r with taken := d.written.size, left, finished, delivered })

/-- The reader of a member's data through `decode`. -/
def pieces (decode : ByteArray → Decoding) : Pieces Streamed where
  next := piece decode
  finished := (·.finished)
  bound r := r.compressLeft + 2

end Streamed

/-- Reads a member of `size` bytes with check value `crc`, whose `compressed` bytes start
at `start`, through `decode`. -/
def streamedData (decode : ByteArray → Decoding) (a : ByteArray) (name : String)
    (crc size compressed start : Nat) : MemberData :=
  let r : Streamed :=
    { src := a.extract start (start + compressed), name, crc, compressLeft := compressed, left := size }
  (Streamed.pieces decode).data size r

end AddonCatalog.Zip
