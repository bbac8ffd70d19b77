import AddonCatalog.Zip.Layout
import AddonCatalog.Zip.Deflated
import AddonCatalog.Zip.Bzip2
import AddonCatalog.Zip.Lzma
import AddonCatalog.Digest.Crc32
import AddonCatalog.Text.ByteText
import AddonCatalog.Failure
/-!
# Reading zip archives

Bytes are read as an archive in three steps, each of which may find them broken.

1. The end record (`Zip.endRecord?`) is the last 22 bytes when they carry its signature
   and an empty comment; otherwise the last occurrence of its signature in the final
   64 KiB and 22 bytes, if a whole record fits after it. Without one, the bytes are not
   an archive. When a locator fills the 20 bytes before it and the end record of a
   large archive the 56 bytes before the locator, that record gives the directory,
   which then ends before the two; a locator of several disks fails, and one with no
   room for the large record before it stands before the start of the bytes.
2. The central directory (`Zip.directory`) lies just before the end record; when the
   record's offset says otherwise, the difference is data prepended to the archive and
   shifts every offset. Each entry gives a member's name (UTF-8 when its flag says so,
   code page 437 otherwise, cut at a NUL character), its sizes, check value and the
   offset of its local header, and its end is where the next local header or the
   directory begins.
3. A member (`Zip.readMember`) is found by the last entry of its name. Its local header
   must carry the same name, its data must end before the entry's end, it must not be
   encrypted, and it must be stored, deflated, or compressed with bzip2 or LZMA. Its
   data is read in blocks of 64 KiB: data cut short by the end of the bytes fails with
   `EOFError`, and data whose check value differs fails; in both cases only the blocks
   before the last one were delivered. Deflated data is read as `Zip.deflatedData`
   says, the others as `Zip.streamedData` says with `Zip.Bzip2.decode` and
   `Zip.Lzma.decodeMember`.

The messages are those of the standard reader: `File is not a zip file`, `Bad offset
for central directory`, `Truncated central directory`, and so on.
-/

namespace AddonCatalog.Zip

/-- The error of bytes that are not a readable archive. -/
def bad (message : String) : Failure := ⟨.badArchive, message⟩

/-- What the end record says. -/
structure EndRecord where
  diskNumber : Nat
  diskStart : Nat
  entries : Nat
  directorySize : Nat
  directoryOffset : Nat
  /-- Where the end record starts. -/
  location : Nat
  /-- Whether the end record of a large archive gave the fields. -/
  large : Bool := false

/-- The end record at position `i`. -/
def endRecordAt (a : ByteArray) (i : Nat) : EndRecord :=
  ⟨field a (i + 4) 2, field a (i + 6) 2, field a (i + 10) 2, field a (i + 12) 4, field a (i + 16) 4, i,
    false⟩

/-- The failure of a position before the start of the bytes. -/
def beforeStart : Failure := ⟨.os, "[Errno 22] Invalid argument"⟩

/-- The end record as the end record of a large archive corrects it, when a locator
stands just before it and the large record just before the locator. -/
def withLargeEnd (a : ByteArray) (r : EndRecord) : Except Failure EndRecord :=
  if r.location < largeLocatorSize then .ok r
  else
    let off := r.location - largeLocatorSize
    if !hasSignature a off largeLocatorSignature then .ok r
    else if field a (off + 4) 4 != 0 || field a (off + 16) 4 > 1 then
      .error (bad "zipfiles that span multiple disks are not supported")
    else if off < largeEndSize then .error beforeStart
    else
      let pos := off - largeEndSize
      if !hasSignature a pos largeEndSignature then .ok r
      else .ok ⟨field a (pos + 16) 4, field a (pos + 20) 4, field a (pos + 32) 8,
        field a (pos + 40) 8, field a (pos + 48) 8, r.location, true⟩

/-- The last position from `lo` on where the signature stands, looking down from `i`. -/
def lastSignatureFrom (a : ByteArray) (sig : List UInt8) (lo : Nat) : Nat → Option Nat
  | 0 => if lo == 0 && hasSignature a 0 sig then some 0 else none
  | i + 1 =>
    if i + 1 < lo then none
    else if hasSignature a (i + 1) sig then some (i + 1)
    else lastSignatureFrom a sig lo i

/-- The end record of the bytes, if they have one. -/
def endRecord? (a : ByteArray) : Except Failure (Option EndRecord) :=
  let size := a.size
  if size < endRecordSize then .ok none
  else
    let tail := size - endRecordSize
    if hasSignature a tail endSignature && a[size - 2]? == some 0 && a[size - 1]? == some 0 then
      (withLargeEnd a (endRecordAt a tail)).map some
    else
      match lastSignatureFrom a endSignature (size - (65536 + endRecordSize)) (size - 4) with
      | none => .ok none
      | some i =>
        if i + endRecordSize > size then .ok none
        else (withLargeEnd a (endRecordAt a i)).map some

/-- Whether the bytes are an archive: whether they have an end record. A record of a
large archive that spans disks fails; one that would stand before the start does not
make an archive. -/
def isArchive? (a : ByteArray) : Except Failure Bool :=
  match endRecord? a with
  | .ok r => .ok r.isSome
  | .error f => if f.kind == .os then .ok false else .error f

/-- Whether the bytes are an archive; a broken record counts as none. -/
def isArchive (a : ByteArray) : Bool :=
  match endRecord? a with
  | .ok (some _) => true
  | _ => false

/-- An entry of the central directory. -/
structure Entry where
  /-- The name as the directory writes it. -/
  origName : String
  /-- The name the member is known by. -/
  name : String
  flags : Nat
  method : Nat
  crc : Nat
  compressedSize : Nat
  size : Nat
  headerOffset : Int
  /-- Where the member's data must end. -/
  endOffset : Int := 0

/-- A name cut at its first NUL character. -/
def sanitize (s : String) : String := String.ofList (s.toList.takeWhile (· != Char.ofNat 0))

/-- The entry of a directory record `cd` for the decoded name. -/
def Entry.ofCentral (name : String) (cd : ByteArray) : Entry where
  origName := name
  name := sanitize name
  flags := field cd 8 2
  method := field cd 10 2
  crc := field cd 16 4
  compressedSize := field cd 20 4
  size := field cd 24 4
  headerOffset := field cd 42 4

/-- Decodes a name: UTF-8 when the flags say so, code page 437 otherwise. -/
def decodeName (flags : Nat) (bs : ByteArray) : Except Failure String :=
  if flags &&& 0x800 != 0 then
    match Text.decodeUtf8 bs.toList with
    | .ok s => .ok s
    | .error e => .error ⟨.undecodable, e.message bs.toList⟩
  else .ok (Text.decodeCodePage437 bs.toList)

/-- The text `n.d` of a version number `nd`. -/
def versionText (v : Nat) : String := toString (v / 10) ++ "." ++ toString (v % 10)

/-- The fields of an entry that the extra field corrects for a large archive: size,
compressed size and header offset. -/
def largeFields (data : ByteArray) (e : Entry) : Except Failure Entry := do
  let take (label : String) (d : ByteArray) : Except Failure (Nat × ByteArray) :=
    if d.size < 8 then .error (bad ("Corrupt zip64 extra field. " ++ label ++ " not found."))
    else .ok (field d 0 8, d.extract 8 d.size)
  let (e, d) ← if e.size == 0xFFFFFFFFFFFFFFFF || e.size == 0xFFFFFFFF then do
      let (v, d) ← take "File size" data
      pure ({ e with size := v }, d)
    else pure (e, data)
  let (e, d) ← if e.compressedSize == 0xFFFFFFFF then do
      let (v, d) ← take "Compress size" d
      pure ({ e with compressedSize := v }, d)
    else pure (e, d)
  if e.headerOffset == 0xFFFFFFFF then do
    let (v, _) ← take "Header offset" d
    pure { e with headerOffset := v }
  else pure e

/-- Applies the extra field of an entry: a field of a large archive corrects its sizes
and offset, other fields are skipped. -/
def applyExtra (e : Entry) (extra : ByteArray) : Nat → Except Failure Entry
  | 0 => .ok e
  | fuel + 1 =>
    if extra.size < 4 then .ok e
    else
      let tp := field extra 0 2
      let ln := field extra 2 2
      if ln + 4 > extra.size then
        .error (bad ("Corrupt extra field " ++ Text.hexPadded 4 tp ++ " (size=" ++ toString ln ++ ")"))
      else do
        let e ← if tp == 1 then largeFields (extra.extract 4 (ln + 4)) e else .ok e
        applyExtra e (extra.extract (ln + 4) extra.size) fuel

/-- Reads the entries of a directory from position `pos`, while the sizes it declares,
`total`, stay below `size`. -/
def readEntries (dir : ByteArray) (size : Nat) (concat : Int) : Nat → Nat → Nat → Except Failure (List Entry)
  | 0, _, _ => .ok []
  | fuel + 1, pos, total =>
    if total ≥ size then .ok []
    else
      let cd := slice dir pos centralEntrySize
      if cd.size != centralEntrySize then .error (bad "Truncated central directory")
      else if !hasSignature cd 0 centralSignature then .error (bad "Bad magic number for central directory")
      else do
        let nlen := field cd 28 2
        let xlen := field cd 30 2
        let clen := field cd 32 2
        let p1 := pos + centralEntrySize
        let raw := slice dir p1 nlen
        let flags := field cd 8 2
        let name ← decodeName flags raw
        let extra := slice dir (p1 + raw.size) xlen
        let p2 := min dir.size (p1 + raw.size + extra.size + clen)
        let version := field cd 6 1
        if version > 63 then throw ⟨.notImplemented, "zip file version " ++ versionText version⟩
        let e ← applyExtra (Entry.ofCentral name cd) extra extra.size
        let rest ← readEntries dir size concat fuel p2 (total + centralEntrySize + nlen + xlen + clen)
        pure ({ e with headerOffset := e.headerOffset + concat } :: rest)

/-- Gives each entry the offset where its data must end: the next local header by
offset, or the start of the directory. -/
def withEnds (startDir : Int) (entries : List Entry) : List Entry :=
  let byOffset := (entries.zipIdx.mergeSort fun x y => x.1.headerOffset ≥ y.1.headerOffset)
  let (ends, _) := byOffset.foldl (fun (acc : List (Nat × Int) × Int) x =>
    ((x.2, acc.2) :: acc.1, x.1.headerOffset)) ([], startDir)
  entries.zipIdx.map fun (e, i) => { e with endOffset := ((ends.lookup i).getD startDir) }

/-- The entries of the central directory of an archive. -/
def directory (a : ByteArray) : Except Failure (List Entry) := do
  let found ← match endRecord? a with
    | .error f => if f.kind == .os then throw (bad "File is not a zip file") else throw f
    | .ok r => pure r
  let some r := found | throw (bad "File is not a zip file")
  let concat : Int := (r.location : Int) - r.directorySize - r.directoryOffset -
    (if r.large then largeEndSize + largeLocatorSize else 0)
  let startDir : Int := r.directoryOffset + concat
  if startDir < 0 then throw (bad "Bad offset for central directory")
  let dir := slice a startDir.toNat r.directorySize
  let entries ← readEntries dir r.directorySize concat (dir.size / centralEntrySize + 1) 0 0
  pure (withEnds startDir entries)

/-- The names of the members, in directory order. -/
def names (entries : List Entry) : List String := entries.map (·.name)

/-- The entry a name finds: the last of that name. -/
def entryOf? (entries : List Entry) (name : String) : Option Entry :=
  (entries.filter (·.name == name)).getLast?

/-- The delivered part of `n` bytes whose last block failed: the whole blocks before it. -/
def wholeBlocks (data : ByteArray) (n : Nat) : ByteArray := data.extract 0 (blockSize * (n / blockSize))

/-- Reads the stored data of an entry from position `start`. -/
def storedData (a : ByteArray) (e : Entry) (start : Nat) : MemberData :=
  let avail := slice a start e.compressedSize
  let out := avail.extract 0 e.size
  let crcFailure := badCheck e.name
  let checked : MemberData :=
    if (Digest.crc32 out).toNat == e.crc then { data := out }
    else { data := wholeBlocks out (out.size - 1), failure := some crcFailure }
  if e.compressedSize > 0 && (avail.size == 0 || (avail.size < e.compressedSize && avail.size < e.size)) then
    { data := wholeBlocks out out.size, failure := some ⟨.endOfData, ""⟩ }
  else checked

/-- Opens the member of an entry and reads its data. -/
def readMember (a : ByteArray) (e : Entry) : Except Failure MemberData := do
  if e.headerOffset < 0 then throw ⟨.os, "[Errno 22] Invalid argument"⟩
  let pos := e.headerOffset.toNat
  let header := slice a pos localHeaderSize
  if header.size != localHeaderSize then throw (bad "Truncated file header")
  if !hasSignature header 0 localSignature then throw (bad "Bad magic number for file header")
  let raw := slice a (pos + localHeaderSize) (field header 26 2)
  if e.flags &&& 0x20 != 0 then throw ⟨.notImplemented, "compressed patched data (flag bit 5)"⟩
  if e.flags &&& 0x40 != 0 then throw ⟨.notImplemented, "strong encryption (flag bit 6)"⟩
  let name ← decodeName (field header 6 2) raw
  if name != e.origName then
    throw (bad ("File name in directory " ++ Text.quote e.origName ++ " and header " ++
      Text.quoteBytes raw.toList ++ " differ."))
  let start := pos + localHeaderSize + raw.size + field header 28 2
  if (start : Int) + e.compressedSize > e.endOffset then
    throw (bad ("Overlapped entries: " ++ Text.quote e.origName ++ " (possible zip bomb)"))
  if e.flags &&& 1 != 0 then
    throw ⟨.runtime, "File " ++ Text.quote e.name ++ " is encrypted, password required for extraction"⟩
  match e.method with
  | 0 => pure (storedData a e start)
  | 8 => pure (deflatedData a e.name e.crc e.size e.compressedSize start)
  | 12 => pure (streamedData Bzip2.decode a e.name e.crc e.size e.compressedSize start)
  | 14 => pure (streamedData Lzma.decodeMember a e.name e.crc e.size e.compressedSize start)
  | _ => throw ⟨.notImplemented, "That compression method is not supported"⟩

end AddonCatalog.Zip
