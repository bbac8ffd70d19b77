import AddonCatalog.Zip.Layout
import AddonCatalog.Digest.Crc32
/-!
# Writing zip archives

An archive is written from its members, each a name and its data, in order: every
member is stored without compression behind its local header, then the central
directory lists them, then the end record closes the archive. Every member carries the
same time stamp, 1980-01-01 00:00, the version `2.0` for creating (on a Unix system)
and for extracting, and the permissions read and write for its owner.

A name is cut at its first NUL character. A name of ASCII characters is written as it
is; any other name is written in UTF-8 with the flag that says so.

* `Zip.write` gives the bytes of the archive.
-/

namespace AddonCatalog.Zip

/-- The date field of 1980-01-01. -/
def stampDate : Nat := 0x21

/-- The external attributes of a member: read and write for its owner. -/
def ownerReadWrite : Nat := 0x01800000

/-- The flag of a name written in UTF-8. -/
def utf8Flag : Nat := 0x800

/-- The bytes of a member's name, and the flags they need. -/
def nameBytes (name : String) : List UInt8 × Nat :=
  let cut := String.ofList (name.toList.takeWhile (· != Char.ofNat 0))
  (cut.toUTF8.toList, if cut.toList.all (·.toNat < 128) then 0 else utf8Flag)

/-- The local header of a member. -/
def localHeader (name : List UInt8) (flags crc size : Nat) : List UInt8 :=
  localSignature ++ le 2 20 ++ le 2 flags ++ le 2 0 ++ le 2 0 ++ le 2 stampDate ++ le 4 crc ++
    le 4 size ++ le 4 size ++ le 2 name.length ++ le 2 0 ++ name

/-- The central directory entry of a member whose local header is at `offset`. -/
def centralEntry (name : List UInt8) (flags crc size offset : Nat) : List UInt8 :=
  centralSignature ++ [20, 3, 20, 0] ++ le 2 flags ++ le 2 0 ++ le 2 0 ++ le 2 stampDate ++
    le 4 crc ++ le 4 size ++ le 4 size ++ le 2 name.length ++ le 2 0 ++ le 2 0 ++ le 2 0 ++
    le 2 0 ++ le 4 ownerReadWrite ++ le 4 offset ++ name

/-- The end record of a directory of `count` entries and `size` bytes at `offset`. -/
def endRecord (count size offset : Nat) : List UInt8 :=
  endSignature ++ le 2 0 ++ le 2 0 ++ le 2 count ++ le 2 count ++ le 4 size ++ le 4 offset ++ le 2 0

/-- Writes the members from `offset` on: the local parts, and the directory entries. -/
def writeMembers (offset : Nat) : List (String × ByteArray) → ByteArray × List UInt8
  | [] => (ByteArray.empty, [])
  | (name, data) :: rest =>
    let (nb, flags) := nameBytes name
    let crc := (Digest.crc32 data).toNat
    let part := (localHeader nb flags crc data.size).toByteArray ++ data
    let (parts, entries) := writeMembers (offset + part.size) rest
    (part ++ parts, centralEntry nb flags crc data.size offset ++ entries)

/-- The bytes of the archive of the members. -/
def write (members : List (String × ByteArray)) : ByteArray :=
  let (parts, entries) := writeMembers 0 members
  parts ++ entries.toByteArray ++ (endRecord members.length entries.length parts.size).toByteArray

end AddonCatalog.Zip
