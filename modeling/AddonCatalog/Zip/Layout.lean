/-!
# The layout of zip archives

A zip archive is a sequence of records, each opened by a four-byte signature and made
of little-endian fields:

* a local header of 30 bytes before each member's name and data;
* a central directory of one 46-byte entry per member, each followed by the member's
  name, an extra field and a comment;
* the end record of 22 bytes after the directory, which gives the number of entries,
  the size of the directory and its offset, and may be followed by a comment;
* for large archives, a locator of 20 bytes before the end record, pointing to a
  56-byte end record of their own format.

This module reads and writes such fields over byte arrays; a read past the end gives
the bytes that are there.

* `Zip.field` reads a little-endian number, `Zip.le` writes one;
* `Zip.hasSignature` checks a signature at a position.
-/

namespace AddonCatalog.Zip

/-- The signature of a local header. -/
def localSignature : List UInt8 := [0x50, 0x4b, 0x03, 0x04]

/-- The signature of a central directory entry. -/
def centralSignature : List UInt8 := [0x50, 0x4b, 0x01, 0x02]

/-- The signature of the end record. -/
def endSignature : List UInt8 := [0x50, 0x4b, 0x05, 0x06]

/-- The signature of the locator of a large archive's end record. -/
def largeLocatorSignature : List UInt8 := [0x50, 0x4b, 0x06, 0x07]

/-- The signature of a large archive's end record. -/
def largeEndSignature : List UInt8 := [0x50, 0x4b, 0x06, 0x06]

/-- The size of a local header. -/
def localHeaderSize : Nat := 30

/-- The size of a central directory entry. -/
def centralEntrySize : Nat := 46

/-- The size of the end record. -/
def endRecordSize : Nat := 22

/-- The size of the locator of a large archive's end record. -/
def largeLocatorSize : Nat := 20

/-- The size of a large archive's end record. -/
def largeEndSize : Nat := 56

/-- The bytes from position `i`, at most `n` of them. -/
def slice (a : ByteArray) (i n : Nat) : ByteArray := a.extract i (i + n)

/-- The little-endian number of the `n` bytes from position `i`. -/
def field (a : ByteArray) (i n : Nat) : Nat :=
  (List.range n).foldr (fun k acc => acc * 256 + (a[i + k]?.getD 0).toNat) 0

/-- Whether the bytes from position `i` are the signature. -/
def hasSignature (a : ByteArray) (i : Nat) (sig : List UInt8) : Bool :=
  (List.range sig.length).all fun k => a[i + k]? == sig[k]?

/-- The `n` little-endian bytes of a number. -/
def le (n value : Nat) : List UInt8 :=
  (List.range n).map fun k => (value / Nat.pow 256 k % 256).toUInt8

end AddonCatalog.Zip
