/-!
# CRC-32

The CRC-32 check value of a byte string, as zip archives record it for each member:
the reflected polynomial `0xEDB88320`, a remainder that starts with all bits set and is
inverted at the end. The remainder takes one byte at a time from a table of 256 words;
the word of a byte is the remainder after eight single-bit steps from that byte.

* `crc32` gives the check value.
-/

namespace AddonCatalog.Digest

/-- The reflected generator polynomial. -/
def crcPolynomial : UInt32 := 0xEDB88320

/-- One single-bit step of the remainder. -/
def crcShift (c : UInt32) : UInt32 :=
  if c &&& 1 == 1 then (c >>> 1) ^^^ crcPolynomial else c >>> 1

/-- `n` single-bit steps of the remainder. -/
def crcShifts : Nat → UInt32 → UInt32
  | 0, c => c
  | n + 1, c => crcShift (crcShifts n c)

/-- The table of the 256 byte words. -/
def crcTable : Array UInt32 := (Array.range 256).map fun i => crcShifts 8 i.toUInt32

/-- The remainder after one more byte. -/
def crcByte (c : UInt32) (b : UInt8) : UInt32 :=
  (crcTable[((c ^^^ b.toUInt32) &&& 0xFF).toNat]?.getD 0) ^^^ (c >>> 8)

/-- The CRC-32 check value of a byte string. -/
def crc32 (data : ByteArray) : UInt32 := data.foldl crcByte 0xFFFFFFFF ^^^ 0xFFFFFFFF

end AddonCatalog.Digest
