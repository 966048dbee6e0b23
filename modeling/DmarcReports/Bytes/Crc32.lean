/-!
The checksum CRC-32 of the reversed polynomial `0xEDB88320`, as containers store it.

`step` takes a byte bit by bit; `table` holds what it does to each value of the low byte.
-/

set_option autoImplicit false
set_option relaxedAutoImplicit false

namespace DmarcReports.Crc32

/-- The remainder after one more bit. -/
def shift (c : UInt32) : UInt32 :=
  if c &&& 1 = 1 then (c >>> 1) ^^^ 0xEDB88320 else c >>> 1

def byteRemainder (n : Nat) : UInt32 :=
  Nat.repeat shift 8 (UInt32.ofNat n)

def table : Array UInt32 :=
  (Array.range 256).map byteRemainder

def step (c : UInt32) (b : UInt8) : UInt32 :=
  table.getD ((c ^^^ b.toUInt32) &&& 0xFF).toNat 0 ^^^ (c >>> 8)

def ofList (bs : List UInt8) : UInt32 :=
  bs.foldl step 0xFFFFFFFF ^^^ 0xFFFFFFFF

def ofBytes (bs : ByteArray) : UInt32 :=
  bs.foldl step 0xFFFFFFFF ^^^ 0xFFFFFFFF

end DmarcReports.Crc32
