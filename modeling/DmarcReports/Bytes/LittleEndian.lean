/-!
Numbers in a byte string, the least significant byte first. A number that does not lie within the
string has no value.
-/

set_option autoImplicit false
set_option relaxedAutoImplicit false

namespace DmarcReports.LittleEndian

def ofBytes (bs : List UInt8) : Nat :=
  bs.foldr (fun b n => b.toNat + 256 * n) 0

def range? (b : ByteArray) (start size : Nat) : Option ByteArray :=
  if start + size ≤ b.size then some (b.extract start (start + size)) else none

def number? (b : ByteArray) : Nat → Nat → Option Nat
  | _, 0 => some 0
  | start, size + 1 =>
    match b[start]? with
    | none => none
    | some low => (number? b (start + 1) size).map (low.toNat + 256 * ·)

def u16? (b : ByteArray) (start : Nat) : Option Nat := number? b start 2

def u32? (b : ByteArray) (start : Nat) : Option Nat := number? b start 4

def u64? (b : ByteArray) (start : Nat) : Option Nat := number? b start 8

end DmarcReports.LittleEndian
