/-!
The bits of a byte string, the least significant bit of each byte first.

A reader knows how many bits it has read in all. Reading never looks past the bit it returns, so what
is read does not depend on the bytes behind it.
-/

set_option autoImplicit false
set_option relaxedAutoImplicit false

namespace DmarcReports.Deflate

/-- Why no more can be read: the input is damaged, found so with this many bits read, or it ends. -/
inductive Stop where
  | corrupt (read : Nat)
  | starved
deriving DecidableEq, Repr

structure Bits where
  /-- The bytes that are not read completely. -/
  rest : List UInt8
  /-- How many bits of the first of them are read. -/
  offset : Nat := 0
  /-- How many bits are read in all. -/
  read : Nat := 0
deriving DecidableEq, Repr

namespace Bits

def next? (s : Bits) : Except Stop (Bool × Bits) :=
  match s.rest with
  | [] => .error .starved
  | b :: bs =>
    .ok (b.toNat.testBit s.offset,
      if s.offset = 7 then ⟨bs, 0, s.read + 1⟩ else ⟨b :: bs, s.offset + 1, s.read + 1⟩)

/-- The number in the next bits, the least significant one first. -/
def take? : Nat → Bits → Except Stop (Nat × Bits)
  | 0, s => .ok (0, s)
  | n + 1, s => do
    let (bit, s) ← s.next?
    let (high, s) ← take? n s
    return (bit.toNat + 2 * high, s)

def align (s : Bits) : Bits :=
  if s.offset = 0 then s else ⟨s.rest.tail, 0, s.read + (8 - s.offset)⟩

def corrupt {α : Type} (s : Bits) : Except Stop α :=
  .error (.corrupt s.read)

end Bits

end DmarcReports.Deflate
