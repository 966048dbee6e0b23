import DmarcReports.Zip.Header

/-!
The directory of an archive: finding it from the end of the file, and reading its entries.

Other bytes may come before the archive and behind it, so of all end records the last one counts
with which everything fits together.
-/

set_option autoImplicit false
set_option relaxedAutoImplicit false

namespace DmarcReports.Zip

structure Location where
  /-- The number of bytes in front of the archive. -/
  shift : Nat
  /-- The position of the directory within the archive. -/
  offset : Nat
  count : Nat
deriving DecidableEq, Repr

/-- What the first position yields that starts with this number in four bytes and yields anything,
among so many positions from `start` on. -/
def findSignature? {α : Type} (b : ByteArray) (signature : Nat) (yield? : Nat → Option α) :
    Nat → Nat → Option α
  | 0, _ => none
  | n + 1, start =>
    match if LittleEndian.u32? b start = some signature then yield? start else none with
    | some a => some a
    | none => findSignature? b signature yield? n (start + 1)

namespace WideRecord

def signature : Nat := 0x06064B50

def locatorSignature : Nat := 0x07064B50

/-- The size of the locator, which comes between the wide record and the end record. -/
def locatorSize : Nat := 20

/-- What comes in front of an end record to locate the wide record. -/
structure Locator where
  position : Nat
  directoryDisk : Nat
  /-- The position that is stated for the wide record. -/
  stated : Nat
  disks : Nat
deriving DecidableEq, Repr

def locator? (b : ByteArray) (endPosition : Nat) : Option Locator := do
  guard (locatorSize ≤ endPosition)
  let position := endPosition - locatorSize
  guard ((← LittleEndian.u32? b position) = locatorSignature)
  let directoryDisk ← LittleEndian.u32? b (position + 4)
  let stated ← LittleEndian.u64? b (position + 8)
  let disks ← LittleEndian.u32? b (position + 16)
  return { position, directoryDisk, stated, disks }

/-- The wide record at a position, which has to reach up to its locator and to agree with it. It
yields no location if it does not allow to read the directory. -/
def read? (b : ByteArray) (k : Locator) (position : Nat) : Option (Option Location) := do
  let size ← LittleEndian.u64? b (position + 4)
  let made ← LittleEndian.u16? b (position + 12)
  let needed ← LittleEndian.u16? b (position + 14)
  let thisDisk ← LittleEndian.u32? b (position + 16)
  let directoryDisk ← LittleEndian.u32? b (position + 20)
  let here ← LittleEndian.u64? b (position + 24)
  let count ← LittleEndian.u64? b (position + 32)
  let offset ← LittleEndian.u64? b (position + 48)
  guard (44 ≤ size ∧ position + size + 12 = k.position)
  guard (directoryDisk = k.directoryDisk ∧ 46 * count ≤ position)
  return if here ≤ count ∧ needed ≤ made ∧ thisDisk = directoryDisk then
    some ⟨position - k.stated, offset, count⟩
  else none

/-- The location that the wide record gives, which is looked for from its stated position on. The
archive must not be spread over disks. -/
def locate? (b : ByteArray) (k : Locator) : Option Location :=
  if 1 < k.disks then none
  else (findSignature? b signature (read? b k) (k.position - k.stated) k.stated).join

end WideRecord

structure EndRecord where
  thisDisk : Nat
  directoryDisk : Nat
  /-- How many entries are on this disk. -/
  here : Nat
  count : Nat
  offset : Nat
deriving DecidableEq, Repr

namespace EndRecord

def signature : Nat := 0x06054B50

/-- The end record at a position, which has to lie in the file with its comment. -/
def read? (b : ByteArray) (position : Nat) : Option EndRecord := do
  guard ((← LittleEndian.u32? b position) = signature)
  let thisDisk ← LittleEndian.u16? b (position + 4)
  let directoryDisk ← LittleEndian.u16? b (position + 6)
  let here ← LittleEndian.u16? b (position + 8)
  let count ← LittleEndian.u16? b (position + 10)
  let offset ← LittleEndian.u32? b (position + 16)
  let commentLength ← LittleEndian.u16? b (position + 20)
  guard (position + 22 + commentLength ≤ b.size)
  return { thisDisk, directoryDisk, here, count, offset }

/-- Whether a wide record may hold what does not fit into this one. -/
def mayBeWide (r : EndRecord) : Bool :=
  r.count == 0xFFFF || r.offset == 0xFFFFFFFF

/-- The location that the record itself gives. The first entry at or behind the stated position of
the directory shows how far the archive is shifted. -/
def locate? (r : EndRecord) (b : ByteArray) (position : Nat) : Option Location :=
  if r.thisDisk ≠ r.directoryDisk then none
  else if r.count = 0 then some ⟨position - r.offset, r.offset, r.here⟩
  else
    findSignature? b Header.signature (fun p => some ⟨p - r.offset, r.offset, r.here⟩)
      (position - r.offset) r.offset

end EndRecord

def headersFrom? (b : ByteArray) (shift : Nat) : Nat → Nat → List Header → Option (List Header)
  | 0, _, found => some found.reverse
  | n + 1, position, found =>
    match Header.read? b shift position with
    | none => none
    | some (h, behind) => headersFrom? b shift n behind (h :: found)

/-- All entries of the directory that the end record at a position belongs to. -/
def headersAt? (b : ByteArray) (position : Nat) : Option (List Header) := do
  let r ← EndRecord.read? b position
  let wide := if r.mayBeWide then WideRecord.locator? b position else none
  let l ← match wide with
    | some k => WideRecord.locate? b k
    | none => r.locate? b position
  guard (l.shift + l.offset < UInt64.size)
  headersFrom? b l.shift l.count (l.shift + l.offset) []

/-- All entries of the directory of the last end record before a position that has one. -/
def headersBelow? (b : ByteArray) : Nat → Option (List Header)
  | 0 => none
  | position + 1 =>
    match headersAt? b position with
    | some hs => some hs
    | none => headersBelow? b position

def headers? (b : ByteArray) : Option (List Header) :=
  headersBelow? b b.size

end DmarcReports.Zip
