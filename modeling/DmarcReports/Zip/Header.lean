import DmarcReports.Bytes.Crc32
import DmarcReports.Bytes.LittleEndian
import DmarcReports.Text.CodePage
import DmarcReports.Text.Utf8

/-!
What the directory of an archive says of one entry, and the extra fields that change it.

A field whose parts contradict each other damages the archive; where the fields are cut short, what
they have said up to there counts.
-/

set_option autoImplicit false
set_option relaxedAutoImplicit false

namespace DmarcReports.Zip

/-- One entry as the directory lists it. -/
structure Header where
  /-- The name as it is stored. -/
  rawName : List UInt8
  name : String
  comment : String
  encrypted : Bool
  /-- Whether the content is encrypted with AES. -/
  aes : Bool := false
  method : Nat
  crc : Nat
  compressedSize : Nat
  size : Nat
  /-- Where the entry itself starts. -/
  start : Nat
deriving DecidableEq, Repr

/-- The value of a size that does not fit into 32 bits, before its extra field is read. -/
def sizeElsewhere : Nat := 0xFFFFFFFF

namespace Extra

inductive Outcome where
  | read (h : Header) (rest : List UInt8)
  /-- The fields end too soon. -/
  | cutShort (h : Header)
  /-- The field contradicts itself. -/
  | damaged

def number? (size : Nat) (bs : List UInt8) : Option (Nat × List UInt8) :=
  if size ≤ bs.length then some (LittleEndian.ofBytes (bs.take size), bs.drop size) else none

def skip (h : Header) (size : Nat) (bs : List UInt8) : Outcome :=
  if size ≤ bs.length then .read h (bs.drop size) else .cutShort h

/-- The sizes that may be given in 64 bits, in their order: how to look one up and change it. -/
def largeSizes : List ((Header → Nat) × (Header → Nat → Header)) := [
  (Header.size, fun h n => { h with size := n }),
  (Header.compressedSize, fun h n => { h with compressedSize := n }),
  (Header.start, fun h n => { h with start := n })]

/-- Reads the sizes that are given in 64 bits; `used` counts their bytes. -/
def takeLarge (length : Nat) :
    List ((Header → Nat) × (Header → Nat → Header)) → Header → Nat → List UInt8 → Outcome
  | [], h, used, bs => if length < used then .damaged else skip h (length - used) bs
  | (get, set) :: sizes, h, used, bs =>
    if 24 ≤ length ∨ get h = sizeElsewhere then
      match number? 8 bs with
      | none => .cutShort h
      | some (n, bs) => takeLarge length sizes (set h n) (used + 8) bs
    else takeLarge length sizes h used bs

def fileTimes (h : Header) (length : Nat) (bs : List UInt8) : Outcome :=
  if length ≠ 32 then .damaged
  else match number? 4 bs with
    | none => .cutShort h
    | some (_, bs) => match number? 2 bs with
      | none => .cutShort h
      | some (tag, bs) =>
        if tag ≠ 1 then .damaged
        else match number? 2 bs with
          | none => .cutShort h
          | some (size, bs) => if size ≠ 24 then .damaged else skip h 24 bs

/-- How many of the lowest bits are set. -/
def countBits (n : Nat) : Nat → Nat
  | 0 => 0
  | k + 1 => countBits n k + (n.testBit k).toNat

/-- Checks the Unix times. The flags tell which are there; the length has to agree, and only the
three known times are read. -/
def unixTimes (h : Header) (length : Nat) (bs : List UInt8) : Outcome :=
  match number? 1 bs with
  | none => .cutShort h
  | some (flags, bs) =>
    if length ≠ 5 ∧ length ≠ 1 + 4 * countBits flags 8 then .damaged
    else
      let modified := flags.testBit 0 || length == 5
      let times := modified.toNat + if 5 < length then countBits (flags / 2) 2 else 0
      skip h (4 * times) bs

/-- Reads a text that replaces a stored one, if it has the checksum of that one. -/
def replacement (h : Header) (length : Nat) (stored : List UInt8)
    (set : List UInt8 → String → Header) (bs : List UInt8) : Outcome :=
  match number? 5 bs with
  | none => .cutShort h
  | some (head, bs) =>
    if length < 5 then .damaged
    else if bs.length < length - 5 then .cutShort h
    else
      let text := bs.take (length - 5)
      match String.fromUTF8? ⟨text.toArray⟩ with
      | some s =>
        if head / 256 = (Crc32.ofList stored).toNat then .read (set text s) (bs.drop (length - 5))
        else .damaged
      | none => .damaged

def aes (h : Header) (length : Nat) (bs : List UInt8) : Outcome :=
  if length ≠ 7 then .damaged
  else match number? 7 bs with
    | none => .cutShort h
    | some (n, bs) =>
      let version := n % 0x10000
      let vendor := n / 0x10000 % 0x10000
      let strength := n / 0x100000000 % 0x100
      if vendor = 0x4541 ∧ (version = 1 ∨ version = 2) ∧ (1 ≤ strength ∧ strength ≤ 3) then
        .read { h with method := n / 0x10000000000, aes := true } bs
      else .damaged

def field (h : Header) (bs : List UInt8) : Outcome :=
  match number? 4 bs with
  | none => .cutShort h
  | some (head, bs) =>
    let length := head / 0x10000
    match head % 0x10000 with
    | 0x0001 => takeLarge length largeSizes h 0 bs
    | 0x000A => fileTimes h length bs
    | 0x5455 => unixTimes h length bs
    | 0x6375 =>
      replacement h length h.comment.toUTF8.data.toList (fun _ s => { h with comment := s }) bs
    | 0x7075 =>
      replacement h length h.rawName (fun raw s => { h with rawName := raw, name := s }) bs
    | 0x9901 => aes h length bs
    | _ => skip h length bs

/-- Reads all fields; every round reads some bytes. -/
def fields : Nat → Header → List UInt8 → Option Header
  | 0, h, _ => some h
  | _, h, [] => some h
  | rounds + 1, h, bs =>
    match field h bs with
    | .read h rest => fields rounds h rest
    | .cutShort h => some h
    | .damaged => none

end Extra

namespace Header

def signature : Nat := 0x02014B50

def aesMethod : Nat := 99

/-- A stored text: UTF-8 where the entry is marked so, else of code page 437. -/
def textOf (utf8 : Bool) (bs : List UInt8) : String :=
  String.ofList (if utf8 then Text.Utf8.decodeLossy bs else Text.CodePage.decode bs)

/-- Reads the entry at a position of the directory, in an archive with so many bytes in front of it.
Returns the position behind it, too. -/
def read? (b : ByteArray) (shift position : Nat) : Option (Header × Nat) := do
  guard ((← LittleEndian.u32? b position) = signature)
  let flags ← LittleEndian.u16? b (position + 8)
  let method ← LittleEndian.u16? b (position + 10)
  let crc ← LittleEndian.u32? b (position + 16)
  let compressedSize ← LittleEndian.u32? b (position + 20)
  let size ← LittleEndian.u32? b (position + 24)
  let nameLength ← LittleEndian.u16? b (position + 28)
  let extraLength ← LittleEndian.u16? b (position + 30)
  let commentLength ← LittleEndian.u16? b (position + 32)
  let start ← LittleEndian.u32? b (position + 42)
  let name ← LittleEndian.range? b (position + 46) nameLength
  let extra ← LittleEndian.range? b (position + 46 + nameLength) extraLength
  let comment ← LittleEndian.range? b (position + 46 + nameLength + extraLength) commentLength
  let utf8 := flags.testBit 11
  let stored : Header := {
    rawName := name.data.toList
    name := textOf utf8 name.data.toList
    comment := textOf utf8 comment.data.toList
    encrypted := flags.testBit 0
    method, crc, compressedSize, size, start }
  let h ← Extra.fields extra.size stored extra.data.toList
  guard (h.method ≠ aesMethod ∨ h.aes)
  guard (h.start + shift < UInt64.size)
  return ({ h with start := h.start + shift },
    position + 46 + nameLength + extraLength + commentLength)

end Header

end DmarcReports.Zip
