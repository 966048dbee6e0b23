import DmarcReports.Bytes.Crc32
import DmarcReports.Bytes.LittleEndian
import DmarcReports.Deflate.Delivery

/-!
GZIP streams: one compressed member after the other, each with a header in front and a checksum
behind.

All members together are one content. Whatever follows a member has to be a complete member again.
-/

set_option autoImplicit false
set_option relaxedAutoImplicit false

namespace DmarcReports.Gzip

def hasMagic (bytes : ByteArray) : Bool :=
  bytes[0]? == some 0x1F && bytes[1]? == some 0x8B

def maxText : Nat := 65535

/-- A place in a member: how many of its bytes are passed, and those that follow. -/
structure Place where
  passed : Nat
  rest : List UInt8
deriving DecidableEq, Repr

namespace Place

def skip? : Nat → Place → Option Place
  | 0, p => some p
  | n + 1, ⟨passed, _ :: bs⟩ => skip? n ⟨passed + 1, bs⟩
  | _ + 1, ⟨_, []⟩ => none

/-- The place behind a field that starts with its length. -/
def skipSized? (p : Place) : Option Place :=
  match p.rest with
  | low :: high :: bs => skip? (LittleEndian.ofBytes [low, high]) ⟨p.passed + 2, bs⟩
  | _ => none

/-- The place behind a text that ends in a zero byte. -/
def skipText? (p : Place) : Option Place :=
  match p.rest.span (· ≠ 0) with
  | (text, _ :: rest) =>
    if text.length ≤ maxText then some ⟨p.passed + text.length + 1, rest⟩ else none
  | (_, []) => none

/-- The place behind a checksum of all that is passed of the member. -/
def skipSum? (member : List UInt8) (p : Place) : Option Place :=
  match p.rest with
  | low :: high :: bs =>
    if (Crc32.ofList (member.take p.passed)).toNat % UInt16.size =
        LittleEndian.ofBytes [low, high] then
      some ⟨p.passed + 2, bs⟩
    else none
  | _ => none

def skipIf? (flags : UInt8) (bit : Nat) (field : Place → Option Place) (p : Place) : Option Place :=
  if flags.toNat.testBit bit then field p else some p

def skipTrailer? (content : ByteArray) (p : Place) : Option Place :=
  if LittleEndian.ofBytes (p.rest.take 4) = (Crc32.ofBytes content).toNat ∧
      LittleEndian.ofBytes ((p.rest.drop 4).take 4) = content.size % UInt32.size then
    p.skip? 8
  else none

end Place

/-- The place behind the header of a member: magic, method, flags, six bytes that do not matter, and
the optional fields. -/
def behindHeader? (member : List UInt8) : Option Place :=
  match member with
  | 0x1F :: 0x8B :: 8 :: flags :: bs =>
    if flags &&& 0xE0 ≠ 0 then none
    else do
      let p ← Place.skip? 6 ⟨4, bs⟩
      let p ← p.skipIf? flags 2 Place.skipSized?
      let p ← p.skipIf? flags 3 Place.skipText?
      let p ← p.skipIf? flags 4 Place.skipText?
      p.skipIf? flags 1 (Place.skipSum? member)
  | _ => none

def pieceSize : Nat := 32768

/-- The content of the members in `bs`, which start at position `origin` of an input of `total`
bytes. Every member has a byte at least. -/
def members (total : Nat) : Nat → Nat → List UInt8 → Feed
  | 0, _, _ => .failed ()
  | rounds + 1, origin, bs =>
    match behindHeader? bs with
    | none => .failed ()
    | some body =>
      let stream := Deflate.Stream.read body.rest
      let delivery := Deflate.Delivery.ofStream ⟨pieceSize, origin + body.passed, total⟩ stream
      .ofChunks delivery.chunks <|
        match stream.rest with
        | .error _ => .failed ()
        | .ok s =>
          match Place.skipTrailer? delivery.bytes ⟨body.passed + s.align.read / 8, s.align.rest⟩ with
          | none => .failed ()
          | some ⟨_, []⟩ => .ended
          | some ⟨passed, rest⟩ => members total rounds (origin + passed) rest

def feed (bytes : ByteArray) : Feed :=
  members bytes.size (bytes.size + 1) 0 bytes.data.toList

end DmarcReports.Gzip
