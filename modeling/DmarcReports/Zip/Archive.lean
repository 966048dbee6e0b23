import DmarcReports.Deflate.Delivery
import DmarcReports.Zip.Directory

/-!
Archives as a list of entries, each with its name, its declared size and its content.

Entries of one name are one entry: it has the place of the first and the content of the last.
-/

set_option autoImplicit false
set_option relaxedAutoImplicit false

namespace DmarcReports.Zip

structure Entry where
  name : String
  /-- The size that the directory declares. -/
  size : UInt64
  /-- Whether the entry is where the directory says. -/
  readable : Bool
  /-- The content, if it is neither encrypted nor compressed by an unknown method. -/
  content : Unit → Option Feed

/-- Puts an entry in the place of the one with its name, or at the end. -/
def file (h : Header) : List Header → List Header
  | [] => [h]
  | x :: xs => if x.name = h.name then h :: xs else x :: file h xs

/-- One entry for each name. -/
def collapse (hs : List Header) : List Header :=
  hs.foldl (fun filed h => file h filed) []

namespace Entry

def signature : Nat := 0x04034B50

/-- The content as it is stored; none where the entry does not start as it must. -/
def stored? (b : ByteArray) (h : Header) : Option ByteArray := do
  guard ((← LittleEndian.u32? b h.start) = signature)
  let nameLength ← LittleEndian.u16? b (h.start + 26)
  let extraLength ← LittleEndian.u16? b (h.start + 28)
  let start := h.start + 30 + nameLength + extraLength
  return b.extract start (start + h.compressedSize)

def checked (h : Header) (content : ByteArray) : Feed :=
  if (Crc32.ofBytes content).toNat = h.crc then .ended else .failed ()

def plainFeed (h : Header) (stored : ByteArray) : Feed :=
  .ofChunks (Feed.chunksBetween stored 0 stored.size) (checked h stored)

/-- The size of the pieces in which compressed content arrives. -/
def pieceSize : Nat := 8192

def deflatedFeed (h : Header) (stored : ByteArray) : Feed :=
  let stream := Deflate.Stream.read stored.data.toList
  let delivery := Deflate.Delivery.ofStream ⟨pieceSize, 0, stored.size⟩ stream
  .ofChunks delivery.chunks <|
    match stream.rest with
    | .error _ => .failed ()
    | .ok _ => checked h delivery.bytes

def feed? (h : Header) (stored : ByteArray) : Option Feed :=
  if h.encrypted || h.aes then none
  else match h.method with
    | 0 => some (plainFeed h stored)
    | 8 => some (deflatedFeed h stored)
    | _ => none

def ofHeader (b : ByteArray) (h : Header) : Entry where
  name := h.name
  size := UInt64.ofNat h.size
  readable := (stored? b h).isSome
  content := fun _ => (stored? b h).bind (feed? h)

end Entry

def entries? (b : ByteArray) : Option (List Entry) :=
  (headers? b).map fun hs => (collapse hs).map (Entry.ofHeader b)

end DmarcReports.Zip
