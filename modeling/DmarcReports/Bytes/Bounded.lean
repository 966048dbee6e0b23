import DmarcReports.Bytes.Feed

/-!
Reading a feed to its end, but no further than a limit.

A size announced beforehand reserves at most `reservable` bytes.
-/

set_option autoImplicit false
set_option relaxedAutoImplicit false

namespace DmarcReports

variable {ε : Type}

/-- The most bytes that an announced size reserves, one mebibyte. -/
def reservable : Nat := 16 * Feed.readSize

/-- Bytes with the room that is reserved for them. -/
structure Buffer where
  bytes : ByteArray
  capacity : Nat

namespace Buffer

def start (limit announced : Nat) : Buffer :=
  ⟨.empty, min (min announced limit) reservable⟩

/-- The largest capacity that a word can hold. -/
def largest : Nat := UInt64.size - 1

/-- The room aimed at when so many bytes have to fit: twice the present one, as far as that goes, or
more where it is not enough, and never more than the limit. -/
def target (b : Buffer) (limit needed : Nat) : Nat :=
  min (max (min (2 * b.capacity) largest) needed) limit

def reserve (b : Buffer) (limit needed : Nat) : Buffer :=
  if b.capacity < needed then
    ⟨b.bytes, max b.capacity (b.bytes.size + (b.target limit needed - b.bytes.size))⟩
  else b

def add (b : Buffer) (limit : Nat) (chunk : ByteArray) : Buffer :=
  let roomy := b.reserve limit (b.bytes.size + chunk.size)
  ⟨roomy.bytes ++ chunk, roomy.capacity⟩

theorem bytes_add (b : Buffer) (limit : Nat) (chunk : ByteArray) :
    (b.add limit chunk).bytes = b.bytes ++ chunk := by
  unfold add reserve
  split <;> rfl

end Buffer

/-- What reading up to a limit comes to. -/
inductive BoundedRead (ε : Type := Unit) where
  | complete (bytes : ByteArray)
  /-- The limit was passed when so many bytes had arrived. -/
  | exceeded (produced : Nat)
  | failed (error : ε)

namespace BoundedRead

def fill (limit : Nat) : Buffer → Feed ε → BoundedRead ε
  | b, .chunk bytes rest =>
    if limit < b.bytes.size + bytes.size then exceeded (b.bytes.size + bytes.size)
    else fill limit (b.add limit bytes) rest
  | b, .interrupted rest => fill limit b rest
  | b, .ended => complete b.bytes
  | _, .failed error => failed error

/-- Reads a feed of the announced size to its end, unless it passes the limit. -/
def read (limit announced : Nat) (feed : Feed ε) : BoundedRead ε :=
  fill limit (Buffer.start limit announced) feed

end BoundedRead

end DmarcReports
