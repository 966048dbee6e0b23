/-!
Feeds: what a source of bytes answers to one read after the other, until it ends or fails with an
error.
-/

set_option autoImplicit false
set_option relaxedAutoImplicit false

namespace DmarcReports

/-- The answers of a source of bytes. Where nobody asks for the error, a failure is just that. -/
inductive Feed (ε : Type := Unit) where
  | chunk (bytes : ByteArray) (rest : Feed ε)
  /-- A read that has to be tried again. -/
  | interrupted (rest : Feed ε)
  | ended
  | failed (error : ε)

namespace Feed

variable {ε : Type}

def content : Feed ε → ByteArray
  | chunk bytes rest => bytes ++ rest.content
  | interrupted rest => rest.content
  | ended | failed _ => .empty

def error? : Feed ε → Option ε
  | chunk _ rest | interrupted rest => rest.error?
  | ended => none
  | failed error => some error

def endsWell : Feed ε → Bool
  | chunk _ rest | interrupted rest => rest.endsWell
  | ended => true
  | failed _ => false

theorem isNone_error? (feed : Feed ε) : feed.error?.isNone = feed.endsWell := by
  induction feed with
  | chunk _ _ ih => exact ih
  | interrupted _ ih => exact ih
  | ended => rfl
  | failed _ => rfl

def ofChunks (chunks : List ByteArray) (rest : Feed ε) : Feed ε :=
  chunks.foldr chunk rest

/-- The most bytes that one read delivers. -/
def readSize : Nat := 64 * 1024

/-- The chunks in which the bytes from `start` up to `stop` are delivered. -/
def chunksBetween (bytes : ByteArray) (start stop : Nat) : List ByteArray :=
  (List.range ((stop - start + readSize - 1) / readSize)).map fun i =>
    bytes.extract (start + i * readSize) (min (start + (i + 1) * readSize) stop)

end Feed

end DmarcReports
