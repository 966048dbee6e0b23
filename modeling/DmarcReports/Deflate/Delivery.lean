import DmarcReports.Bytes.Feed
import DmarcReports.Deflate.Stream

/-!
How the output of a compressed stream is handed out.

The output goes through a window of `windowSize` bytes, and the input arrives in pieces. A read ends
where the window is full and either enough is at hand or the piece is used up, and where more input
is needed than the piece has; a read that finds the input damaged hands out nothing.
-/

set_option autoImplicit false
set_option relaxedAutoImplicit false

namespace DmarcReports.Deflate

/-- How the input of a stream arrives. -/
structure Supply where
  /-- The size of every piece but the last one. -/
  pieceSize : Nat
  /-- The number of bytes before the stream. -/
  origin : Nat
  /-- The number of bytes of the whole input. -/
  total : Nat

namespace Supply

def pieceOf (s : Supply) (byte : Nat) : Nat :=
  byte / s.pieceSize

def byteBehind (s : Supply) (read : Nat) : Nat :=
  s.origin + (read + 7) / 8

def usesUp (s : Supply) (piece read : Nat) : Bool :=
  s.byteBehind read == min (s.pieceSize * (piece + 1)) s.total

end Supply

def windowSize : Nat := 32768

structure Delivery where
  bytes : ByteArray
  /-- Where the reads ended, the last one in front. -/
  cuts : List Nat
  /-- The piece of the input that was needed last. -/
  piece : Nat

namespace Delivery

def handedOut (d : Delivery) : Nat :=
  d.cuts.headD 0

/-- Ends a read, if anything is at hand. -/
def cut (d : Delivery) : Delivery :=
  if d.handedOut < d.bytes.size then { d with cuts := d.bytes.size :: d.cuts } else d

def need (s : Supply) (d : Delivery) (read : Nat) : Delivery :=
  let piece := s.pieceOf (s.origin + (read - 1) / 8)
  if d.piece < piece then { d.cut with piece := piece } else d

/-- Whether the window is full and the read ends, with so many bits read. -/
def endsRead (s : Supply) (d : Delivery) (read : Nat) : Bool :=
  d.bytes.size % windowSize = 0 && d.handedOut < d.bytes.size &&
    (Feed.readSize ≤ d.bytes.size - d.handedOut || s.usesUp d.piece read)

def put (s : Supply) (read : Nat) (d : Delivery) (b : UInt8) : Delivery :=
  let d := if endsRead s d read then { d.cut with piece := s.pieceOf (s.byteBehind read) } else d
  { d with bytes := d.bytes.push b }

/-- The byte at this distance from the end of the output, zero before its start. -/
def back (d : Delivery) (distance : Nat) : UInt8 :=
  if distance ≤ d.bytes.size then (d.bytes[d.bytes.size - distance]?).getD 0 else 0

def copy (s : Supply) (read distance : Nat) : Nat → Delivery → Delivery
  | 0, d => d
  | n + 1, d => copy s read distance n (d.put s read (d.back distance))

def add (s : Supply) (d : Delivery) (t : Token × Nat) : Delivery :=
  let d := d.need s t.2
  match t.1 with
  | .literal b => d.put s t.2 b
  | .copy length distance => copy s t.2 distance length d

/-- Ends the last read; one that finds the input damaged hands nothing out. -/
def finish (s : Supply) (d : Delivery) : Except Stop Bits → Delivery
  | .error (.corrupt read) => d.need s read
  | _ => d.cut

def chunks (d : Delivery) : List ByteArray :=
  let stops := d.cuts.reverse
  ((0 :: stops).zip stops).flatMap fun r => Feed.chunksBetween d.bytes r.1 r.2

def ofStream (s : Supply) (stream : Stream) : Delivery :=
  finish s (stream.tokens.foldl (add s) ⟨.empty, [], s.pieceOf s.origin⟩) stream.rest

end Delivery

end DmarcReports.Deflate
