/-!
Reading text from bytes that may not be UTF-8.

A byte that cannot start a character, and the longest beginning of a character that does not go on
as it must, each stand for one U+FFFD. The reader takes one byte at a time.
-/

set_option autoImplicit false
set_option relaxedAutoImplicit false

namespace DmarcReports.Text.Utf8

/-- A character that is not complete: the value so far, how many bytes are missing, and the range
of the next one. -/
structure Partial where
  value : Nat
  missing : Nat
  low : Nat
  high : Nat
deriving DecidableEq, Repr

structure Reader where
  part : Option Partial := none
  text : List Char := []
deriving DecidableEq, Repr

/-- What stands for bytes that are no text. -/
def replacement : Char := Char.ofNat 0xFFFD

/-- The beginning of a character of several bytes, by its first byte. -/
def begin? (b : Nat) : Option Partial :=
  if 0xC2 ≤ b ∧ b ≤ 0xDF then some ⟨b - 0xC0, 1, 0x80, 0xBF⟩
  else if b = 0xE0 then some ⟨0, 2, 0xA0, 0xBF⟩
  else if b = 0xED then some ⟨0xD, 2, 0x80, 0x9F⟩
  else if 0xE1 ≤ b ∧ b ≤ 0xEF then some ⟨b - 0xE0, 2, 0x80, 0xBF⟩
  else if b = 0xF0 then some ⟨0, 3, 0x90, 0xBF⟩
  else if 0xF1 ≤ b ∧ b ≤ 0xF3 then some ⟨b - 0xF0, 3, 0x80, 0xBF⟩
  else if b = 0xF4 then some ⟨4, 3, 0x80, 0x8F⟩
  else none

namespace Reader

def start (text : List Char) (b : Nat) : Reader :=
  if b < 0x80 then ⟨none, Char.ofNat b :: text⟩
  else match begin? b with
    | some p => ⟨some p, text⟩
    | none => ⟨none, replacement :: text⟩

def step (r : Reader) (byte : UInt8) : Reader :=
  let b := byte.toNat
  match r.part with
  | none => start r.text b
  | some p =>
    if p.low ≤ b ∧ b ≤ p.high then
      let value := 64 * p.value + (b - 0x80)
      if p.missing = 1 then ⟨none, Char.ofNat value :: r.text⟩
      else ⟨some ⟨value, p.missing - 1, 0x80, 0xBF⟩, r.text⟩
    else start (replacement :: r.text) b

def finish (r : Reader) : List Char :=
  match r.part with
  | none => r.text.reverse
  | some _ => (replacement :: r.text).reverse

end Reader

/-- The text of bytes, with U+FFFD for what is no text. -/
def decodeLossy (bs : List UInt8) : List Char :=
  (bs.foldl Reader.step {}).finish

end DmarcReports.Text.Utf8
