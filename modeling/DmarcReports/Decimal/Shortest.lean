/-!
Decimal numerals of binary64 numbers.

A numeral is read to the nearest number. A number is written with the fewest digits that read back
to it, and of these with the digits nearest to it, in positional notation whatever its size.
-/

set_option autoImplicit false
set_option relaxedAutoImplicit false

namespace DmarcReports.Decimal

def digitCount (n : Nat) : Nat :=
  (Nat.toDigits 10 n).length

/-- The number nearest to `mantissa · 10 ^ exponent`, infinite where that is out of range. -/
def toFloat (mantissa : Nat) (exponent : Int) : Float :=
  let top : Int := digitCount mantissa + exponent
  if mantissa = 0 ∨ top < -330 then 0
  else if 310 < top then 1.0 / 0.0
  else Float.ofScientific mantissa (exponent < 0) exponent.natAbs

/-- A positive number as `mantissa · 2 ^ exponent`; `narrow` tells that the gap below it is half as
wide as the one above. -/
structure Binary where
  mantissa : Nat
  exponent : Int
  narrow : Bool

/-- How many fractions there are between two powers of two. -/
def fractions : Nat := 0x10000000000000

def signBit : Nat := 0x8000000000000000

def Binary.ofBits (bits : Nat) : Binary :=
  let fraction : Nat := bits % fractions
  let scale : Nat := bits / fractions % 0x800
  if scale = 0 then ⟨fraction, -1074, false⟩
  else ⟨fraction + fractions, (scale : Int) - 1075, fraction = 0 && scale ≠ 1⟩

/-- The power of a base with the exponent cut off below zero. -/
def power (base : Nat) (exponent : Int) : Nat :=
  Nat.pow base exponent.toNat

/-- A quarter of the mantissa's unit on a decimal grid, as a fraction. -/
def Binary.quarter (b : Binary) (k : Int) : Nat × Nat :=
  (power 2 (b.exponent - 2) * power 10 (-k), power 2 (2 - b.exponent) * power 10 k)

/-- Whether `digits · 10 ^ k` reads back to the number. -/
def Binary.readsBack (b : Binary) (k : Int) (digits : Nat) : Bool :=
  let (num, den) := b.quarter k
  let low := (4 * b.mantissa - if b.narrow then 1 else 2) * num
  let high := (4 * b.mantissa + 2) * num
  if b.mantissa % 2 = 0 then low ≤ digits * den && digits * den ≤ high
  else low < digits * den && digits * den < high

/-- The digits nearest to the number among those of its two neighbours on the grid that read
back. -/
def Binary.digitsOn? (b : Binary) (k : Int) : Option Nat :=
  let (num, den) := b.quarter k
  let low := 4 * b.mantissa * num / den
  match low ≠ 0 && b.readsBack k low, b.readsBack k (low + 1) with
  | true, true =>
    some (if 2 * (4 * b.mantissa * num) ≤ (2 * low + 1) * den then low else low + 1)
  | true, false => some low
  | false, true => some (low + 1)
  | false, false => none

/-- The digits on the first of so many grids that has any, from the exponent `k` downwards. -/
def Binary.search (b : Binary) : Nat → Int → Nat × Int
  | 0, _ => (b.mantissa * power 2 b.exponent, 0)
  | grids + 1, k =>
    match b.digitsOn? k with
    | some digits => (digits, k)
    | none => b.search grids (k - 1)

/-- The fewest digits that read back to the number, and the exponent of their grid. -/
def Binary.shortest (b : Binary) : Nat × Int :=
  b.search 30 ((b.mantissa.log2 + b.exponent + 1) * 1233 / 4096 + 2)

def positional (digits : Nat) (k : Int) : List Char :=
  let ds := Nat.toDigits 10 digits
  if 0 ≤ k then ds ++ List.replicate k.toNat '0'
  else
    let places := (-k).toNat
    let padded := List.replicate (places + 1 - ds.length) '0' ++ ds
    padded.take (padded.length - places) ++ '.' :: padded.drop (padded.length - places)

/-- A number that is not NaN in positional notation. -/
def render (x : Float) : String :=
  let bits := x.toBits.toNat
  let sign := if signBit ≤ bits then ['-'] else []
  let size := bits % signBit
  let text :=
    if size = 0 then ['0']
    else if 0x7FF * fractions ≤ size then ['i', 'n', 'f']
    else
      let (digits, k) := (Binary.ofBits size).shortest
      positional digits k
  String.ofList (sign ++ text)

end DmarcReports.Decimal
