import DmarcReports.Decimal.Shortest
import DmarcReports.Text.Ascii
import DmarcReports.Text.Numeral

/-!
Numerals of binary64 numbers: digits with at most one point, and an exponent that may follow them.
-/

set_option autoImplicit false
set_option relaxedAutoImplicit false

namespace DmarcReports.Decimal

def integer? : List Char → Option Int
  | '-' :: cs => (Text.digits? cs).map fun n => -(n : Int)
  | '+' :: cs => (Text.digits? cs).map fun n => (n : Int)
  | cs => (Text.digits? cs).map fun n => (n : Int)

/-- The exponent that follows the digits, zero where nothing does. -/
def exponent? : List Char → Option Int
  | [] => some 0
  | c :: cs => if c = 'e' ∨ c = 'E' then integer? cs else none

def splitDigits (cs : List Char) : List Char × List Char × List Char :=
  match cs.span Char.isDigit with
  | (whole, '.' :: rest) => (whole, rest.span Char.isDigit)
  | (whole, rest) => (whole, [], rest)

def magnitude? (cs : List Char) : Option Float := do
  let (whole, fraction, rest) := splitDigits cs
  let mantissa ← Text.digits? (whole ++ fraction)
  let exponent ← exponent? rest
  return toFloat mantissa (exponent - fraction.length)

/-- The number that a name in letters of any case tells. -/
def named? (cs : List Char) : Option Float :=
  match String.ofList (Text.asciiLower cs) with
  | "inf" | "infinity" => some (1.0 / 0.0)
  | "nan" => some (0.0 / 0.0)
  | _ => none

def float? : List Char → Option Float
  | '-' :: cs => ((named? cs).or (magnitude? cs)).map Float.neg
  | '+' :: cs => (named? cs).or (magnitude? cs)
  | cs => (named? cs).or (magnitude? cs)

end DmarcReports.Decimal
