/-!
Decimal numerals as report and setting values write them: ASCII digits, one optional leading sign,
nothing else. A sign `+` is allowed before every numeral, a sign `-` only where negative values are.
-/

set_option autoImplicit false
set_option relaxedAutoImplicit false

namespace DmarcReports.Text

def digitValue (c : Char) : Nat :=
  c.toNat - '0'.toNat

/-- The number that a non-empty run of decimal digits writes. -/
def digits? (cs : List Char) : Option Nat :=
  if cs ≠ [] ∧ cs.all Char.isDigit then
    some (cs.foldl (fun n c => 10 * n + digitValue c) 0)
  else none

def dropPlus : List Char → List Char
  | '+' :: cs => cs
  | cs => cs

def unsigned? (bound : Nat) (cs : List Char) : Option Nat :=
  (digits? (dropPlus cs)).filter (· < bound)

/-- The value of a signed numeral in the range from `-bound` up to and without `bound`. -/
def signed? (bound : Nat) : List Char → Option Int
  | '-' :: cs => ((digits? cs).filter (· ≤ bound)).map fun n => -(n : Int)
  | cs => (unsigned? bound cs).map fun n => (n : Int)

def uint64? (cs : List Char) : Option UInt64 :=
  (unsigned? UInt64.size cs).map UInt64.ofNat

def uint32? (cs : List Char) : Option UInt32 :=
  (unsigned? UInt32.size cs).map UInt32.ofNat

def int64Bound : Nat := 0x8000000000000000

def int64? (cs : List Char) : Option Int64 :=
  (signed? int64Bound cs).map Int64.ofInt

end DmarcReports.Text
