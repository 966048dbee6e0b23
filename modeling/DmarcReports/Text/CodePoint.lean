/-!
Characters by their number in a fixed count of hexadecimal digits.
-/

set_option autoImplicit false
set_option relaxedAutoImplicit false

namespace DmarcReports.Text

def hexDigit? (c : Char) : Option Nat :=
  if c.isDigit then some (c.toNat - '0'.toNat)
  else if 'a' ≤ c ∧ c ≤ 'f' then some (c.toNat - 'a'.toNat + 10)
  else if 'A' ≤ c ∧ c ≤ 'F' then some (c.toNat - 'A'.toNat + 10)
  else none

/-- A character's number that is being read: how many digits are left, and the number so far. -/
structure CodePoint where
  left : Nat
  value : Nat := 0
deriving DecidableEq, Repr

/-- One digit on; the last one gives the character, where the number has one. -/
def CodePoint.step (n : CodePoint) (c : Char) : Option (CodePoint ⊕ Char) := do
  let value := 16 * n.value + (← hexDigit? c)
  if 1 < n.left then return .inl ⟨n.left - 1, value⟩
  if value.isValidChar then return .inr (Char.ofNat value)
  none

end DmarcReports.Text
