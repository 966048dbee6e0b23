/-!
The shape of a policy domain: labels of letters, digits and hyphens between dots.

A label has at most 63 characters and neither starts nor ends in a hyphen, there are two labels or
more, and the last one has two characters or more.
-/

set_option autoImplicit false
set_option relaxedAutoImplicit false

namespace DmarcReports.HostName

def maxLength : Nat := 253

def maxLabel : Nat := 63

/-- Where the reader stands: completed labels, characters of the present one, and whether the last
character read was a hyphen. -/
structure Cursor where
  labels : Nat
  length : Nat
  hyphen : Bool
deriving DecidableEq, Repr

/-- One character on; none where no valid name continues this way. -/
def Cursor.advance (k : Cursor) (c : Char) : Option Cursor :=
  if c = '.' then
    if k.length = 0 ∨ k.hyphen = true then none else some ⟨k.labels + 1, 0, false⟩
  else if k.length = maxLabel then none
  else if c.isAlphanum then some ⟨k.labels, k.length + 1, false⟩
  else if c = '-' ∧ k.length ≠ 0 then some ⟨k.labels, k.length + 1, true⟩
  else none

def Cursor.mayEnd (k : Cursor) : Bool :=
  k.labels ≠ 0 && 2 ≤ k.length && !k.hyphen

def isValid (name : String) : Bool :=
  name.utf8ByteSize ≤ maxLength &&
    match name.toList.foldlM Cursor.advance ⟨0, 0, false⟩ with
    | some k => k.mayEnd
    | none => false

end DmarcReports.HostName
