import DmarcReports.Text.Blank

/-!
Classes of characters in XML: those that a document may hold, the space characters of markup, and
those that start and continue a name.
-/

set_option autoImplicit false
set_option relaxedAutoImplicit false

namespace DmarcReports.Xml

/-- Whether a document may hold the character. -/
def isLegal (c : Char) : Bool :=
  if c.toNat < 0x20 then c = '\t' || c = '\n' || c = '\r'
  else c.toNat ≠ 0xFFFE && c.toNat ≠ 0xFFFF

/-- Whether the character separates parts of markup. -/
def isSpace (c : Char) : Bool :=
  c = ' ' || c = '\t' || c = '\n' || c = '\r'

/-- Ranges beyond ASCII of the characters that start a name. -/
def nameStartRanges : List (Nat × Nat) := [
  (0xC0, 0xD6), (0xD8, 0xF6), (0xF8, 0x2FF), (0x370, 0x37D), (0x37F, 0x1FFF), (0x200C, 0x200D),
  (0x2070, 0x218F), (0x2C00, 0x2FEF), (0x3001, 0xD7FF), (0xF900, 0xFDCF), (0xFDF0, 0xFFFD),
  (0x10000, 0xEFFFF)]

/-- Ranges beyond ASCII of the characters that only continue a name. -/
def nameTailRanges : List (Nat × Nat) := [(0xB7, 0xB7), (0x300, 0x36F), (0x203F, 0x2040)]

def isNameStart (c : Char) : Bool :=
  if c.toNat < 0x80 then c.isAlpha || c = '_' || c = ':'
  else Text.inRanges nameStartRanges c.toNat

def isNameChar (c : Char) : Bool :=
  isNameStart c || c.isDigit || c = '-' || c = '.' || Text.inRanges nameTailRanges c.toNat

theorem isNameChar_of_isSpace {c : Char} (h : isSpace c = true) : isNameChar c = false := by
  simp only [isSpace, Bool.or_eq_true, decide_eq_true_eq] at h
  rcases h with ((rfl | rfl) | rfl) | rfl <;> rfl

end DmarcReports.Xml
