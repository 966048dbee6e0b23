import DmarcReports.Text.AlphanumericTable
import DmarcReports.Text.Blank

/-!
Letters and numbers of all scripts.
-/

set_option autoImplicit false
set_option relaxedAutoImplicit false

namespace DmarcReports.Text

def isAlphanumeric (c : Char) : Bool :=
  if c.toNat < 0x80 then c.isAlphanum else inRanges AlphanumericTable.ranges c.toNat

end DmarcReports.Text
