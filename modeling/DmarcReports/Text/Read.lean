/-!
Readers: functions that take a part off the front of a text.
-/

set_option autoImplicit false
set_option relaxedAutoImplicit false

namespace DmarcReports.Text

/-- What the front of a text is read as, with the rest of the text. -/
abbrev Read (α : Type) : Type := List Char → Option (α × List Char)

/-- That whatever a reader takes off the front of a text has the property. -/
def Yields {α : Type} (p : α → Prop) (read : Read α) : Prop :=
  ∀ cs a rest, read cs = some (a, rest) → p a

def skipBlanks (cs : List Char) : List Char :=
  cs.dropWhile fun c => c = ' ' || c = '\t'

/-- What follows the end of a line that the text starts with. -/
def newline? : List Char → Option (List Char)
  | '\n' :: cs => some cs
  | '\r' :: '\n' :: cs => some cs
  | _ => none

end DmarcReports.Text
