/-!
Parts of a text by their position in its UTF-8 bytes. A position inside of a character has no part.
-/

set_option autoImplicit false
set_option relaxedAutoImplicit false

namespace DmarcReports.Text.ByteOffset

/-- The characters before and behind a position, where one character starts or the text ends; the
first ones are given with the last in front. -/
def splitFrom? : List Char → Nat → List Char → Option (List Char × List Char)
  | before, 0, cs => some (before.reverse, cs)
  | _, _ + 1, [] => none
  | before, n + 1, c :: cs =>
    if c.utf8Size ≤ n + 1 then splitFrom? (c :: before) (n + 1 - c.utf8Size) cs else none

def behind? (cs : List Char) (start : Nat) : Option (List Char) :=
  (splitFrom? [] start cs).map Prod.snd

def between? (cs : List Char) (start stop : Nat) : Option (List Char) := do
  let rest ← behind? cs start
  let (part, _) ← splitFrom? [] (stop - start) rest
  return part

end DmarcReports.Text.ByteOffset
