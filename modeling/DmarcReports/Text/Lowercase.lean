import DmarcReports.Text.Blank
import DmarcReports.Text.LowercaseTable
import DmarcReports.Text.CaseContextTable

/-!
Full lower-casing of text by the Unicode standard, independent of language.

Every character maps by itself, U+0130 to two characters, except the capital sigma: at the end of a
word it becomes `ς`, elsewhere `σ`. It ends a word when the nearest character before it that is not
case-ignorable is cased and the nearest such character after it is not.
-/

set_option autoImplicit false
set_option relaxedAutoImplicit false

namespace DmarcReports.Text

open LowercaseTable (Span spans)

def LowercaseTable.Span.holds (s : Span) (n : Nat) : Bool :=
  s.first ≤ n && n ≤ s.last && (n - s.first) % s.step == 0

/-- The lower case of one character, out of any context. -/
def lowerChar (c : Char) : List Char :=
  if c.toNat = 0x130 then ['i', Char.ofNat 0x307]
  else match spans.find? (·.holds c.toNat) with
    | some s => [Char.ofNat (s.target + (c.toNat - s.first))]
    | none => [c]

def isCased (c : Char) : Bool :=
  inRanges CaseContextTable.cased c.toNat

def isCaseIgnorable (c : Char) : Bool :=
  inRanges CaseContextTable.caseIgnorable c.toNat

/-- Whether the first character that is not case-ignorable is there and cased. -/
def meetsCased (cs : List Char) : Bool :=
  match cs.dropWhile isCaseIgnorable with
  | [] => false
  | c :: _ => isCased c

/-- Lower-casing with the characters before the cursor at hand, nearest first. -/
def lowerFrom : List Char → List Char → List Char
  | _, [] => []
  | before, c :: after =>
    let lowered :=
      if c = 'Σ' then [if meetsCased before && !meetsCased after then 'ς' else 'σ'] else lowerChar c
    lowered ++ lowerFrom (c :: before) after

def lowercase (s : String) : String :=
  String.ofList (lowerFrom [] s.toList)

end DmarcReports.Text
