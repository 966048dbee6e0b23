import DmarcReports.Text.Blank
import DmarcReports.Text.PrintableTable

/-!
Text in double quotes, with all characters that would not show written by name or number.
-/

set_option autoImplicit false
set_option relaxedAutoImplicit false

namespace DmarcReports.Text.Quoted

def isShown (c : Char) : Bool :=
  !inRanges PrintableTable.unprintable c.toNat && !inRanges PrintableTable.graphemeExtend c.toNat

def numbered (c : Char) : List Char :=
  ['\\', 'u', '\x7b'] ++ Nat.toDigits 16 c.toNat ++ ['\x7d']

def escape (c : Char) : List Char :=
  if c = '\x00' then ['\\', '0']
  else if c = '\t' then ['\\', 't']
  else if c = '\r' then ['\\', 'r']
  else if c = '\n' then ['\\', 'n']
  else if c = '"' ∨ c = '\\' then ['\\', c]
  else if isShown c then [c]
  else numbered c

def quote (s : String) : String :=
  String.ofList ('"' :: s.toList.flatMap escape ++ ['"'])

end DmarcReports.Text.Quoted
