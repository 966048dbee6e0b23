import DmarcReports.Text.Numeral
import DmarcReports.Text.Read

/-!
Moments: days of the calendar, times of the day, and both together with an offset that may follow.

No setting is a moment, so that all that is told is how far one reaches.
-/

set_option autoImplicit false
set_option relaxedAutoImplicit false

namespace DmarcReports.Toml.Moment

open Text (Read)

/-- A number of exactly so many digits, at most `bound`. -/
def field (width bound : Nat) : Read Nat := fun cs => do
  let n ← Text.digits? (cs.take width)
  if (cs.take width).length = width ∧ n ≤ bound then return (n, cs.drop width)
  none

/-- What follows the character, if the text starts with it. -/
def mark (c : Char) (cs : List Char) : Option (List Char) :=
  if cs.head? = some c then some cs.tail else none

def isLeapYear (year : Nat) : Bool :=
  year % 4 = 0 && (year % 100 ≠ 0 || year % 400 = 0)

def daysIn (year month : Nat) : Nat :=
  if month = 2 then if isLeapYear year then 29 else 28
  else if [4, 6, 9, 11].contains month then 30
  else 31

def day (cs : List Char) : Option (List Char) := do
  let (year, cs) ← field 4 9999 cs
  let (month, cs) ← field 2 12 (← mark '-' cs)
  let (d, cs) ← field 2 (daysIn year month) (← mark '-' cs)
  if month = 0 ∨ d = 0 then none
  return cs

def skipParts : List Char → List Char
  | '.' :: cs => if cs.head?.any Char.isDigit then cs.dropWhile Char.isDigit else '.' :: cs
  | cs => cs

def time (cs : List Char) : Option (List Char) := do
  let (_, cs) ← field 2 23 cs
  let (_, cs) ← field 2 59 (← mark ':' cs)
  let (_, cs) ← field 2 60 (← mark ':' cs)
  return skipParts cs

def offset : List Char → Option (List Char)
  | c :: cs =>
    if c = 'Z' ∨ c = 'z' then some cs
    else if c = '+' ∨ c = '-' then do
      let (_, cs) ← field 2 23 cs
      let (_, cs) ← field 2 59 (← mark ':' cs)
      return cs
    else none
  | [] => none

/-- What follows a time that is told with a day. -/
def timeOfDay : List Char → Option (List Char)
  | c :: cs =>
    if c = 'T' ∨ c = 't' ∨ c = ' ' then
      (time cs).map fun rest => (offset rest).getD rest
    else none
  | [] => none

def rest? (cs : List Char) : Option (List Char) :=
  match day cs with
  | some rest => some ((timeOfDay rest).getD rest)
  | none => time cs

end DmarcReports.Toml.Moment
