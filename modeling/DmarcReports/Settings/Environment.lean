import DmarcReports.Settings.Literal
import DmarcReports.Text.Ascii
import DmarcReports.Text.Pieces

/-!
Settings from variables of the environment.

A variable is a setting if its name starts with a mark, in letters of any case. What follows names
the setting, with two underscores between a group and its member.
-/

set_option autoImplicit false
set_option relaxedAutoImplicit false

namespace DmarcReports.Settings.Environment

/-- What the names of settings start with. -/
def mark : String := "DMARCGUARD_"

/-- Variables by name; one that is set again keeps its place. -/
def ofAssignments (vs : List (String × String)) : List (String × String) :=
  vs.foldl (fun acc v => put v.1 v.2 acc) []

/-- Two underscores as a point each, from left to right. -/
def points : List Char → List Char
  | '_' :: '_' :: cs => '.' :: points cs
  | c :: cs => c :: points cs
  | [] => []

def unmarked? (name : List Char) : Option (List Char) :=
  if Text.asciiLower mark.toList = Text.asciiLower (name.take mark.length) then
    some (name.drop mark.length)
  else none

/-- The keys that a variable's name leads through; none where it names no setting. -/
def path? (name : String) : Option (List String) := do
  let rest ← unmarked? (Text.trimChars name.toList)
  let keys := Text.pieces '.' (points (Text.asciiLower rest))
  if keys.any List.isEmpty then none
  return keys.map String.ofList

def valueOf? (name text : String) : Option Value :=
  (path? name).map fun path => Value.nest path (Literal.ofText text)

/-- The values of all variables, each laid over those before it. -/
def layer (vs : List (String × String)) : Value :=
  (vs.filterMap fun v => valueOf? v.1 v.2).foldl Value.lay (.table [])

end DmarcReports.Settings.Environment
