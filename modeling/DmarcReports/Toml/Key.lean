import DmarcReports.Toml.Quoted

/-!
Keys: names in quotes or of letters, digits, dashes and underscores, joined by points to paths.
-/

set_option autoImplicit false
set_option relaxedAutoImplicit false

namespace DmarcReports.Toml

open Text (Read)

/-- Whether a character may stand in a name without quotes. -/
def isBare (c : Char) : Bool :=
  c.isAlphanum || c = '_' || c = '-'

def name : Read String := fun cs =>
  match cs.span isBare with
  | ([], _) => Quoted.line cs
  | (bare, rest) => some (String.ofList bare, rest)

def names : Nat → Read (List String)
  | 0, _ => none
  | fuel + 1, cs => do
    let (n, rest) ← name (Text.skipBlanks cs)
    match Text.skipBlanks rest with
    | '.' :: rest' =>
      let (ns, rest'') ← names fuel rest'
      return (n :: ns, rest'')
    | rest' => return ([n], rest')

/-- The place of a value in nested tables: the tables on the way to it, and its own name. -/
structure Key where
  path : List String
  name : String
deriving DecidableEq, Repr

/-- The most names in a key, and the most arrays and tables around a value. -/
def depthLimit : Nat := 79

def key : Read Key := fun cs => do
  let (ns, rest) ← names depthLimit cs
  let last ← ns.getLast?
  return (⟨ns.dropLast, last⟩, rest)

end DmarcReports.Toml
