import DmarcReports.Toml.Moment
import DmarcReports.Toml.Number
import DmarcReports.Toml.Table

/-!
Values: text, numbers, truth values, moments, arrays and tables in braces.

Arrays may go over several lines, with comments in them and a comma behind their last element. A
table in braces stands on one line.
-/

set_option autoImplicit false
set_option relaxedAutoImplicit false

namespace DmarcReports.Toml

open Settings (Value)
open Text (Read)

/-- Skips blanks, line ends and comments; `comment` tells that the text starts in a comment. -/
def skipLines (comment : Bool) : List Char → List Char
  | [] => []
  | '\r' :: '\n' :: cs => skipLines false cs
  | '\n' :: cs => skipLines false cs
  | c :: cs =>
    if comment then if Text.Escape.isPlain c then skipLines true cs else c :: cs
    else if c = ' ' ∨ c = '\t' then skipLines false cs
    else if c = '#' then skipLines true cs
    else c :: cs

/-- A value that is no array and no table. -/
def scalar : Read Value
  | 't' :: 'r' :: 'u' :: 'e' :: cs => some (.boolean true, cs)
  | 'f' :: 'a' :: 'l' :: 's' :: 'e' :: cs => some (.boolean false, cs)
  | cs =>
    match Quoted.text cs, Moment.rest? cs with
    | some (s, rest), _ => some (.string s, rest)
    | none, some rest => some (.table [], rest)
    | none, none => Number.number cs

/-- The elements of an array, behind its bracket or a comma; at most `fuel` of them. -/
def elements (read : Read Value) : Nat → Read (List Value)
  | 0, _ => none
  | fuel + 1, cs =>
    match skipLines false cs with
    | ']' :: rest => some ([], rest)
    | cs' => do
      let (v, rest) ← read cs'
      match skipLines false rest with
      | ',' :: rest' =>
        let (vs, rest'') ← elements read fuel rest'
        return (v :: vs, rest'')
      | ']' :: rest' => return ([v], rest')
      | _ => none

def entry (read : Read Value) : Read (Key × Value) := fun cs => do
  let (k, rest) ← key cs
  match rest with
  | '=' :: rest' =>
    let (v, rest'') ← read (Text.skipBlanks rest')
    return ((k, v), rest'')
  | _ => none

/-- The entries of a table in braces, of which there is one at least; at most `fuel` of them. -/
def members (read : Read Value) : Nat → Read (List (Key × Value))
  | 0, _ => none
  | fuel + 1, cs => do
    let (e, rest) ← entry read cs
    match Text.skipBlanks rest with
    | ',' :: rest' =>
      let (es, rest'') ← members read fuel rest'
      return (e :: es, rest'')
    | '\x7d' :: rest' => return ([e], rest')
    | _ => none

def bracketed (read : Read Value) : Read Value := fun cs =>
  (elements read (cs.length + 1) cs).map fun (vs, rest) => (.array vs, rest)

def braced (read : Read Value) : Read Value := fun cs =>
  match Text.skipBlanks cs with
  | '\x7d' :: rest => some (.table [], rest)
  | cs' => do
    let (es, rest) ← members read cs'.length cs'
    let t ← Entries.addAll es []
    return (.table (entryValues t), rest)

/-- A value in which arrays and tables are nested at most so deep. -/
def value : Nat → Read Value
  | depth + 1, '[' :: cs => bracketed (value depth) cs
  | depth + 1, '\x7b' :: cs => braced (value depth) cs
  | _, cs => scalar cs

end DmarcReports.Toml
