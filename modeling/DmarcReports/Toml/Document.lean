import DmarcReports.Toml.Value

/-!
Documents: lines with entries, under headers that tell the table which they belong to.
-/

set_option autoImplicit false
set_option relaxedAutoImplicit false

namespace DmarcReports.Toml

open Settings (Value)
open Text (Read)

/-- A line that is neither empty nor a comment alone. -/
inductive Line where
  /-- The header of a table, or of one more table in an array. -/
  | header (inArray : Bool) (k : Key)
  | entry (k : Key) (v : Value)

namespace Line

/-- What follows the end of a line, before which a comment may stand. -/
def end? (cs : List Char) : Option (List Char) :=
  match Text.skipBlanks cs with
  | [] => some []
  | '#' :: cs' =>
    match cs'.dropWhile Text.Escape.isPlain with
    | [] => some []
    | cs'' => Text.newline? cs''
  | cs' => Text.newline? cs'

def read : Read Line
  | '[' :: '[' :: cs => do
    let (k, rest) ← key cs
    match rest with
    | ']' :: ']' :: rest' => return (.header true k, ← end? rest')
    | _ => none
  | '[' :: cs => do
    let (k, rest) ← key cs
    match rest with
    | ']' :: rest' => return (.header false k, ← end? rest')
    | _ => none
  | cs => do
    let ((k, v), rest) ← Toml.entry (value depthLimit) cs
    return (.entry k v, ← end? rest)

def readAll : Nat → List Char → Option (List Line)
  | 0, _ => none
  | fuel + 1, cs =>
    match skipLines false cs with
    | [] => some []
    | cs' => do
      let (l, rest) ← read cs'
      return l :: (← readAll fuel rest)

/-- The entries before the first header, and the headers with the entries under each. -/
def sections : List Line → List (Key × Value) × List ((Bool × Key) × List (Key × Value))
  | [] => ([], [])
  | .entry k v :: ls =>
    let (es, hs) := sections ls
    ((k, v) :: es, hs)
  | .header inArray k :: ls =>
    let (es, hs) := sections ls
    ([], ((inArray, k), es) :: hs)

end Line

def tableOf (ls : List Line) : Option Entries := do
  let (es, hs) := Line.sections ls
  let root ← Entries.addAll es []
  hs.foldlM (fun root h => root.openTable h.1.1 h.1.2.name h.2 h.1.2.path) root

/-- The document that the characters write, with at most one byte-order mark in front. -/
def ofChars? (cs : List Char) : Option Value := do
  let cs := if cs.head? = some '\ufeff' then cs.tail else cs
  let ls ← Line.readAll (cs.length + 1) cs
  let root ← tableOf ls
  return .table (entryValues root)

def ofBytes? (b : ByteArray) : Option Value :=
  (String.fromUTF8? b).bind fun s => ofChars? s.toList

end DmarcReports.Toml
