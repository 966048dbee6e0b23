import DmarcReports.Decimal.Numeral
import DmarcReports.Settings.Value
import DmarcReports.Text.Blank
import DmarcReports.Text.Escape
import DmarcReports.Text.Read

/-!
The notation of values in variables: truth values, numbers, quoted text, arrays in brackets and
tables in braces. Anything else is text as it stands, without its blank ends.
-/

set_option autoImplicit false
set_option relaxedAutoImplicit false

namespace DmarcReports.Settings.Literal

open Text (Read)

def isSpace (c : Char) : Bool :=
  [' ', '\t', '\n', '\x0c', '\r'].contains c

def skipSpaces (cs : List Char) : List Char :=
  cs.dropWhile isSpace

def isSeparator (c : Char) : Bool :=
  [',', '\x7b', '\x7d', '[', ']'].contains c

/-- An unquoted text that is neither true nor false: a number with a point, a whole number, or the
text itself. -/
def word (cs : List Char) : Value :=
  match (if cs.contains '.' then Decimal.float? cs else none), Text.unsigned? UInt64.size cs,
    Text.signed? Text.int64Bound cs with
  | some x, _, _ => .float x
  | none, some n, _ => .integer n
  | none, none, some i => .integer i
  | none, none, none => .string (String.ofList cs)

/-- Items with commas between them and an optional one behind the last, up to the closing mark; at
most `fuel` of them. -/
def items {α : Type} (read : Read α) (close : Char) : Nat → Read (List α)
  | 0, _ => none
  | fuel + 1, cs =>
    if cs.head? = some close then some ([], cs.tail)
    else do
      let (a, rest) ← read cs
      match rest with
      | ',' :: rest' =>
        let (as, rest'') ← items read close fuel rest'
        return (a :: as, rest'')
      | c :: rest' => if c = close then some ([a], rest') else none
      | [] => none

/-- A key in quotes or of letters, digits, dashes and underscores. -/
def key : Read String
  | '"' :: cs => (Text.Escape.read? cs).map fun (text, rest) => (String.ofList text, rest)
  | cs =>
    match cs.span fun c => c.isAlphanum || c = '_' || c = '-' with
    | ([], _) => none
    | (name, rest) => some (String.ofList name, rest)

def entry (value : Read Value) : Read (String × Value) := fun cs => do
  let (k, rest) ← key (skipSpaces cs)
  match skipSpaces rest with
  | '=' :: rest' =>
    let (v, rest'') ← value rest'
    return ((k, v), rest'')
  | _ => none

/-- A value that is no array and no table. -/
def scalar : Read Value
  | 't' :: 'r' :: 'u' :: 'e' :: cs => some (.boolean true, cs)
  | 'f' :: 'a' :: 'l' :: 's' :: 'e' :: cs => some (.boolean false, cs)
  | '"' :: cs => (Text.Escape.read? cs).map fun (text, rest) => (.string (String.ofList text), rest)
  | '\'' :: c :: '\'' :: cs => some (.string c.toString, cs)
  | '\'' :: _ => none
  | cs =>
    let (text, rest) := cs.span (!isSeparator ·)
    some (word (Text.trimChars text), rest)

def array (read : Read Value) : Read Value := fun cs =>
  (items read ']' (cs.length + 1) cs).map fun (vs, rest) => (.array vs, rest)

/-- A table, behind its brace; the last value of a key counts. -/
def table (read : Read Value) : Read Value := fun cs =>
  (items (entry read) '\x7d' (cs.length + 1) cs).map fun (es, rest) =>
    (.table (es.foldl (fun acc e => put e.1 e.2 acc) []), rest)

def spaced (read : Read Value) : Read Value := fun cs =>
  (read (skipSpaces cs)).map fun (v, rest) => (v, skipSpaces rest)

/-- A value with spaces around it, in which arrays and tables are nested at most so deep. -/
def value : Nat → Read Value
  | 0 => spaced scalar
  | depth + 1 => spaced fun
    | '[' :: cs => array (value depth) cs
    | '\x7b' :: cs => table (value depth) cs
    | cs => scalar cs

/-- The value that a text tells: the text itself, where it does not follow the notation to its
end. -/
def ofText (text : String) : Value :=
  match value text.length text.toList with
  | some (v, []) => v
  | _ => .string text

end DmarcReports.Settings.Literal
