import DmarcReports.Text.Escape
import DmarcReports.Text.Read

/-!
Quoted text: on one line or on several, with escapes between double quotes and without any between
single ones.
-/

set_option autoImplicit false
set_option relaxedAutoImplicit false

namespace DmarcReports.Toml.Quoted

open Text (Read CodePoint)

/-- A text on one line between single quotes, behind the first one. -/
def literal : Read (List Char) := fun cs =>
  match cs.span fun c => c ≠ '\'' && Text.Escape.isPlain c with
  | (text, '\'' :: rest) => some (text, rest)
  | _ => none

inductive Mode where
  /-- Behind so many quotes of the kind that the text ends with. -/
  | plain (quotes : Nat)
  | escape
  | number (n : CodePoint)
  /-- In the space that a backslash at the end of a line takes away; `ended` tells that the line has
  ended. -/
  | space (ended : Bool)
deriving DecidableEq, Repr

/-- The mode in which a character is read, once it is known. -/
def Mode.settle (c : Char) : Mode → Mode
  | escape => if [' ', '\t', '\r', '\n'].contains c then space false else escape
  | space true => if [' ', '\t', '\r', '\n'].contains c then space true else plain 0
  | m => m

/-- Adds quotes to a text that is given with its last character in front. -/
def addQuotes (quote : Char) (n : Nat) (out : List Char) : List Char :=
  List.replicate n quote ++ out

/-- The text up to its three closing quotes, and what follows; `out` came before, with its last
character in front. -/
def scan (quote : Char) (escapes : Bool) : Mode → List Char → Read (List Char)
  | .plain quotes, out, [] =>
    if 3 ≤ quotes then some ((addQuotes quote (quotes - 3) out).reverse, []) else none
  | _, _, [] => none
  | m, out, c :: cs =>
    match m.settle c with
    | .plain quotes =>
      if c = quote then
        if quotes = 4 then some ((addQuotes quote 2 out).reverse, cs)
        else scan quote escapes (.plain (quotes + 1)) out cs
      else if 3 ≤ quotes then some ((addQuotes quote (quotes - 3) out).reverse, c :: cs)
      else
        let out := addQuotes quote quotes out
        if c = '\n' then scan quote escapes (.plain 0) ('\n' :: out) cs
        else if c = '\r' then
          if cs.head? = some '\n' then scan quote escapes (.plain 0) out cs else none
        else if escapes && c = '\\' then scan quote escapes .escape out cs
        else if Text.Escape.isPlain c then scan quote escapes (.plain 0) (c :: out) cs
        else none
    | .escape =>
      match Text.Escape.start? c with
      | some (.inl n) => scan quote escapes (.number n) out cs
      | some (.inr d) => scan quote escapes (.plain 0) (d :: out) cs
      | none => none
    | .number n =>
      match n.step c with
      | some (.inl n') => scan quote escapes (.number n') out cs
      | some (.inr d) => scan quote escapes (.plain 0) (d :: out) cs
      | none => none
    | .space ended =>
      if c = '\n' then scan quote escapes (.space true) out cs
      else if c = '\r' then
        if cs.head? = some '\n' then scan quote escapes (.space ended) out cs else none
      else if c = ' ' ∨ c = '\t' then scan quote escapes (.space ended) out cs
      else none

def lines (quote : Char) (escapes : Bool) : Read (List Char) := fun cs =>
  scan quote escapes (.plain 0) [] ((Text.newline? cs).getD cs)

def line : Read String
  | '"' :: cs => (Text.Escape.read? cs).map fun (text, rest) => (String.ofList text, rest)
  | '\'' :: cs => (literal cs).map fun (text, rest) => (String.ofList text, rest)
  | _ => none

def text : Read String
  | '"' :: '"' :: '"' :: cs =>
    (lines '"' true cs).map fun (text, rest) => (String.ofList text, rest)
  | '\'' :: '\'' :: '\'' :: cs =>
    (lines '\'' false cs).map fun (text, rest) => (String.ofList text, rest)
  | cs => line cs

end DmarcReports.Toml.Quoted
