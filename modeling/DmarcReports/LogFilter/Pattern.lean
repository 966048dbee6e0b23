import DmarcReports.Text.Alphanumeric
import DmarcReports.Text.CodePoint

/-!
Patterns that the text of a field is matched with: regular expressions over characters.

A filter only carries its patterns, so all that is told here is which texts are patterns. Counted
repetition and word boundaries are not among them, and neither are references back to a group.
-/

set_option autoImplicit false
set_option relaxedAutoImplicit false

namespace DmarcReports.LogFilter.Pattern

inductive Escaped where
  | literal (c : Char)
  | characters
  | position
deriving DecidableEq, Repr

inductive EscapeMode where
  | start
  | number (n : Text.CodePoint)
  | property
deriving DecidableEq, Repr

/-- One character on in an escape: still inside of it, or at its end. -/
inductive EscapeStep where
  | inside (mode : EscapeMode)
  | ended (e : Escaped)
deriving DecidableEq, Repr

/-- The letters with a meaning of their own behind a backslash. -/
def escapeLetter? : Char → Option EscapeStep
  | 'x' => some (.inside (.number { left := 2 }))
  | 'u' => some (.inside (.number { left := 4 }))
  | 'U' => some (.inside (.number { left := 8 }))
  | 'p' | 'P' => some (.inside .property)
  | 'd' | 'D' | 's' | 'S' | 'w' | 'W' => some (.ended .characters)
  | 'A' | 'z' => some (.ended .position)
  | 'a' => some (.ended (.literal '\x07'))
  | 'f' => some (.ended (.literal '\x0c'))
  | 't' => some (.ended (.literal '\t'))
  | 'n' => some (.ended (.literal '\n'))
  | 'r' => some (.ended (.literal '\r'))
  | 'v' => some (.ended (.literal '\x0b'))
  | _ => none

/-- The general categories of characters that have names of one letter. -/
def categories : List Char := ['c', 'l', 'm', 'n', 'p', 's', 'z']

def EscapeMode.step (m : EscapeMode) (c : Char) : Option EscapeStep :=
  match m with
  | .start =>
    if c.isAlphanum then escapeLetter? c
    else if c.toNat < 0x80 ∧ c ≠ '<' ∧ c ≠ '>' then some (.ended (.literal c))
    else none
  | .number n =>
    match n.step c with
    | some (.inl n') => some (.inside (.number n'))
    | some (.inr d) => some (.ended (.literal d))
    | none => none
  | .property => if categories.contains c.toLower then some (.ended .characters) else none

inductive ClassMode where
  /-- Behind the bracket; `negated` tells that a sign of negation came, `dashed` that a dash did. -/
  | opened (negated dashed : Bool)
  | item
  /-- Behind a character that is an item of its own, or one half of an operator. -/
  | half (c : Char)
  /-- Behind an item, which may be a single character. -/
  | afterItem (first : Option Char)
  /-- Behind an item and a dash. -/
  | afterDash (first : Option Char)
  /-- In an escape; `range` tells that it ends a range, from this character on. -/
  | escape (range : Option (Option Char)) (m : EscapeMode)
deriving DecidableEq, Repr

inductive GroupMode where
  | opened
  | question
  | capital
  | name (text : List Char)
  /-- The flags so far with the last one in front. -/
  | flags (seen : List Char)
deriving DecidableEq, Repr

inductive Mode where
  /-- Between items; `repeatable` tells that one stands before. -/
  | plain (repeatable : Bool)
  | escape (m : EscapeMode)
  /-- In a class, and in so many classes around it. -/
  | characters (depth : Nat) (m : ClassMode)
  | group (m : GroupMode)
deriving DecidableEq, Repr

/-- What a reader has found: the open groups and the names of groups. -/
structure Reader where
  mode : Mode := .plain false
  groups : Nat := 0
  names : List (List Char) := []
deriving DecidableEq, Repr

namespace Reader

def goto (r : Reader) (m : Mode) : Option Reader :=
  some { r with mode := m }

def stepPlain (r : Reader) (repeatable : Bool) (c : Char) : Option Reader :=
  match c with
  | '\\' => r.goto (.escape .start)
  | '[' => r.goto (.characters 0 (.opened false false))
  | '(' => some { r with mode := .group .opened, groups := r.groups + 1 }
  | ')' =>
    if r.groups = 0 then none else some { r with mode := .plain true, groups := r.groups - 1 }
  | '|' => r.goto (.plain false)
  | '*' | '+' | '?' => if repeatable then some r else none
  | '\x7b' => none
  | _ => r.goto (.plain true)

/-- The class ends, or the one around it goes on. -/
def closeClass (r : Reader) : Nat → Option Reader
  | 0 => r.goto (.plain true)
  | depth + 1 => r.goto (.characters depth .item)

def stepItem (r : Reader) (depth : Nat) (c : Char) : Option Reader :=
  match c with
  | ']' => r.closeClass depth
  | '[' => r.goto (.characters (depth + 1) (.opened false false))
  | '\\' => r.goto (.characters depth (.escape none .start))
  | '-' | '&' | '~' => r.goto (.characters depth (.half c))
  | _ => r.goto (.characters depth (.afterItem (some c)))

def stepAfterItem (r : Reader) (depth : Nat) (first : Option Char) (c : Char) : Option Reader :=
  if c = '-' then r.goto (.characters depth (.afterDash first)) else r.stepItem depth c

/-- The end of a range, which must not come before its start. -/
def endRange (r : Reader) (depth : Nat) (first : Option Char) (last : Char) : Option Reader :=
  if first.any (· ≤ last) then r.goto (.characters depth .item) else none

def stepClass (r : Reader) (depth : Nat) (m : ClassMode) (c : Char) : Option Reader :=
  match m with
  | .opened negated dashed =>
    if c = '^' ∧ ¬negated ∧ ¬dashed then r.goto (.characters depth (.opened true false))
    else if c = '-' then r.goto (.characters depth (.opened negated true))
    else if c = ']' ∧ ¬dashed then r.goto (.characters depth .item)
    else r.stepItem depth c
  | .item => r.stepItem depth c
  | .half first =>
    if c = first then r.goto (.characters depth .item) else r.stepAfterItem depth (some first) c
  | .afterItem first => r.stepAfterItem depth first c
  | .afterDash first =>
    match c with
    | ']' => r.closeClass depth
    | '-' => r.goto (.characters depth .item)
    | '\\' => r.goto (.characters depth (.escape (some first) .start))
    | c => r.endRange depth first c
  | .escape range m =>
    match m.step c, range with
    | some (.inside m'), _ => r.goto (.characters depth (.escape range m'))
    | some (.ended (.literal d)), none => r.goto (.characters depth (.afterItem (some d)))
    | some (.ended (.literal d)), some first => r.endRange depth first d
    | some (.ended .characters), none => r.goto (.characters depth (.afterItem none))
    | _, _ => none

def flagLetters : List Char := ['i', 'm', 's', 'U', 'u', 'R', 'x']

def stepFlags (r : Reader) (seen : List Char) (c : Char) : Option Reader :=
  if seen.head? ≠ some '-' ∧ c = ':' then r.goto (.plain false)
  else if seen.head? ≠ some '-' ∧ c = ')' ∧ seen ≠ [] then
    some { r with mode := .plain false, groups := r.groups - 1 }
  else if (flagLetters.contains c ∨ c = '-') ∧ ¬seen.contains c then
    r.goto (.group (.flags (c :: seen)))
  else none

/-- Whether the character may stand in the name of a group, of which `text` came before. -/
def isNamePart (text : List Char) (c : Char) : Bool :=
  if text.isEmpty then c = '_' || (Text.isAlphanumeric c && !c.isDigit)
  else Text.isAlphanumeric c || ['_', '.', '[', ']'].contains c

def stepGroup (r : Reader) (m : GroupMode) (c : Char) : Option Reader :=
  match m with
  | .opened => if c = '?' then r.goto (.group .question) else r.stepPlain false c
  | .question =>
    if c = 'P' then r.goto (.group .capital)
    else if c = '<' then r.goto (.group (.name []))
    else r.stepFlags [] c
  | .capital => if c = '<' then r.goto (.group (.name [])) else none
  | .name text =>
    if c = '>' then
      if text ≠ [] ∧ ¬r.names.contains text then
        some { r with mode := .plain false, names := text :: r.names }
      else none
    else if isNamePart text c then r.goto (.group (.name (c :: text)))
    else none
  | .flags seen => r.stepFlags seen c

def step (r : Reader) (c : Char) : Option Reader :=
  match r.mode with
  | .plain repeatable => r.stepPlain repeatable c
  | .escape m =>
    match m.step c with
    | some (.inside m') => r.goto (.escape m')
    | some (.ended _) => r.goto (.plain true)
    | none => none
  | .characters depth m => r.stepClass depth m c
  | .group m => r.stepGroup m c

def isComplete (r : Reader) : Bool :=
  r.groups = 0 && match r.mode with
    | .plain _ => true
    | _ => false

end Reader

def isValid (cs : List Char) : Bool :=
  (cs.foldlM Reader.step {}).any Reader.isComplete

end DmarcReports.LogFilter.Pattern
