import DmarcReports.Xml.Char

/-!
Character content: references and the ends of lines.

A reference is one of five names or the number of a character. A carriage return becomes a line
feed, alone or together with the line feed after it, and in the value of an attribute every
character of space becomes a blank. What a reference stands for is kept as it is, except that a
carriage return which a reference has left at the end becomes a line feed with the second character
after it.
-/

set_option autoImplicit false
set_option relaxedAutoImplicit false

namespace DmarcReports.Xml

/-- One character of content: written as itself or as a reference. -/
inductive Piece where
  | plain (c : Char)
  | referred (c : Char)
deriving DecidableEq, Repr

namespace Reference

def named : List (String × Char) :=
  [("quot", '"'), ("amp", '&'), ("apos", '\''), ("lt", '<'), ("gt", '>')]

def hexValue (c : Char) : Nat :=
  if c.isDigit then c.toNat - '0'.toNat else c.toLower.toNat - 'a'.toNat + 10

def isHex (c : Char) : Bool :=
  c.isDigit || ('a' ≤ c && c ≤ 'f') || ('A' ≤ c && c ≤ 'F')

/-- The number that digits of the base write, where it fits into 32 bits. -/
def number? (base : Nat) (isDigit : Char → Bool) (cs : List Char) : Option Nat :=
  if cs.isEmpty || !cs.all isDigit then none
  else (some (cs.foldl (fun n c => base * n + hexValue c) 0)).filter (· < UInt32.size)

/-- The character with this number, U+FFFD where there is none. -/
def scalar (n : Nat) : Char :=
  if n.isValidChar then Char.ofNat n else Char.ofNat 0xFFFD

/-- The character that the reference with this body stands for. -/
def target? : List Char → Option Char
  | '#' :: 'x' :: cs => ((number? 16 isHex cs).map scalar).filter isLegal
  | '#' :: cs => ((number? 10 Char.isDigit cs).map scalar).filter isLegal
  | cs => (named.find? fun e => e.1.toList = cs).map Prod.snd

end Reference

namespace Content

/-- Where the reader of references stands: outside of a reference, or in one with its characters so
far, the last one in front. -/
inductive Mode where
  | plain
  | reference (body : List Char)

/-- One character on; the pieces read so far have the last one in front. -/
def step : Mode × List Piece → Char → Option (Mode × List Piece)
  | (.plain, out), c =>
    if c = '&' then some (.reference [], out) else some (.plain, .plain c :: out)
  | (.reference body, out), c =>
    if c = ';' then (Reference.target? body.reverse).map fun d => (.plain, .referred d :: out)
    else some (.reference (c :: body), out)

def pieces? (cs : List Char) : Option (List Piece) :=
  match cs.foldlM step (.plain, []) with
  | some (.plain, out) => some out.reverse
  | _ => none

/-- Adds a character written as itself behind a text, which is given with its last character in
front. A carriage return waits at the end of the text for what follows, unless nothing does. -/
def push (text : List Char) (c : Char) (last : Bool) : List Char :=
  match text with
  | '\r' :: before =>
    if c = '\n' then '\n' :: before
    else if last && c = '\r' then '\n' :: '\n' :: before
    else c :: '\n' :: before
  | _ => (if last && c = '\r' then '\n' else c) :: text

/-- Joins pieces behind a text, which is given with its last character in front; `kept` tells that a
reference was read last, and then one character is added as it is. -/
def join : List Char → Bool → List Piece → List Char
  | text, _, [] => text.reverse
  | text, _, .referred c :: ps => join (c :: text) true ps
  | text, true, .plain c :: ps => join (c :: text) false ps
  | text, false, .plain c :: ps => join (push text c ps.isEmpty) false ps

/-- The content with `]]>` in it. -/
def hasSectionEnd : List Char → Bool
  | [] => false
  | c :: cs => (c = ']' && [']', '>'].isPrefixOf cs) || hasSectionEnd cs

def text? (cs : List Char) : Option (List Char) :=
  if cs.all isLegal && !hasSectionEnd cs then (pieces? cs).map (join [] false) else none

def section? (cs : List Char) : Option (List Char) :=
  if cs.all isLegal then some (join [] false (cs.map Piece.plain)) else none

/-- Every character of space as a blank, the end of a line as one. -/
def blankSpaces : List Piece → List Char
  | [] => []
  | .plain '\r' :: .plain '\n' :: ps => ' ' :: blankSpaces ps
  | .plain c :: ps => (if isSpace c then ' ' else c) :: blankSpaces ps
  | .referred c :: ps => c :: blankSpaces ps

def value? (cs : List Char) : Option (List Char) :=
  if cs.all isLegal then (pieces? cs).map blankSpaces else none

end Content

end DmarcReports.Xml
