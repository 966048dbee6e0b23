import DmarcReports.Xml.Char

/-!
The parts of a document: tags, comments, instructions, sections, and the text between them.

A document type ends the list, and so does what is no part or not closed: nothing behind it is read.
-/

set_option autoImplicit false
set_option relaxedAutoImplicit false

namespace DmarcReports.Xml

/-- One part of a document with the characters between its delimiters. -/
inductive Markup where
  | text (raw : List Char)
  | comment (raw : List Char)
  | cdata (raw : List Char)
  | instruction (raw : List Char)
  | tag (raw : List Char)
  | doctype
  /-- What starts no part, or a part that is not closed. -/
  | broken
deriving DecidableEq, Repr

namespace Markup

/-- The parts that start with more than `<`. -/
inductive Kind where
  | comment
  | cdata
  | instruction
  | doctype
deriving DecidableEq, Repr

namespace Kind

/-- What starts the part, behind `<`. -/
def opener : Kind → List Char
  | comment => ['!', '-', '-']
  | cdata => ['!', '[', 'C', 'D', 'A', 'T', 'A', '[']
  | instruction => ['?']
  | doctype => ['!', 'D', 'O', 'C', 'T', 'Y', 'P', 'E']

/-- What ends the part, its last character in front. -/
def closer : Kind → List Char
  | comment => ['>', '-', '-']
  | cdata => ['>', ']', ']']
  | instruction => ['>', '?']
  | doctype => []

def all : List Kind := [comment, cdata, instruction, doctype]

def part (raw : List Char) : Kind → Markup
  | comment => .comment raw
  | cdata => .cdata raw
  | instruction => .instruction raw
  | doctype => .doctype

end Kind

/-- Where the cutter stands. The characters of the part that it is in have the last one in front. -/
inductive Mode where
  | text (raw : List Char)
  /-- Behind `<` and these first characters of an opener. -/
  | opening (seen : List Char)
  | inside (kind : Kind) (raw : List Char)
  | tag (quote : Option Char) (raw : List Char)
  /-- Behind a part that ends the list. -/
  | ended
deriving DecidableEq, Repr

/-- The cutter with the parts it has found, the last one in front. -/
structure Cutter where
  mode : Mode := .text []
  found : List Markup := []
deriving DecidableEq, Repr

namespace Cutter

/-- The parts with the text that the cutter has just left; an empty text is no part. -/
def withText (found : List Markup) : List Char → List Markup
  | [] => found
  | raw => .text raw.reverse :: found

def enter (found : List Markup) : Kind → Cutter
  | .doctype => ⟨.ended, .doctype :: found⟩
  | k => ⟨.inside k [], found⟩

/-- The cutter behind `<` and the first character of a tag. -/
def enterTag (found : List Markup) (c : Char) : Cutter :=
  if c = '>' then ⟨.text [], .tag [] :: found⟩
  else ⟨.tag (if c = '"' ∨ c = '\'' then some c else none) [c], found⟩

def stepOpening (found : List Markup) (seen : List Char) (c : Char) : Cutter :=
  match Kind.all.find? fun k => (seen ++ [c]).isPrefixOf k.opener with
  | some k => if seen ++ [c] = k.opener then enter found k else ⟨.opening (seen ++ [c]), found⟩
  | none => if seen = [] then enterTag found c else ⟨.ended, .broken :: found⟩

def step (k : Cutter) (c : Char) : Cutter :=
  match k.mode with
  | .text raw =>
    if c = '<' then ⟨.opening [], withText k.found raw⟩ else ⟨.text (c :: raw), k.found⟩
  | .opening seen => stepOpening k.found seen c
  | .inside kind raw =>
    if kind.closer.isPrefixOf (c :: raw) then
      ⟨.text [], kind.part ((c :: raw).drop kind.closer.length).reverse :: k.found⟩
    else ⟨.inside kind (c :: raw), k.found⟩
  | .tag none raw =>
    if c = '>' then ⟨.text [], .tag raw.reverse :: k.found⟩
    else ⟨.tag (if c = '"' ∨ c = '\'' then some c else none) (c :: raw), k.found⟩
  | .tag (some quote) raw =>
    ⟨.tag (if c = quote then none else some quote) (c :: raw), k.found⟩
  | .ended => k

def finish (k : Cutter) : List Markup :=
  match k.mode with
  | .text raw => (withText k.found raw).reverse
  | .ended => k.found.reverse
  | _ => (.broken :: k.found).reverse

end Cutter

def split (cs : List Char) : List Markup :=
  (cs.foldl Cutter.step {}).finish

end Markup

end DmarcReports.Xml
