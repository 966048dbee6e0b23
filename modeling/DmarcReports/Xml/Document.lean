import Std.Data.TreeSet
import DmarcReports.Xml.Declaration
import DmarcReports.Xml.Markup
import DmarcReports.Xml.Node
import DmarcReports.Xml.Scope

/-!
Documents: one root element, with nothing but comments, instructions and space around it.

The nodes and namespaces of a document are counted against ceilings. A document type before the root
is a fault of its own kind, since it could declare entities, and so is a node too many.
-/

set_option autoImplicit false
set_option relaxedAutoImplicit false

namespace DmarcReports.Xml

inductive Fault where
  | doctype
  | tooManyNodes
  | malformed
deriving DecidableEq, Repr

/-- A comment that may stand in a document. -/
def isComment (raw : List Char) : Bool :=
  raw.all isLegal && raw.getLast? ≠ some '-' && !hasDoubleDash raw
where
  hasDoubleDash : List Char → Bool
    | '-' :: '-' :: _ => true
    | _ :: cs => hasDoubleDash cs
    | [] => false

/-- The target and the content of an instruction; `xml` with a blank behind it is no target. -/
def instruction? (raw : List Char) : Option (String × String) :=
  let (target, rest) := raw.span isNameChar
  if !"xml ".toList.isPrefixOf raw && target.head?.any isNameStart && rest.all isLegal then
    some (String.ofList target, String.ofList (rest.dropWhile isSpace))
  else none

/-- An element that is not closed yet, with its last child in front. -/
structure Frame where
  name : Name
  attributes : List Attribute
  scope : Scope
  children : List Node := []

namespace Frame

/-- Adds a child; neighbouring texts become one. -/
def add (f : Frame) (n : Node) : Frame :=
  match n, f.children with
  | .text new, .text old :: rest => { f with children := .text (old ++ new) :: rest }
  | n, rest => { f with children := n :: rest }

def toNode (f : Frame) : Node :=
  .element f.name f.attributes f.children.reverse

end Frame

inductive Builder where
  | prolog
  /-- In an element, with the elements around it from the inside out. -/
  | inside (frame : Frame) (outer : List Frame)
  | epilog (root : Node)

namespace Builder

def orMalformed {α : Type} : Option α → Except Fault α
  | some a => .ok a
  | none => .error .malformed

def scope : Builder → Scope
  | inside frame _ => frame.scope
  | _ => []

def addElement (n : Node) : List Frame → Builder
  | [] => epilog n
  | frame :: outer => inside (frame.add n) outer

def frames : Builder → List Frame
  | inside frame outer => frame :: outer
  | _ => []

/-- Starts an element, which must not follow the root. -/
def openElement (b : Builder) (name : Name) (attributes : List Attribute) (closed : Bool) :
    Option Builder :=
  match b with
  | epilog _ => none
  | b => (b.scope.admit? name attributes).map fun scope =>
    let frame : Frame := ⟨name, attributes, scope, []⟩
    if closed then addElement frame.toNode b.frames else inside frame b.frames

/-- Ends the innermost element, which must have this name. -/
def closeElement (name : Name) : Builder → Option Builder
  | inside frame outer => if frame.name = name then some (addElement frame.toNode outer) else none
  | _ => none

/-- Adds a node that is no element; outside of the root it leaves no trace. -/
def addMisc (n : Node) : Builder → Builder
  | inside frame outer => inside (frame.add n) outer
  | b => b

def addText : Option (List Char) → Builder → Option Builder
  | some cs, inside frame outer => some (inside (frame.add (.text (String.ofList cs))) outer)
  | _, _ => none

def step (b : Builder) (m : Markup) : Except Fault Builder :=
  match m, b with
  | .text raw, inside .. => orMalformed (addText (Content.text? raw) b)
  | .text raw, b => if raw.all isSpace then .ok b else .error .malformed
  | .cdata raw, b => orMalformed (addText (Content.section? raw) b)
  | .comment raw, b =>
    if isComment raw then .ok (addMisc (.comment (String.ofList raw)) b) else .error .malformed
  | .instruction raw, b =>
    orMalformed ((instruction? raw).map fun i => addMisc (.instruction i.1 i.2) b)
  | .doctype, prolog => .error .doctype
  | .doctype, _ | .broken, _ => .error .malformed
  | .tag raw, b =>
    match Tag.ofChars? raw with
    | some (.opening name attributes closed) => orMalformed (b.openElement name attributes closed)
    | some (.closing name) => orMalformed (b.closeElement name)
    | none => .error .malformed

def finish : Builder → Except Fault Node
  | epilog root => .ok root
  | _ => .error .malformed

/-- Whether text that comes next starts a node of its own. -/
def startsText : Builder → Bool
  | inside frame _ =>
    match frame.children with
    | .text _ :: _ => false
    | _ => true
  | _ => false

def newNodes (b : Builder) : Markup → Nat
  | .text _ | .cdata _ => if b.startsText then 1 else 0
  | .comment _ | .instruction _ => 1
  | .tag raw => if raw.head? = some '/' then 0 else 1
  | .doctype | .broken => 0

end Builder

def declaredSpaces : Markup → List Declared
  | .tag raw =>
    match Tag.ofChars? raw with
    | some (.opening _ attributes _) => attributes.filterMap Scope.declared?
    | _ => []
  | _ => []

/-- The most different declarations that a document may have, besides that of `xml`. -/
def maxSpaces : Nat := 65535

/-- A document in progress with the number of its nodes, of which the document itself is the first,
and its different declarations of namespaces. -/
structure Assembly where
  builder : Builder := .prolog
  nodes : Nat := 1
  spaces : Std.TreeSet Declared := ∅

namespace Assembly

def step (maxNodes : Nat) (a : Assembly) (m : Markup) : Except Fault Assembly := do
  let builder ← a.builder.step m
  let nodes := a.nodes + a.builder.newNodes m
  let spaces := (declaredSpaces m).foldl .insert a.spaces
  if maxSpaces < spaces.size then throw .malformed
  else if maxNodes < nodes then throw .tooManyNodes
  else return { builder, nodes, spaces }

end Assembly

def byteOrderMark : Char := Char.ofNat 0xFEFF

def dropMark : List Char → List Char
  | c :: cs => if c = byteOrderMark then cs else c :: cs
  | [] => []

/-- The root element of the document of at most so many nodes that these characters are, with at most
one byte-order mark in front. -/
def document (maxNodes : Nat) (cs : List Char) : Except Fault Node := do
  let cs ← Builder.orMalformed (Declaration.skip? (dropMark cs))
  let a ← (Markup.split cs).foldlM (Assembly.step maxNodes) {}
  a.builder.finish

end DmarcReports.Xml
