import DmarcReports.Xml.Name
import DmarcReports.Xml.Content

/-!
Tags: what stands between `<` and `>`.

A start tag is read one character at a time. Attributes follow the name, each after a space; a slash
may come last and closes the element at once.
-/

set_option autoImplicit false
set_option relaxedAutoImplicit false

namespace DmarcReports.Xml

/-- An attribute with the value that its content stands for. -/
structure Attribute where
  name : Name
  value : String
deriving DecidableEq, Repr

inductive Tag where
  /-- Starts an element; `closed` tells that it has no content. -/
  | opening (name : Name) (attributes : List Attribute) (closed : Bool)
  | closing (name : Name)
deriving DecidableEq, Repr

namespace Tag

/-- Where the reader of a start tag stands. Parts that it is in have their last character in
front. -/
inductive Mode where
  | elementName (text : List Char)
  /-- Behind a part of the tag; `spaced` tells that a space followed it. -/
  | between (spaced : Bool)
  | attributeName (text : List Char)
  | beforeEquals (name : Name)
  | beforeValue (name : Name)
  | value (name : Name) (quote : Char) (text : List Char)
  | slash
deriving DecidableEq, Repr

/-- What the reader of a start tag has found, with the last attribute in front. -/
structure Reader where
  mode : Mode
  name : Option Name := none
  attributes : List Attribute := []
deriving DecidableEq, Repr

namespace Reader

def stepBetween (r : Reader) (spaced : Bool) (c : Char) : Option Reader :=
  if isSpace c then some { r with mode := .between true }
  else if c = '/' then some { r with mode := .slash }
  else if spaced then some { r with mode := .attributeName [c] }
  else none

def stepBeforeEquals (r : Reader) (name : Name) (c : Char) : Option Reader :=
  if isSpace c then some { r with mode := .beforeEquals name }
  else if c = '=' then some { r with mode := .beforeValue name }
  else none

/-- One character on; none where no start tag continues this way. -/
def step (r : Reader) (c : Char) : Option Reader :=
  match r.mode with
  | .elementName text =>
    if isNameChar c then some { r with mode := .elementName (c :: text) }
    else (Name.ofChars? text.reverse).bind fun name =>
      stepBetween { r with name := some name } false c
  | .between spaced => r.stepBetween spaced c
  | .attributeName text =>
    if isNameChar c then some { r with mode := .attributeName (c :: text) }
    else (Name.ofChars? text.reverse).bind fun name => r.stepBeforeEquals name c
  | .beforeEquals name => r.stepBeforeEquals name c
  | .beforeValue name =>
    if isSpace c then some r
    else if c = '"' ∨ c = '\'' then some { r with mode := .value name c [] }
    else none
  | .value name quote text =>
    if c = quote then
      (Content.value? text.reverse).map fun value =>
        { r with mode := .between false
                 attributes := ⟨name, String.ofList value⟩ :: r.attributes }
    else if c = '<' then none
    else some { r with mode := .value name quote (c :: text) }
  | .slash => none

def finish (r : Reader) : Option Tag :=
  match r.mode, r.name with
  | .elementName text, _ => (Name.ofChars? text.reverse).map fun name => .opening name [] false
  | .between _, some name => some (.opening name r.attributes.reverse false)
  | .slash, some name => some (.opening name r.attributes.reverse true)
  | _, _ => none

end Reader

def ofChars? : List Char → Option Tag
  | '/' :: cs =>
    let (name, rest) := cs.span isNameChar
    if rest.all isSpace then (Name.ofChars? name).map .closing else none
  | cs => (cs.foldlM Reader.step ⟨.elementName [], none, []⟩).bind Reader.finish

end Tag

end DmarcReports.Xml
