import DmarcReports.Xml.Tag

/-!
The tree of a document, and looking up elements in it by their unqualified names.

The text of an element is that of its first child: where a comment, an instruction or an element
comes first, there is no text, whatever follows.
-/

set_option autoImplicit false
set_option relaxedAutoImplicit false

namespace DmarcReports.Xml

inductive Node where
  | element (name : Name) (attributes : List Attribute) (children : List Node)
  | text (content : String)
  | comment (content : String)
  | instruction (target content : String)
deriving Repr

namespace Node

def children : Node → List Node
  | element _ _ cs => cs
  | _ => []

/-- Whether the node is an element of this name, under any qualifier. -/
def isNamed (base : String) : Node → Bool
  | element name _ _ => name.base == base
  | _ => false

def named (n : Node) (base : String) : List Node :=
  n.children.filter (isNamed base)

def child? (n : Node) (base : String) : Option Node :=
  n.children.find? (isNamed base)

def leadingText (n : Node) : String :=
  match n.children with
  | text content :: _ => content
  | _ => ""

end Node

end DmarcReports.Xml
