import DmarcReports.Xml.Tag

/-!
Namespaces: which qualifiers of names are declared, and what for.

An element declares qualifiers by its attributes, for itself and everything inside it. Two
attributes of an element must not have the same name once their qualifiers are resolved.
-/

set_option autoImplicit false
set_option relaxedAutoImplicit false

namespace DmarcReports.Xml

/-- The declared qualifiers with their namespaces, the innermost declaration in front. -/
abbrev Scope := List (String × String)

/-- A namespace with the qualifier that it is declared for; none for unqualified names. -/
structure Declared where
  qualifier : Option String
  space : String
deriving Ord

namespace Scope

def xmlSpace : String := "http://www.w3.org/XML/1998/namespace"

def declarationSpace : String := "http://www.w3.org/2000/xmlns/"

/-- Whether the attribute declares a namespace, and does not need one itself. -/
def isDeclaration (a : Attribute) : Bool :=
  a.name.qualifier == "xmlns" || a.name.base == "xmlns"

/-- The declaration that an attribute adds to those of the whole document; that of `xml` is there
from the start. -/
def declared? (a : Attribute) : Option Declared :=
  if a.name.qualifier = "xmlns" then
    if a.value = xmlSpace then none else some ⟨some a.name.base, a.value⟩
  else if a.name.base = "xmlns" then some ⟨none, a.value⟩
  else none

/-- Adds the declaration that an attribute makes to those that its element made so far; none where
it is not allowed. The namespace for unqualified names is checked and left out, since no lookup
needs it. -/
def declare (own : Scope) (a : Attribute) : Option Scope :=
  if a.name.qualifier = "xmlns" then
    if a.value = declarationSpace || own.any (·.1 == a.name.base) then none
    else if a.name.base = "xml" then if a.value = xmlSpace then some own else none
    else if a.value = xmlSpace then none
    else some ((a.name.base, a.value) :: own)
  else if a.value = xmlSpace || a.value = declarationSpace then none
  else some own

def enter (scope : Scope) (attributes : List Attribute) : Option Scope :=
  ((attributes.filter isDeclaration).foldlM declare []).map (· ++ scope)

def admitsElement (scope : Scope) (name : Name) : Bool :=
  name.qualifier == "" || (name.qualifier != "xmlns" && scope.any (·.1 == name.qualifier))

/-- The name of an attribute with its qualifier resolved. -/
def resolve? (scope : Scope) (name : Name) : Option (Option String × String) :=
  if name.qualifier = "" then some (none, name.base)
  else if name.qualifier = "xml" then some (some xmlSpace, name.base)
  else (scope.lookup name.qualifier).map fun space => (some space, name.base)

/-- Whether all attributes resolve to different names. -/
def admitsAttributes (scope : Scope) (attributes : List Attribute) : Bool :=
  match (attributes.filter fun a => !isDeclaration a).mapM fun a => scope.resolve? a.name with
  | some names => decide names.Nodup
  | none => false

def admit? (scope : Scope) (name : Name) (attributes : List Attribute) : Option Scope := do
  let inner ← scope.enter attributes
  if inner.admitsElement name && inner.admitsAttributes attributes then some inner else none

end Scope

end DmarcReports.Xml
