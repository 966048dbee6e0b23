import DmarcReports.Xml.Char

/-!
Names of elements and attributes, in one or two parts: `base`, or `qualifier:base`.

A name with an empty qualifier, such as `:base`, is the unqualified name `base`.
-/

set_option autoImplicit false
set_option relaxedAutoImplicit false

namespace DmarcReports.Xml

/-- A name with the qualifier that it is written with; empty where there is none. -/
structure Name where
  qualifier : String
  base : String
deriving DecidableEq, Repr

/-- Whether the characters are a part of a name that starts as a name does. -/
def isNamePart : List Char → Bool
  | [] => false
  | c :: cs => isNameStart c && c ≠ ':' && cs.all fun d => isNameChar d && d ≠ ':'

def Name.ofChars? (cs : List Char) : Option Name :=
  match cs.span (· ≠ ':') with
  | (base, []) => if isNamePart base then some ⟨"", String.ofList base⟩ else none
  | (qualifier, _ :: base) =>
    if (qualifier.isEmpty || isNamePart qualifier) && isNamePart base then
      some ⟨String.ofList qualifier, String.ofList base⟩
    else none

def Name.plain (base : String) : Name := ⟨"", base⟩

end DmarcReports.Xml
