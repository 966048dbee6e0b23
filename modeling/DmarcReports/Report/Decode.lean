import DmarcReports.Report.Basic
import DmarcReports.Text.Lowercase
import DmarcReports.Text.Numeral
import DmarcReports.Xml.Document

/-!
Reading a report from its XML.

Elements are found by their unqualified names, under a root of any name. Only the policy domain must
be there; every other value has a default. A number that is there must be one.
-/

set_option autoImplicit false
set_option relaxedAutoImplicit false

namespace DmarcReports

open Xml (Node)

namespace Rejection

def notUtf8 : Rejection := .malformedXml "report is not valid UTF-8"

def doctypeForbidden : Rejection :=
  .malformedXml "DTDs and entity declarations are not allowed"

def tooManyNodes : Rejection := .malformedXml "document has too many elements"

def notWellFormed : Rejection := .malformedXml "document is not well-formed"

def invalidNumber : Rejection := .malformedXml "invalid numeric field"

def ofFault : Xml.Fault → Rejection
  | .doctype => doctypeForbidden
  | .tooManyNodes => tooManyNodes
  | .malformed => notWellFormed

end Rejection

namespace Report

/-- The trimmed text of a child element; empty where there is no such child. -/
def textOf (n : Option Node) (name : String) : String :=
  ((n.bind (·.child? name)).map fun c => Text.trim c.leadingText).getD ""

/-- The text of a child element, or the default where that is empty. -/
def textOr (n : Option Node) (name default : String) : String :=
  if textOf n name = "" then default else textOf n name

/-- The text of a child element, if there is any. -/
def text? (n : Option Node) (name : String) : Option String :=
  if textOf n name = "" then none else some (textOf n name)

/-- The number in a child element, or the default where its text is empty. -/
def numberOf {α : Type} (read? : List Char → Option α) (n : Option Node) (name : String)
    (default : α) : Except Rejection α :=
  if textOf n name = "" then .ok default
  else match read? (textOf n name).toList with
    | some a => .ok a
    | none => .error .invalidNumber

def metadataOf (n : Option Node) : Except Rejection Metadata := do
  let range := n.bind (·.child? "date_range")
  let beginTime ← numberOf Text.int64? range "begin" 0
  let endTime ← numberOf Text.int64? range "end" 0
  return {
    reportId := textOf n "report_id"
    orgName := textOf n "org_name"
    contactEmail := textOf n "email"
    beginTime, endTime }

def policyOf (n : Option Node) : Except Rejection Policy := do
  if textOf n "domain" = "" then .error .missingDomain
  let base : Policy := { domain := textOf n "domain" }
  let pct ← numberOf Text.uint32? n "pct" base.pct
  return {
    domain := base.domain
    adkim := textOr n "adkim" base.adkim
    aspf := textOr n "aspf" base.aspf
    p := textOr n "p" base.p
    sp := text? n "sp"
    pct }

/-- Reads one raw result, which has a selector for DKIM only. -/
def authResultOf (withSelector : Bool) (n : Node) : AuthResult where
  domain := textOf (some n) "domain"
  result := Text.lowercase (textOf (some n) "result")
  selector := if withSelector then text? (some n) "selector" else none

/-- The child elements of this name, of a node that may be missing. -/
def namedIn (n : Option Node) (name : String) : List Node :=
  (n.map (·.named name)).getD []

def recordOf (n : Node) : Except Rejection Record := do
  let row := n.child? "row"
  let evaluated := row.bind (·.child? "policy_evaluated")
  let auth := n.child? "auth_results"
  let count ← numberOf Text.uint64? row "count" 0
  return {
    sourceIp := textOf row "source_ip"
    count
    disposition := Text.lowercase (textOr evaluated "disposition" "none")
    dkimResult := Text.lowercase (textOf evaluated "dkim")
    spfResult := Text.lowercase (textOf evaluated "spf")
    headerFrom := textOf (n.child? "identifiers") "header_from"
    spf := (namedIn auth "spf").map (authResultOf false)
    dkim := (namedIn auth "dkim").map (authResultOf true) }

def ofNode (root : Node) : Except Rejection Report := do
  let metadata ← metadataOf (root.child? "report_metadata")
  let policy ← policyOf (root.child? "policy_published")
  let records ← (root.named "record").mapM recordOf
  assemble metadata policy records

def maxNodes : Nat := 5000000

/-- The report that a text writes, with at most one byte-order mark in front of the document. -/
def ofText (cs : List Char) : Except Rejection Report :=
  match Xml.document maxNodes (Xml.dropMark cs) with
  | .ok root => ofNode root
  | .error fault => .error (.ofFault fault)

def decode (bytes : ByteArray) : Except Rejection Report :=
  match String.fromUTF8? bytes with
  | some s => ofText s.toList
  | none => .error .notUtf8

end Report

end DmarcReports
