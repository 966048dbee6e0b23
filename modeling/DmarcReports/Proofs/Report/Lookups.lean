import DmarcReports.Proofs.Report.Values

/-!
Where the values of a report are looked up.

A report is made of the values at fixed places below the root, of those at fixed places in each
record, and of those of each raw result.
-/

set_option autoImplicit false
set_option relaxedAutoImplicit false

namespace DmarcReports.Report

open Xml (Node)

def reportPlaces : List (List String) := [
  ["report_metadata", "report_id"], ["report_metadata", "org_name"], ["report_metadata", "email"],
  ["report_metadata", "date_range", "begin"], ["report_metadata", "date_range", "end"],
  ["policy_published", "domain"], ["policy_published", "adkim"], ["policy_published", "aspf"],
  ["policy_published", "p"], ["policy_published", "sp"], ["policy_published", "pct"]]

def recordPlaces : List (List String) := [
  ["row", "source_ip"], ["row", "count"], ["row", "policy_evaluated", "disposition"],
  ["row", "policy_evaluated", "dkim"], ["row", "policy_evaluated", "spf"],
  ["identifiers", "header_from"]]

/-- The places of the values of a raw result, which has a selector for DKIM only. -/
def resultPlaces (withSelector : Bool) : List (List String) :=
  if withSelector then [["domain"], ["result"], ["selector"]] else [["domain"], ["result"]]

def resultElements (withSelector : Bool) (n : Node) : List Node :=
  (resultPlaces withSelector).filterMap n.at?

def recordElements (n : Node) : List Node :=
  recordPlaces.filterMap n.at? ++
    (n.elements ["auth_results"] "spf").flatMap (resultElements false) ++
    (n.elements ["auth_results"] "dkim").flatMap (resultElements true)

/-- The elements of a document that hold the values of its report. -/
def valueElements (root : Node) : List Node :=
  reportPlaces.filterMap root.at? ++ (root.named "record").flatMap recordElements

variable {root root' n n' : Node}

private theorem metadataOf_congr (h : ∀ path ∈ reportPlaces, root.value path = root'.value path) :
    metadataOf (root.child? "report_metadata") = metadataOf (root'.child? "report_metadata") := by
  have hid := h ["report_metadata", "report_id"] (by decide)
  have horg := h ["report_metadata", "org_name"] (by decide)
  have hemail := h ["report_metadata", "email"] (by decide)
  have hbegin := h ["report_metadata", "date_range", "begin"] (by decide)
  have hend := h ["report_metadata", "date_range", "end"] (by decide)
  change textOf (root.child? "report_metadata") _ = textOf (root'.child? "report_metadata") _
    at hid horg hemail
  change textOf ((root.child? "report_metadata").bind (·.child? "date_range")) _ =
    textOf ((root'.child? "report_metadata").bind (·.child? "date_range")) _ at hbegin hend
  simp only [metadataOf, numberOf, hid, horg, hemail, hbegin, hend]

private theorem policyOf_congr (h : ∀ path ∈ reportPlaces, root.value path = root'.value path) :
    policyOf (root.child? "policy_published") = policyOf (root'.child? "policy_published") := by
  have hdomain := h ["policy_published", "domain"] (by decide)
  have hadkim := h ["policy_published", "adkim"] (by decide)
  have haspf := h ["policy_published", "aspf"] (by decide)
  have hp := h ["policy_published", "p"] (by decide)
  have hsp := h ["policy_published", "sp"] (by decide)
  have hpct := h ["policy_published", "pct"] (by decide)
  change textOf (root.child? "policy_published") _ = textOf (root'.child? "policy_published") _
    at hdomain hadkim haspf hp hsp hpct
  simp only [policyOf, numberOf, textOr, text?, hdomain, hadkim, haspf, hp, hsp, hpct]

theorem authResultOf_congr {withSelector : Bool}
    (h : ∀ path ∈ resultPlaces withSelector, n.value path = n'.value path) :
    authResultOf withSelector n = authResultOf withSelector n' := by
  have hdomain := h ["domain"] (by cases withSelector <;> decide)
  have hresult := h ["result"] (by cases withSelector <;> decide)
  change textOf (some n) _ = textOf (some n') _ at hdomain hresult
  cases withSelector with
  | false => simp only [authResultOf, hdomain, hresult, Bool.false_eq_true, if_false]
  | true =>
    have hselector := h ["selector"] (by decide)
    change textOf (some n) _ = textOf (some n') _ at hselector
    simp only [authResultOf, text?, hdomain, hresult, hselector]

theorem recordOf_congr (h : ∀ path ∈ recordPlaces, n.value path = n'.value path)
    (hspf : (n.elements ["auth_results"] "spf").map (authResultOf false) =
      (n'.elements ["auth_results"] "spf").map (authResultOf false))
    (hdkim : (n.elements ["auth_results"] "dkim").map (authResultOf true) =
      (n'.elements ["auth_results"] "dkim").map (authResultOf true)) :
    recordOf n = recordOf n' := by
  have hip := h ["row", "source_ip"] (by decide)
  have hcount := h ["row", "count"] (by decide)
  have hdisposition := h ["row", "policy_evaluated", "disposition"] (by decide)
  have hdkimResult := h ["row", "policy_evaluated", "dkim"] (by decide)
  have hspfResult := h ["row", "policy_evaluated", "spf"] (by decide)
  have hfrom := h ["identifiers", "header_from"] (by decide)
  change textOf (n.child? "row") _ = textOf (n'.child? "row") _ at hip hcount
  change textOf ((n.child? "row").bind (·.child? "policy_evaluated")) _ =
    textOf ((n'.child? "row").bind (·.child? "policy_evaluated")) _
    at hdisposition hdkimResult hspfResult
  change textOf (n.child? "identifiers") _ = textOf (n'.child? "identifiers") _ at hfrom
  change (namedIn (n.child? "auth_results") _).map _ = (namedIn (n'.child? "auth_results") _).map _
    at hspf hdkim
  simp only [recordOf, numberOf, textOr, hip, hcount, hdisposition, hdkimResult, hspfResult, hfrom,
    hspf, hdkim]

theorem ofNode_congr (h : ∀ path ∈ reportPlaces, root.value path = root'.value path)
    (hrecords : (root.named "record").map recordOf = (root'.named "record").map recordOf) :
    ofNode root = ofNode root' := by
  have hmapM (ns : List Node) : ns.mapM recordOf = (ns.map recordOf).mapM id :=
    (List.mapM_map (f := recordOf) (g := id)).symm
  simp only [ofNode, metadataOf_congr h, policyOf_congr h, hmapM, hrecords]

end DmarcReports.Report
