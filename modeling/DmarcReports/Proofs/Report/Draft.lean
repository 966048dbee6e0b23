import DmarcReports.Report.Decode
import DmarcReports.Proofs.Xml.Reading

/-!
Reports written from their values.

A draft holds the values of a daily report: the domain, an identifier, the end of the day, and one
row for each source. Main statement: `Draft.toList_text`, by which the text is an outline written
behind a declaration.
-/

set_option autoImplicit false
set_option relaxedAutoImplicit false

namespace DmarcReports.Report

open Xml (Outline)

/-- Text that stands for itself in an element and that trimming leaves alone. -/
def isVerbatim (s : String) : Bool :=
  s.toList.all Xml.isPlain && Text.trim s == s

/-- What a report tells of one source: its address, its messages, and both results. -/
structure Row where
  sourceIp : String
  count : UInt64
  spf : String
  dkim : String
deriving DecidableEq, Repr

namespace Row

def text (domain : String) (r : Row) : String :=
  s!"<record><row><source_ip>{r.sourceIp}</source_ip><count>{r.count}</count>" ++
    s!"<policy_evaluated><disposition>none</disposition><dkim>{r.dkim}</dkim><spf>{r.spf}</spf>" ++
    s!"</policy_evaluated></row><identifiers><header_from>{domain}</header_from></identifiers>" ++
    "</record>"

def outline (domain : String) (r : Row) : Outline :=
  .branch "row"
    (.leaf "source_ip" r.sourceIp <|
      .leaf "count" (toString r.count.toNat) <|
      .branch "policy_evaluated"
        (.leaf "disposition" "none" <| .leaf "dkim" r.dkim <| .leaf "spf" r.spf .none) .none) <|
    .branch "identifiers" (.leaf "header_from" domain .none) .none

def record (domain : String) (r : Row) : Record where
  sourceIp := r.sourceIp
  count := r.count
  dkimResult := Text.lowercase r.dkim
  spfResult := Text.lowercase r.spf
  headerFrom := domain

def passed (r : Row) : Bool :=
  Text.lowercase r.spf == "pass" || Text.lowercase r.dkim == "pass"

def allVerbatim (r : Row) : Bool :=
  isVerbatim r.sourceIp && isVerbatim r.spf && isVerbatim r.dkim

end Row

/-- The values that a report is written from. -/
structure Draft where
  domain : String
  reportId : String
  endTime : Int64
  rows : List Row
deriving DecidableEq, Repr

namespace Draft

def metadataText (d : Draft) : String :=
  "<org_name>google.com</org_name><email>noreply@google.com</email>" ++
    s!"<report_id>{d.reportId}</report_id>" ++
    s!"<date_range><begin>{d.endTime.toInt - 86399}</begin><end>{d.endTime}</end></date_range>"

def policyText (d : Draft) : String :=
  s!"<domain>{d.domain}</domain><adkim>r</adkim><aspf>r</aspf><p>none</p><pct>100</pct>"

def text (d : Draft) : String :=
  let rows := String.join (d.rows.map (Row.text d.domain))
  "<?xml version=\"1.0\" encoding=\"UTF-8\"?><feedback>" ++
    s!"<report_metadata>{d.metadataText}</report_metadata>" ++
    s!"<policy_published>{d.policyText}</policy_published>{rows}</feedback>"

def metadataOutline (d : Draft) : Outline :=
  .leaf "org_name" "google.com" <| .leaf "email" "noreply@google.com" <|
    .leaf "report_id" d.reportId <|
    .branch "date_range"
      (.leaf "begin" (toString (d.endTime.toInt - 86399)) <|
        .leaf "end" (toString d.endTime.toInt) .none)
      .none

def policyOutline (d : Draft) : Outline :=
  .leaf "domain" d.domain <| .leaf "adkim" "r" <| .leaf "aspf" "r" <| .leaf "p" "none" <|
    .leaf "pct" "100" .none

def rowsOutline (domain : String) (rows : List Row) : Outline :=
  rows.foldr (fun r => .branch "record" (r.outline domain)) .none

def outline (d : Draft) : Outline :=
  .branch "report_metadata" d.metadataOutline <| .branch "policy_published" d.policyOutline <|
    rowsOutline d.domain d.rows

/-- The nodes of the written document: itself, its root, and all elements and texts below. -/
def nodeCount (d : Draft) : Nat :=
  2 + d.outline.size

def report (d : Draft) : Report where
  metadata := {
    reportId := d.reportId
    orgName := "google.com"
    contactEmail := "noreply@google.com"
    beginTime := d.endTime - 86399
    endTime := d.endTime }
  policy := { domain := d.domain }
  records := d.rows.map (Row.record d.domain)

/-- A draft whose text keeps every value, within the bounds of what is read. -/
structure Readable (d : Draft) : Prop where
  domain_verbatim : isVerbatim d.domain = true
  domain_ne_empty : d.domain ≠ ""
  reportId_verbatim : isVerbatim d.reportId = true
  rows_verbatim : ∀ r ∈ d.rows, r.allVerbatim = true
  begin_in_range : -(Text.int64Bound : Int) ≤ d.endTime.toInt - 86399
  counts_fit : Count.exactSum (d.rows.map Row.count) < UInt64.size
  nodes_fit : d.nodeCount ≤ maxNodes

end Draft

open Xml.Outline (startTag endTag)

private theorem toList_eq_of_eq_ofList {s : String} {cs : List Char} (h : s = String.ofList cs) :
    s.toList = cs := by
  rw [h, String.toList_ofList]

theorem Row.toList_text (domain : String) (r : Row) :
    (r.text domain).toList = (Outline.branch "record" (r.outline domain) .none).write := by
  have hrow : "<record><row><source_ip>".toList =
      startTag "record" ++ startTag "row" ++ startTag "source_ip" := toList_eq_of_eq_ofList rfl
  have hcount : "</source_ip><count>".toList = endTag "source_ip" ++ startTag "count" :=
    toList_eq_of_eq_ofList rfl
  have hcountEnd : "</count>".toList = endTag "count" := toList_eq_of_eq_ofList rfl
  have hevaluated : "<policy_evaluated><disposition>none</disposition><dkim>".toList =
      startTag "policy_evaluated" ++ startTag "disposition" ++ "none".toList ++
        endTag "disposition" ++ startTag "dkim" := toList_eq_of_eq_ofList rfl
  have hspf : "</dkim><spf>".toList = endTag "dkim" ++ startTag "spf" := toList_eq_of_eq_ofList rfl
  have hspfEnd : "</spf>".toList = endTag "spf" := toList_eq_of_eq_ofList rfl
  have hidentifiers : "</policy_evaluated></row><identifiers><header_from>".toList =
      endTag "policy_evaluated" ++ endTag "row" ++ startTag "identifiers" ++
        startTag "header_from" := toList_eq_of_eq_ofList rfl
  have hend : "</header_from></identifiers>".toList =
      endTag "header_from" ++ endTag "identifiers" := toList_eq_of_eq_ofList rfl
  have hrecordEnd : "</record>".toList = endTag "record" := toList_eq_of_eq_ofList rfl
  unfold text
  simp only [toString, String.toList_append, hrow, hcount, hcountEnd, hevaluated, hspf, hspfEnd,
    hidentifiers, hend, hrecordEnd]
  simp only [outline, Outline.write, toString, List.append_assoc, List.append_nil]

namespace Draft

theorem rowsOutline_cons (domain : String) (r : Row) (rows : List Row) :
    rowsOutline domain (r :: rows) =
      .branch "record" (r.outline domain) (rowsOutline domain rows) := rfl

private theorem write_branch_append (name : String) (inner rest : Outline) :
    (Outline.branch name inner .none).write ++ rest.write =
      (Outline.branch name inner rest).write := by
  simp only [Outline.write, List.append_assoc, List.append_nil]

private theorem toList_join_text (domain : String) (rows : List Row) :
    (String.join (rows.map (Row.text domain))).toList = (rowsOutline domain rows).write := by
  rw [String.toList_join]
  induction rows with
  | nil => rfl
  | cons r rows ih =>
    rw [List.map_cons, List.flatMap_cons, ih, Row.toList_text, write_branch_append,
      rowsOutline_cons]

private theorem toList_metadataText (d : Draft) :
    d.metadataText.toList = d.metadataOutline.write := by
  have hsender : "<org_name>google.com</org_name><email>noreply@google.com</email>".toList =
      startTag "org_name" ++ "google.com".toList ++ endTag "org_name" ++ startTag "email" ++
        "noreply@google.com".toList ++ endTag "email" := toList_eq_of_eq_ofList rfl
  have hid : "<report_id>".toList = startTag "report_id" := toList_eq_of_eq_ofList rfl
  have hidEnd : "</report_id>".toList = endTag "report_id" := toList_eq_of_eq_ofList rfl
  have hbegin : "<date_range><begin>".toList = startTag "date_range" ++ startTag "begin" :=
    toList_eq_of_eq_ofList rfl
  have hmiddle : "</begin><end>".toList = endTag "begin" ++ startTag "end" :=
    toList_eq_of_eq_ofList rfl
  have hend : "</end></date_range>".toList = endTag "end" ++ endTag "date_range" :=
    toList_eq_of_eq_ofList rfl
  unfold metadataText
  simp only [toString, String.toList_append, hsender, hid, hidEnd, hbegin, hmiddle, hend]
  simp only [metadataOutline, Outline.write, toString, List.append_assoc, List.append_nil]

private theorem toList_policyText (d : Draft) : d.policyText.toList = d.policyOutline.write := by
  have hstart : "<domain>".toList = startTag "domain" := toList_eq_of_eq_ofList rfl
  have hend :
      "</domain><adkim>r</adkim><aspf>r</aspf><p>none</p><pct>100</pct>".toList =
      endTag "domain" ++ startTag "adkim" ++ "r".toList ++ endTag "adkim" ++ startTag "aspf" ++
        "r".toList ++ endTag "aspf" ++ startTag "p" ++ "none".toList ++ endTag "p" ++
        startTag "pct" ++ "100".toList ++ endTag "pct" := toList_eq_of_eq_ofList rfl
  unfold policyText
  simp only [toString, String.toList_append, hstart, hend]
  simp only [policyOutline, Outline.write, List.append_assoc, List.append_nil]

theorem toList_text (d : Draft) :
    d.text.toList = Xml.header ++ (Outline.branch "feedback" d.outline .none).write := by
  have hstart : "<?xml version=\"1.0\" encoding=\"UTF-8\"?><feedback>".toList =
      Xml.header ++ startTag "feedback" := toList_eq_of_eq_ofList rfl
  have hmetadata : "<report_metadata>".toList = startTag "report_metadata" :=
    toList_eq_of_eq_ofList rfl
  have hmetadataEnd : "</report_metadata>".toList = endTag "report_metadata" :=
    toList_eq_of_eq_ofList rfl
  have hpolicy : "<policy_published>".toList = startTag "policy_published" :=
    toList_eq_of_eq_ofList rfl
  have hpolicyEnd : "</policy_published>".toList = endTag "policy_published" :=
    toList_eq_of_eq_ofList rfl
  have hend : "</feedback>".toList = endTag "feedback" := toList_eq_of_eq_ofList rfl
  unfold text
  simp only [toString, String.toList_append, toList_metadataText, toList_policyText,
    toList_join_text, hstart, hmetadata, hmetadataEnd, hpolicy, hpolicyEnd, hend]
  simp only [outline, Outline.write, List.append_assoc, List.append_nil]

end Draft

end DmarcReports.Report
