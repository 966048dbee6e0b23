import DmarcReports.Proofs.Report.Draft
import DmarcReports.Proofs.Report.Fields
import DmarcReports.Proofs.Tally
import DmarcReports.Proofs.Text.Numeral
import DmarcReports.Proofs.Text.Trim
import DmarcReports.Proofs.Xml.Reading

/-!
Drafts read back.

The text of a readable draft is one document whose elements hold its values, and each value is what
its own lookup finds there. Main statement: `Draft.decode_text_eq_report`.
-/

set_option autoImplicit false
set_option relaxedAutoImplicit false

namespace DmarcReports.Report

open Xml (Node Name Outline isNamePart)

private theorem isPlain_of_isVerbatim {s : String} (h : isVerbatim s = true) :
    s.toList.all Xml.isPlain = true :=
  (Bool.and_eq_true_iff.mp h).1

private theorem trim_of_isVerbatim {s : String} (h : isVerbatim s = true) : Text.trim s = s :=
  eq_of_beq (Bool.and_eq_true_iff.mp h).2

private theorem isPlain_of_isNumeral {c : Char} (h : Text.isNumeral c = true) :
    Xml.isPlain c = true := by
  obtain ⟨hlow, hhigh⟩ := Text.toNat_of_isNumeral h
  have hlegal : Xml.isLegal c = true := by
    rw [Xml.isLegal, if_neg (by omega)]
    simp only [Bool.and_eq_true, decide_eq_true_eq]
    omega
  refine (Xml.isPlain_iff c).mpr ⟨hlegal, ?_, ?_, ?_, ?_⟩
  all_goals
    rintro rfl
    revert hlow hhigh
    decide

private theorem isVerbatim_of_isNumeral {s : String} (h : ∀ c ∈ s.toList, Text.isNumeral c = true) :
    isVerbatim s = true := by
  have hplain : s.toList.all Xml.isPlain = true :=
    List.all_eq_true.mpr fun c hc => isPlain_of_isNumeral (h c hc)
  have htrim : Text.trim s = s := Text.trim_eq_self fun c hc => Text.isBlank_of_isNumeral (h c hc)
  rw [isVerbatim, hplain, htrim, beq_self_eq_true, Bool.and_self]

private theorem isVerbatim_toString_nat (n : Nat) : isVerbatim (toString n) = true :=
  isVerbatim_of_isNumeral fun _ => Text.isNumeral_of_mem_toString_nat

private theorem isVerbatim_toString_int (i : Int) : isVerbatim (toString i) = true :=
  isVerbatim_of_isNumeral fun _ => Text.isNumeral_of_mem_toString_int

namespace Row

variable {domain : String} {r : Row}

private theorem isWritable_outline (hdomain : isVerbatim domain = true) (h : r.allVerbatim = true) :
    (r.outline domain).isWritable = true := by
  simp only [allVerbatim, Bool.and_eq_true] at h
  obtain ⟨⟨hip, hspf⟩, hdkim⟩ := h
  have hcount := isVerbatim_toString_nat r.count.toNat
  have hnone : isVerbatim "none" = true := by decide
  simp only [outline, Outline.isWritable, isPlain_of_isVerbatim hip, isPlain_of_isVerbatim hspf,
    isPlain_of_isVerbatim hdkim, isPlain_of_isVerbatim hcount, isPlain_of_isVerbatim hnone,
    isPlain_of_isVerbatim hdomain, Bool.and_true]
  decide

private theorem recordOf_outline (hdomain : isVerbatim domain = true) (h : r.allVerbatim = true) :
    recordOf (elementOf "record" (r.outline domain)) = .ok (r.record domain) := by
  simp only [allVerbatim, Bool.and_eq_true] at h
  obtain ⟨⟨hip, hspf⟩, hdkim⟩ := h
  have hcount (n : Option Node) (htext : textOf n "count" = toString r.count.toNat) :
      numberOf Text.uint64? n "count" 0 = .ok r.count :=
    numberOf_of_text htext (Text.uint64?_toString r.count) rfl
  have hdisposition (n : Option Node) (htext : textOf n "disposition" = "none") :
      Text.lowercase (textOr n "disposition" "none") = "none" := by
    rw [textOr, htext]
    decide
  -- All lookups are walked first. The two values that are not just taken over are left behind.
  unfold recordOf
  simp only [outline, child?_branch, child?_leaf, child?_none, String.reduceEq, reduceIte,
    Option.bind_some]
  rw [hcount, hdisposition]
  · simp only [bind, Except.bind, textOf_leaf, String.reduceEq, reduceIte, trim_of_isVerbatim hip,
      trim_of_isVerbatim hspf, trim_of_isVerbatim hdkim, trim_of_isVerbatim hdomain]
    rfl
  · simp only [textOf_leaf, reduceIte]
    decide
  · simp only [textOf_leaf, String.reduceEq, reduceIte,
      trim_of_isVerbatim (isVerbatim_toString_nat r.count.toNat)]

end Row

namespace Draft

variable {d : Draft}

private theorem isWritable_rowsOutline {domain : String} (hdomain : isVerbatim domain = true)
    {rows : List Row} (h : ∀ r ∈ rows, r.allVerbatim = true) :
    (rowsOutline domain rows).isWritable = true := by
  induction rows with
  | nil => rfl
  | cons r rows ih =>
    have hr := Row.isWritable_outline hdomain (h r List.mem_cons_self)
    have hrows := ih fun s hs => h s (List.mem_cons_of_mem r hs)
    have hname : isNamePart "record".toList = true := by decide
    rw [rowsOutline_cons, Outline.isWritable, hname, hr, hrows]
    rfl

private theorem isWritable_metadataOutline (h : isVerbatim d.reportId = true) :
    d.metadataOutline.isWritable = true := by
  have hbegin := isVerbatim_toString_int (d.endTime.toInt - 86399)
  have hend := isVerbatim_toString_int d.endTime.toInt
  simp only [metadataOutline, Outline.isWritable, isPlain_of_isVerbatim h,
    isPlain_of_isVerbatim hbegin, isPlain_of_isVerbatim hend, Bool.and_true]
  decide

private theorem isWritable_policyOutline (h : isVerbatim d.domain = true) :
    d.policyOutline.isWritable = true := by
  simp only [policyOutline, Outline.isWritable, isPlain_of_isVerbatim h, Bool.and_true]
  decide

private theorem Readable.isWritable_outline (h : d.Readable) : d.outline.isWritable = true := by
  simp only [outline, Outline.isWritable, isWritable_metadataOutline h.reportId_verbatim,
    isWritable_policyOutline h.domain_verbatim,
    isWritable_rowsOutline h.domain_verbatim h.rows_verbatim, Bool.and_true]
  decide

private theorem int64?_endTime (e : Int64) : Text.int64? (toString e.toInt).toList = some e := by
  have hlow : -(Text.int64Bound : Int) ≤ e.toInt := e.le_toInt
  have hhigh : e.toInt < Text.int64Bound := e.toInt_lt
  rw [Text.int64?_toString hlow hhigh, Int64.ofInt_toInt]

private theorem int64?_beginTime {e : Int64} (h : -(Text.int64Bound : Int) ≤ e.toInt - 86399) :
    Text.int64? (toString (e.toInt - 86399)).toList = some (e - 86399) := by
  have hbound : e.toInt < Text.int64Bound := e.toInt_lt
  have hhigh : e.toInt - 86399 < Text.int64Bound := by omega
  rw [Text.int64?_toString h hhigh, Int64.ofInt_sub, Int64.ofInt_toInt]
  rfl

private theorem toInt_beginTime {e : Int64} (h : -(Text.int64Bound : Int) ≤ e.toInt - 86399) :
    (e - 86399).toInt = e.toInt - 86399 := by
  have hbound : e.toInt < 2 ^ 63 := e.toInt_lt
  have hday : (86399 : Int64).toInt = 86399 := rfl
  simp only [Text.int64Bound] at h
  rw [Int64.toInt_sub, hday]
  exact Int.bmod_eq_of_le (by omega) (by omega)

private theorem Readable.metadataOf_outline (h : d.Readable) :
    metadataOf (some (elementOf "report_metadata" d.metadataOutline)) = .ok d.report.metadata := by
  have hbegin (n : Option Node) (htext : textOf n "begin" = toString (d.endTime.toInt - 86399)) :
      numberOf Text.int64? n "begin" 0 = .ok (d.endTime - 86399) :=
    numberOf_of_text htext (int64?_beginTime h.begin_in_range) rfl
  have hend (n : Option Node) (htext : textOf n "end" = toString d.endTime.toInt) :
      numberOf Text.int64? n "end" 0 = .ok d.endTime :=
    numberOf_of_text htext (int64?_endTime d.endTime) rfl
  unfold metadataOf
  simp only [metadataOutline, child?_branch, child?_leaf, child?_none, String.reduceEq, reduceIte,
    Option.bind_some]
  rw [hbegin, hend]
  · have horg : Text.trim "google.com" = "google.com" := by decide
    have hemail : Text.trim "noreply@google.com" = "noreply@google.com" := by decide
    simp only [bind, Except.bind, textOf_leaf, String.reduceEq, reduceIte, horg, hemail,
      trim_of_isVerbatim h.reportId_verbatim]
    rfl
  · simp only [textOf_leaf, String.reduceEq, reduceIte,
      trim_of_isVerbatim (isVerbatim_toString_int d.endTime.toInt)]
  · simp only [textOf_leaf, reduceIte,
      trim_of_isVerbatim (isVerbatim_toString_int (d.endTime.toInt - 86399))]

private theorem Readable.policyOf_outline (h : d.Readable) :
    policyOf (some (elementOf "policy_published" d.policyOutline)) = .ok d.report.policy := by
  have hrelaxed : Text.trim "r" = "r" := by decide
  have hnone : Text.trim "none" = "none" := by decide
  have hfull : Text.trim "100" = "100" := by decide
  have hread : Text.uint32? "100".toList = some 100 := by decide
  have hpct : numberOf Text.uint32? (some (elementOf "policy_published" d.policyOutline)) "pct" 100 =
      .ok 100 := by
    refine numberOf_of_text ?_ hread rfl
    simp only [policyOutline, textOf_leaf, String.reduceEq, reduceIte, hfull]
  unfold policyOf
  simp only [hpct]
  simp only [policyOutline, textOf_leaf, textOf_none, textOr, text?, String.reduceEq, reduceIte,
    trim_of_isVerbatim h.domain_verbatim, h.domain_ne_empty, hrelaxed, hnone]
  rfl

private theorem named_rowsOutline (domain : String) (rows : List Row) :
    (elementOf "feedback" (rowsOutline domain rows)).named "record" =
      rows.map fun r => elementOf "record" (r.outline domain) := by
  induction rows with
  | nil => rfl
  | cons r rows ih =>
    rw [rowsOutline_cons, named_branch, if_pos rfl, ih, List.map_cons]

private theorem Readable.ofNode_outline (h : d.Readable) :
    ofNode (elementOf "feedback" d.outline) = .ok d.report := by
  have hmetadata := h.metadataOf_outline
  have hpolicy := h.policyOf_outline
  have hrecords : ((elementOf "feedback" d.outline).named "record").mapM recordOf =
      .ok d.report.records := by
    have hnamed : (elementOf "feedback" d.outline).named "record" =
        d.rows.map fun r => elementOf "record" (r.outline d.domain) := by
      simp only [outline, named_branch, String.reduceEq, reduceIte, named_rowsOutline]
    rw [hnamed, List.mapM_map]
    exact mapM_ok fun r hr => Row.recordOf_outline h.domain_verbatim (h.rows_verbatim r hr)
  have hcounts : d.report.records.map Record.count = d.rows.map Row.count := by
    simp only [report, List.map_map]
    rfl
  have htally : Tally.ofRecords? d.report.records = some d.report.tally :=
    Tally.ofRecords?_eq_some (by rw [hcounts]; exact h.counts_fit)
  unfold ofNode
  -- The records go first, while the outline of the rows is still closed.
  simp only [hrecords]
  simp only [outline, child?_branch, String.reduceEq, reduceIte, hmetadata, hpolicy, bind,
    Except.bind, assemble_of_some htally]
  rfl

private theorem Readable.ofText_text (h : d.Readable) : ofText d.text.toList = .ok d.report := by
  have hname : isNamePart "feedback".toList = true := by decide
  have hmark : Xml.dropMark (Xml.header ++ (Outline.branch "feedback" d.outline .none).write) =
      Xml.header ++ (Outline.branch "feedback" d.outline .none).write := rfl
  rw [ofText, toList_text, hmark, Xml.document_write hname h.isWritable_outline h.nodes_fit]
  exact h.ofNode_outline

theorem fromUTF8?_toUTF8 (s : String) : String.fromUTF8? s.toUTF8 = some s :=
  dif_pos s.isValidUTF8

private theorem counts_report (d : Draft) :
    d.report.records.map Record.count = d.rows.map Row.count := by
  simp only [report, List.map_map]
  rfl

private theorem passedCounts_report (d : Draft) :
    Tally.passedCounts d.report.records = (d.rows.filter Row.passed).map Row.count := by
  simp only [Tally.passedCounts, report, List.filter_map, List.map_map]
  rfl

theorem Readable.decode_text (h : d.Readable) : decode d.text.toUTF8 = .ok d.report := by
  rw [decode, fromUTF8?_toUTF8]
  exact h.ofText_text

private theorem Readable.tally_report (h : d.Readable) :
    d.report.tally.total.toNat = Count.exactSum (d.rows.map Row.count) ∧
      d.report.tally.passed.toNat = Count.exactSum ((d.rows.filter Row.passed).map Row.count) := by
  have hfit : Count.exactSum (d.report.records.map Record.count) < UInt64.size := by
    rw [counts_report]
    exact h.counts_fit
  rw [← counts_report, ← passedCounts_report]
  exact ⟨Tally.toNat_total_of_lt hfit, Tally.toNat_passed_of_lt hfit⟩

/-- A readable draft is decoded to the report that it describes, with the exact counts of its
rows. -/
theorem decode_text_eq_report {d : Draft} (h : d.Readable) :
    decode d.text.toUTF8 = .ok d.report ∧
      d.report.metadata.beginTime.toInt = d.endTime.toInt - 86399 ∧
      d.report.tally.total.toNat = Count.exactSum (d.rows.map Row.count) ∧
      d.report.tally.passed.toNat = Count.exactSum ((d.rows.filter Row.passed).map Row.count) ∧
      d.report.tally.failed.toNat =
        Count.exactSum ((d.rows.filter fun r => !r.passed).map Row.count) := by
  obtain ⟨htotal, hpassed⟩ := h.tally_report
  have hparts := Count.exactSum_filter_add_filter_not Row.passed Row.count d.rows
  have hfailed := Tally.toNat_failed (Tally.passed_le_total_ofRecords d.report.records)
  have htally : Tally.ofRecords d.report.records = d.report.tally := rfl
  refine ⟨h.decode_text, toInt_beginTime h.begin_in_range, htotal, hpassed, ?_⟩
  rw [htally, htotal, hpassed] at hfailed
  omega

def twoSources : Draft where
  domain := "example.com"
  reportId := "2024-03-01 No. 7"
  endTime := 1709337599
  rows := [⟨"203.0.113.5", 12, "pass", "Fail"⟩, ⟨"2001:db8::1", 3, "", "SOFTFAIL"⟩]

theorem decode_text_eq_report_twoSources :
    twoSources.Readable ∧
      decode twoSources.text.toUTF8 = .ok {
        metadata := {
          reportId := "2024-03-01 No. 7"
          orgName := "google.com"
          contactEmail := "noreply@google.com"
          beginTime := 1709251200
          endTime := 1709337599 }
        policy := { domain := "example.com" }
        records := [
          { sourceIp := "203.0.113.5", count := 12, spfResult := "pass", dkimResult := "fail"
            headerFrom := "example.com" },
          { sourceIp := "2001:db8::1", count := 3, dkimResult := "softfail"
            headerFrom := "example.com" }] } ∧
      twoSources.report.tally.passed.toNat = 12 ∧ twoSources.report.tally.failed.toNat = 3 := by
  have hreadable : twoSources.Readable := {
    domain_verbatim := by decide
    domain_ne_empty := by decide
    reportId_verbatim := by decide
    rows_verbatim := by decide
    begin_in_range := by decide
    counts_fit := by decide
    nodes_fit := by decide }
  obtain ⟨hdecode, -, -, hpassed, hfailed⟩ := decode_text_eq_report hreadable
  refine ⟨hreadable, ?_, hpassed, hfailed⟩
  rw [hdecode]
  decide

end Draft

end DmarcReports.Report
