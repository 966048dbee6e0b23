import DmarcReports.Proofs.Report.Described
import DmarcReports.Proofs.Report.RoundTrip
import DmarcReports.Proofs.Tally
import DmarcReports.Proofs.Text.Lowercase

/-!
Which records of a report pass, and how many messages that makes.

No text of another script comes to the word `pass` when it is put in lower case, and the raw results
have no say in it. Main statement: `decode_passes`.
-/

set_option autoImplicit false
set_option relaxedAutoImplicit false

namespace DmarcReports

open Xml (Node Outline)
open Xml.Node (KeepsNames value_changeNamed_of_apart)

variable {n : Node} {record : Record}

/-- That the row of a record element calls one of the mechanisms a pass. -/
def SaysPass (n : Node) : Prop :=
  Text.eqIgnoreCase (n.value ["row", "policy_evaluated", "spf"]) passResult = true ∨
    Text.eqIgnoreCase (n.value ["row", "policy_evaluated", "dkim"]) passResult = true

/-- No letter of the word is one that another script shares with ASCII. -/
private theorem lowercase_eq_passResult_iff (s : String) :
    Text.lowercase s = passResult ↔ Text.eqIgnoreCase s passResult = true :=
  Text.lowercase_eq_iff (by decide) (by decide) s

theorem Record.DescribedBy.passed_iff (h : record.DescribedBy n) :
    record.passed = true ↔ SaysPass n := by
  rw [Record.passed_iff, h.spfResult, h.dkimResult, lowercase_eq_passResult_iff,
    lowercase_eq_passResult_iff, SaysPass]

namespace Report

private theorem recordOf_changeNamed_authResults {f : Node → Node} (hf : KeepsNames f)
    (h : record.DescribedBy n) :
    ∃ spf dkim, recordOf (n.changeNamed "auth_results" f) =
      .ok { record with spf := spf, dkim := dkim } := by
  refine ⟨_, _, recordOf_eq_ok_iff.mpr
    { sourceIp := ?_, count := ?_, disposition := ?_, dkimResult := ?_, spfResult := ?_,
      headerFrom := ?_, spf := map_authResultOf_eq_iff.mp rfl,
      dkim := map_authResultOf_eq_iff.mp rfl }⟩
  all_goals rw [value_changeNamed_of_apart hf (by decide)]
  · exact h.sourceIp
  · exact h.count
  · exact h.disposition
  · exact h.dkimResult
  · exact h.spfResult
  · exact h.headerFrom

/-- That a record passes just when its row says so, whatever the raw results are. -/
structure PassesBy (n : Node) (record : Record) : Prop where
  passed_iff : record.passed = true ↔ SaysPass n
  passed_changed : ∀ f, KeepsNames f → ∃ record',
    recordOf (n.changeNamed "auth_results" f) = .ok record' ∧ record'.passed = record.passed

private theorem passesBy_of_describedBy (h : record.DescribedBy n) : PassesBy n record where
  passed_iff := h.passed_iff
  passed_changed f hf := by
    obtain ⟨spf, dkim, hchanged⟩ := recordOf_changeNamed_authResults hf h
    exact ⟨_, hchanged, rfl⟩

theorem exactSum_lt_of_decode {bytes : ByteArray} {r : Report} (h : decode bytes = .ok r) :
    Count.exactSum (r.records.map Record.count) < UInt64.size := by
  obtain ⟨s, root, -, -, hroot⟩ := decode_eq_ok_iff.mp h
  exact Tally.isSome_ofRecords?_iff.mp (ofNode_eq_ok_iff.mp hroot).2.2.2

/-- The records of an accepted report pass by what their rows say and by nothing else, and its
counts are the exact sums over all records and over those that pass. -/
theorem decode_passes {bytes : ByteArray} {r : Report} (h : decode bytes = .ok r) :
    (∃ s root, String.fromUTF8? bytes = some s ∧
      Xml.document maxNodes (Xml.dropMark s.toList) = .ok root ∧
      List.Forall₂ PassesBy (root.named "record") r.records) ∧
      Tally.ofRecords? r.records = some r.tally ∧
      r.tally.total.toNat = Count.exactSum (r.records.map Record.count) ∧
      r.tally.passed.toNat = Count.exactSum (Tally.passedCounts r.records) := by
  have hsum := exactSum_lt_of_decode h
  obtain ⟨s, root, htext, hdocument, hroot⟩ := decode_eq_ok_iff.mp h
  have hrecords := (describedBy_of_ofNode hroot).records
  refine ⟨⟨s, root, htext, hdocument, hrecords.imp fun n record => passesBy_of_describedBy⟩, ?_⟩
  rw [r.tally_eq]
  exact ⟨Tally.ofRecords?_eq_some hsum, Tally.toNat_total_of_lt hsum, Tally.toNat_passed_of_lt hsum⟩

/-- One record with a pass in odd case, and one with a word that only resembles it beside a pass
among the raw results. -/
def resembling : Outline :=
  .branch "policy_published" (.leaf "domain" "a.example" .none)
    (.branch "record" (.branch "row" (.leaf "count" "3"
      (.branch "policy_evaluated" (.leaf "spf" " PaSs " .none) .none)) .none)
      (.branch "record" (.branch "row" (.leaf "count" "4"
        (.branch "policy_evaluated" (.leaf "dkim" "pa\u017fs" .none) .none))
        (.branch "auth_results" (.branch "spf"
          (.leaf "result" "pass" (.leaf "selector" "s" .none)) .none) .none)) .none))

def resemblingText : String :=
  String.ofList (Xml.header ++ (Outline.branch "feedback" resembling .none).write)

def resemblingReport : Report :=
  .new {} { domain := "a.example" } [
    { count := 3, spfResult := "pass" },
    { count := 4, dkimResult := "pa\u017fs", spf := [{ result := "pass" }] }]

theorem decode_resemblingText : decode resemblingText.toUTF8 = .ok resemblingReport := by
  have hdocument : Xml.document maxNodes (Xml.dropMark resemblingText.toList) =
      .ok (elementOf "feedback" resembling) := by
    rw [resemblingText, String.toList_ofList]
    exact Xml.document_write (by decide +kernel) (by decide +kernel) (by decide)
  exact (decode_eq_ofNode (Draft.fromUTF8?_toUTF8 _) hdocument).trans rfl

/-- Only the messages of the first record count as passed. -/
theorem decode_passes_resembling :
    decode resemblingText.toUTF8 = .ok resemblingReport ∧
      resemblingReport.tally.total.toNat = 7 ∧ resemblingReport.tally.passed.toNat = 3 := by
  obtain ⟨-, -, htotal, hpassed⟩ := decode_passes decode_resemblingText
  exact ⟨decode_resemblingText, htotal, hpassed⟩

end Report

end DmarcReports
