import DmarcReports.Proofs.Report.Passing
import DmarcReports.Proofs.Text.Trim

/-!
What an accepted report never lacks.

Main statement: `decode_complete`.
-/

set_option autoImplicit false
set_option relaxedAutoImplicit false

namespace DmarcReports

open Xml (Node)

variable {root n : Node} {policy : Policy} {record : Record} {a : AuthResult} {r : Report}

private theorem orDefault_ne_empty {default : String} (h : default ≠ "") (value : String) :
    orDefault default value ≠ "" := by
  unfold orDefault
  split
  · exact h
  · assumption

private theorem ifFilled_ne_some_empty (value : String) : ifFilled value ≠ some "" := by
  unfold ifFilled
  split
  · exact (Option.some_ne_none "").symm
  · rename_i hfilled
    exact fun h => hfilled (Option.some.inj h)

private theorem trim_value (n : Node) (path : List String) :
    Text.trim (n.value path) = n.value path := by
  unfold Node.value
  cases n.at? path with
  | none => rfl
  | some e => exact Text.trim_trim _

structure Policy.Complete (policy : Policy) : Prop where
  domain : policy.domain ≠ ""
  adkim : policy.adkim ≠ ""
  aspf : policy.aspf ≠ ""
  requested : policy.p ≠ ""
  sp : policy.sp ≠ some ""
  trim_domain : Text.trim policy.domain = policy.domain

/-- That a raw result has a selector only where there can be one, and then not an empty one. -/
structure AuthResult.Complete (withSelector : Bool) (a : AuthResult) : Prop where
  selector : a.selector ≠ some ""
  selector_of_without : withSelector = false → a.selector = none

/-- That a record has a disposition, complete raw results, and no blanks around its addresses. -/
structure Record.Complete (record : Record) : Prop where
  disposition : record.disposition ≠ ""
  spf : ∀ a ∈ record.spf, a.Complete false
  dkim : ∀ a ∈ record.dkim, a.Complete true
  trim_sourceIp : Text.trim record.sourceIp = record.sourceIp
  trim_headerFrom : Text.trim record.headerFrom = record.headerFrom

structure Report.Complete (r : Report) : Prop where
  trim_reportId : Text.trim r.metadata.reportId = r.metadata.reportId
  policy : r.policy.Complete
  records : ∀ record ∈ r.records, record.Complete
  counts_fit : Count.exactSum (r.records.map Record.count) < UInt64.size
  assembled : Report.assemble r.metadata r.policy r.records = .ok r
  tally : Tally.ofRecords? r.records = some r.tally
  failed : r.tally.failed.toNat =
    Count.exactSum ((r.records.filter fun record => !record.passed).map Record.count)

theorem Policy.DescribedBy.complete (h : policy.DescribedBy root) (hdomain : policy.domain ≠ "") :
    policy.Complete where
  domain := hdomain
  adkim := by
    rw [h.adkim]
    exact orDefault_ne_empty (by decide) _
  aspf := by
    rw [h.aspf]
    exact orDefault_ne_empty (by decide) _
  requested := by
    rw [h.requested]
    exact orDefault_ne_empty (by decide) _
  sp := by
    rw [h.sp]
    exact ifFilled_ne_some_empty _
  trim_domain := by
    rw [h.domain]
    exact trim_value _ _

theorem AuthResult.DescribedBy.complete {withSelector : Bool} (h : a.DescribedBy withSelector n) :
    a.Complete withSelector where
  selector := by
    rw [h.selector]
    split
    · exact ifFilled_ne_some_empty _
    · exact (Option.some_ne_none "").symm
  selector_of_without hwithout := by
    rw [h.selector, hwithout, if_neg Bool.false_ne_true]

theorem Record.DescribedBy.complete (h : record.DescribedBy n) : record.Complete where
  disposition := by
    rw [h.disposition, Ne, Text.lowercase_eq_empty_iff]
    exact orDefault_ne_empty (by decide) _
  spf := Report.forall_mem_right h.spf fun _ _ => AuthResult.DescribedBy.complete
  dkim := Report.forall_mem_right h.dkim fun _ _ => AuthResult.DescribedBy.complete
  trim_sourceIp := by
    rw [h.sourceIp]
    exact trim_value _ _
  trim_headerFrom := by
    rw [h.headerFrom]
    exact trim_value _ _

namespace Report

/-- An accepted report is complete. -/
theorem decode_complete {bytes : ByteArray} (h : decode bytes = .ok r) : r.Complete := by
  have hsum := exactSum_lt_of_decode h
  have hdomain : r.policy.domain ≠ "" := domain_ne_empty_of_decode h
  have htally : Tally.ofRecords? r.records = some r.tally := by
    rw [r.tally_eq]
    exact Tally.ofRecords?_eq_some hsum
  obtain ⟨s, root, -, -, hroot⟩ := decode_eq_ok_iff.mp h
  have hdescribed := describedBy_of_ofNode hroot
  exact {
    trim_reportId := by
      rw [hdescribed.metadata.reportId]
      exact trim_value _ _
    policy := hdescribed.policy.complete hdomain
    records := forall_mem_right hdescribed.records fun _ _ => Record.DescribedBy.complete
    counts_fit := hsum
    assembled := assemble_eq_ok_iff.mpr ⟨by rw [htally]; rfl, r.eq_new⟩
    tally := htally
    failed := by
      rw [r.tally_eq]
      exact Tally.toNat_failed_of_lt hsum }

/-- The selector of an SPF result is dropped, and the second record has failed. -/
theorem decode_complete_resembling :
    decode resemblingText.toUTF8 = .ok resemblingReport ∧ resemblingReport.Complete ∧
      resemblingReport.tally.failed.toNat = 4 := by
  have hcomplete := decode_complete decode_resemblingText
  exact ⟨decode_resemblingText, hcomplete, hcomplete.failed⟩

end Report

end DmarcReports
