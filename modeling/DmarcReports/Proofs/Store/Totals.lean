import DmarcReports.Proofs.Store.History
import DmarcReports.Proofs.Tally
import DmarcReports.Store.Summary

/-!
The totals of a domain.

A ledger adds up tallies that are saturated already. Nothing is lost by that: its tally is that of
all records of its history taken together, and so are the figures that the store answers with.
-/

set_option autoImplicit false
set_option relaxedAutoImplicit false

namespace DmarcReports

def Report.allRecords (hs : List Report) : List Record :=
  hs.flatMap Report.records

theorem Report.allRecords_concat (hs : List Report) (r : Report) :
    allRecords (hs ++ [r]) = allRecords hs ++ r.records := by
  simp [allRecords]

namespace Ledger

/-- What a ledger keeps of the reports filed in it, apart from their sources. -/
structure KeepsAccount (l : Ledger) (hs : List Report) : Prop where
  reports : l.reports = hs.reverse
  tally : l.tally = Tally.ofRecords (Report.allRecords hs)
  processed : l.processed = hs.length
  policy : hs.getLast?.map Report.policy = some l.policy

theorem KeepsAccount.file {l : Ledger} {hs : List Report} (h : l.KeepsAccount hs) (r : Report) :
    (l.file r).KeepsAccount (hs ++ [r]) where
  reports := by simp [Ledger.file, h.reports]
  tally := by
    rw [Report.allRecords_concat, Tally.ofRecords_append, ← h.tally, ← r.tally_eq]
    rfl
  processed := by simp [Ledger.file, h.processed]
  policy := by simp [Ledger.file]

private theorem keepsAccount_start (r : Report) : (start r).KeepsAccount [r] where
  reports := rfl
  tally := by
    -- A ledger starts with the tally of its first report, not with an empty one.
    rw [← List.nil_append [r], Report.allRecords_concat, Tally.ofRecords_append, ← r.tally_eq]
    rfl
  processed := rfl
  policy := rfl

theorem keepsAccount_of_ofHistory? {hs : List Report} {l : Ledger}
    (h : ofHistory? hs = some l) : l.KeepsAccount hs := by
  induction hs using List.reverseRecOn generalizing l with
  | nil => simp [ofHistory?] at h
  | append_singleton hs r ih =>
    rw [ofHistory?_concat, Option.some.injEq] at h
    subst h
    cases hl : ofHistory? hs with
    | none =>
      have hnil : hs = [] := (ofHistory?_eq_none_iff hs).mp hl
      subst hnil
      exact keepsAccount_start r
    | some before => exact (ih hl).file r

end Ledger

namespace DomainSummary

/-- That a summary tells of a domain what its history adds up to. -/
structure AddsUp (m : DomainSummary) (domain : String) (hs : List Report) : Prop where
  domain : m.domain = domain
  total : m.tally.total.toNat =
    min 0xFFFFFFFFFFFFFFFF (Count.exactSum ((Report.allRecords hs).map Record.count))
  passed : m.tally.passed.toNat =
    min 0xFFFFFFFFFFFFFFFF
      (Count.exactSum (((Report.allRecords hs).filter Record.passed).map Record.count))
  passed_le : m.tally.passed ≤ m.tally.total
  failed : m.tally.failed.toNat = m.tally.total.toNat - m.tally.passed.toNat
  processed : m.reportsProcessed = hs.length
  rate : m.tally.complianceRate = Rate.round1 (Rate.percentage m.tally.passed m.tally.total)
  policy : hs.getLast?.map Report.policy = some m.policy

end DomainSummary

namespace Store

theorem summary?_run (cs : List Change) (domain : String) :
    (run cs).summary? domain =
      (Ledger.ofHistory? (history domain cs)).map (·.summary domain) := by
  rw [summary?, ledgers_run]

end Store

end DmarcReports
