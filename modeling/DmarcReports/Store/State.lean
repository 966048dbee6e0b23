import Std.Data.HashMap
import DmarcReports.Store.Summary

/-!
The state that is stored for one domain: its reports in the order of filing, its summary with all
figures, and its sources in no order.

A state is retired when its domain is forgotten. Whoever still holds it can tell from that.
-/

set_option autoImplicit false
set_option relaxedAutoImplicit false

namespace DmarcReports

structure StoredSummary where
  domain : String
  total : UInt64 := 0
  passed : UInt64 := 0
  failed : UInt64 := 0
  reportsProcessed : Nat := 0
  complianceRate : Float := 0
  policy : Policy

namespace StoredSummary

/-- Takes in the counts of a report; all figures move together. -/
def absorb (m : StoredSummary) (r : Report) : StoredSummary :=
  let total := Count.satAdd m.total r.tally.total
  let passed := Count.satAdd m.passed r.tally.passed
  { domain := m.domain
    total
    passed
    failed := total - passed
    reportsProcessed := m.reportsProcessed + 1
    complianceRate := Rate.round1 (Rate.percentage passed total)
    policy := r.policy }

def ofSummary (m : DomainSummary) : StoredSummary where
  domain := m.domain
  total := m.tally.total
  passed := m.tally.passed
  failed := m.tally.failed
  reportsProcessed := m.reportsProcessed
  complianceRate := m.tally.complianceRate
  policy := m.policy

end StoredSummary

structure DomainState where
  reports : Array Report := #[]
  summary : StoredSummary
  sources : Std.HashMap String SourceStat := ∅
  retired : Bool := false

namespace DomainState

def countSource (sources : Std.HashMap String SourceStat) (r : Record) :
    Std.HashMap String SourceStat :=
  sources.alter r.sourceIp fun known =>
    some ((known.getD { sourceIp := r.sourceIp }).observe r)

def file (st : DomainState) (r : Report) : DomainState where
  reports := st.reports.push r
  summary := st.summary.absorb r
  sources := r.records.foldl countSource st.sources
  retired := st.retired

def start (domain : String) (r : Report) : DomainState :=
  file { summary := { domain, policy := r.policy } } r

def retire (st : DomainState) : DomainState :=
  { st with retired := true }

def newestFirst (st : DomainState) : List Report :=
  st.reports.toList.reverse

def listing (st : DomainState) : List Report :=
  st.newestFirst.mergeSort Ledger.endsNoEarlier

def find? (st : DomainState) (reportId : String) : Option Report :=
  st.newestFirst.find? (·.metadata.reportId == reportId)

def breakdown (st : DomainState) : List SourceStat :=
  (st.sources.toList.map Prod.snd).mergeSort SourceStat.listedBefore

end DomainState

end DmarcReports
