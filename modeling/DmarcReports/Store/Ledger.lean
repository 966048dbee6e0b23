import Std.Data.TreeMap
import DmarcReports.Store.Source

/-!
The ledger of one domain: its reports, a running tally and a breakdown by source.
-/

set_option autoImplicit false
set_option relaxedAutoImplicit false

namespace DmarcReports

structure Ledger where
  /-- All reports, the one filed last in front. -/
  reports : List Report := []
  /-- The counts of all reports, with saturating sums. -/
  tally : Tally := Tally.zero
  /-- How many reports were filed. -/
  processed : Nat := 0
  /-- The policy of the report filed last. -/
  policy : Policy
  /-- The sources of all records, by address. -/
  sources : Std.TreeMap String SourceStat := ∅

namespace Ledger

def countSource (sources : Std.TreeMap String SourceStat) (r : Record) :
    Std.TreeMap String SourceStat :=
  sources.alter r.sourceIp fun known =>
    some ((known.getD { sourceIp := r.sourceIp }).observe r)

def file (l : Ledger) (r : Report) : Ledger where
  reports := r :: l.reports
  tally := l.tally.add r.tally
  processed := l.processed + 1
  policy := r.policy
  sources := r.records.foldl countSource l.sources

def start (r : Report) : Ledger :=
  file { policy := r.policy } r

def endsNoEarlier (a b : Report) : Bool :=
  b.metadata.endTime ≤ a.metadata.endTime

/-- The reports by the end of their period, latest first; of equal ends the one filed last comes
first. -/
def listing (l : Ledger) : List Report :=
  l.reports.mergeSort endsNoEarlier

/-- The report with this identifier; of several the one filed last. -/
def find? (l : Ledger) (reportId : String) : Option Report :=
  l.reports.find? (·.metadata.reportId == reportId)

/-- The sources with most messages first, equal ones by address. -/
def breakdown (l : Ledger) : List SourceStat :=
  l.sources.values.mergeSort SourceStat.listedBefore

end Ledger

end DmarcReports
