import DmarcReports.Report.Basic

/-!
What is known of one sending source: the number of its messages over all records, and the results of
the record seen last.
-/

set_option autoImplicit false
set_option relaxedAutoImplicit false

namespace DmarcReports

/-- The accumulated view of one source. -/
structure SourceStat where
  sourceIp : String
  count : UInt64 := 0
  spfResult : String := ""
  dkimResult : String := ""
  disposition : String := ""
  /-- Whether the record seen last passed; a source without records did not. -/
  passed : Bool := false
deriving DecidableEq, Repr

namespace SourceStat

/-- Counts one more record and takes its results for the present ones. -/
def observe (s : SourceStat) (r : Record) : SourceStat where
  sourceIp := s.sourceIp
  count := Count.satAdd s.count r.count
  spfResult := r.spfResult
  dkimResult := r.dkimResult
  disposition := r.disposition
  passed := r.passed

def verdict (s : SourceStat) : String :=
  if s.passed then passResult else "fail"

/-- Whether the first source is listed no later than the second: more messages first, then by
address. -/
def listedBefore (a b : SourceStat) : Bool :=
  b.count < a.count || (a.count == b.count && a.sourceIp ≤ b.sourceIp)

end SourceStat

end DmarcReports
