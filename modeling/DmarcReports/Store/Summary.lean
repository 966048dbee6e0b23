import DmarcReports.Store.Basic

/-!
The figures that the store answers with: a line for each report, a summary for each domain, and an
overview of all domains. Rates are rounded to one decimal place.
-/

set_option autoImplicit false
set_option relaxedAutoImplicit false

namespace DmarcReports

/-- The share of a tally that passed in percent, rounded to one decimal place. -/
def Tally.complianceRate (t : Tally) : Float :=
  Rate.round1 t.passRate

/-- One line of the listing of a domain's reports. -/
structure ReportEntry where
  reportId : String
  orgName : String
  beginTime : Int64
  endTime : Int64
  tally : Tally
  /-- The policy that the domain requested. -/
  policy : String
deriving DecidableEq, Repr

def ReportEntry.ofReport (r : Report) : ReportEntry where
  reportId := r.metadata.reportId
  orgName := r.metadata.orgName
  beginTime := r.metadata.beginTime
  endTime := r.metadata.endTime
  tally := r.tally
  policy := r.policy.p

structure DomainSummary where
  domain : String
  tally : Tally
  reportsProcessed : Nat
  policy : Policy
deriving DecidableEq, Repr

def Ledger.summary (l : Ledger) (domain : String) : DomainSummary where
  domain := domain
  tally := l.tally
  reportsProcessed := l.processed
  policy := l.policy

/-- The totals of all domains, and the summaries they come from. -/
structure Overview where
  domains : List DomainSummary
  tally : Tally
  reportsProcessed : Nat
deriving DecidableEq, Repr

def Overview.ofSummaries (ds : List DomainSummary) : Overview where
  domains := ds
  tally := (ds.map DomainSummary.tally).foldl Tally.add Tally.zero
  reportsProcessed := ds.foldr (fun d n => d.reportsProcessed + n) 0

namespace Store

def entries (s : Store) (domain : String) (limit : Option Nat) : List ReportEntry :=
  (s.reports domain limit).map ReportEntry.ofReport

def summary? (s : Store) (domain : String) : Option DomainSummary :=
  s.ledgers[domain]?.map (·.summary domain)

def summaries (s : Store) : List DomainSummary :=
  s.ledgers.toList.map fun d => d.2.summary d.1

def overview (s : Store) : Overview :=
  Overview.ofSummaries s.summaries

end Store

end DmarcReports
