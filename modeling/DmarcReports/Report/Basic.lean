import DmarcReports.Rejection
import DmarcReports.Rate
import DmarcReports.Count

/-!
The aggregate report: who sent it, the policy the domain published, and one record per source.

A report keeps its parts and the message counts of its records. There are two ways to make one:
counts that overflow saturate in `Report.new`, and `Report.assemble` refuses them.
-/

set_option autoImplicit false
set_option relaxedAutoImplicit false

namespace DmarcReports

/-- Who sent the report and the period it covers, in seconds since the epoch. -/
structure Metadata where
  reportId : String := ""
  orgName : String := ""
  contactEmail : String := ""
  beginTime : Int64 := 0
  endTime : Int64 := 0
deriving DecidableEq, Repr

structure Policy where
  domain : String
  /-- DKIM alignment, relaxed unless given. -/
  adkim : String := "r"
  /-- SPF alignment, relaxed unless given. -/
  aspf : String := "r"
  /-- What is requested for mail that fails. -/
  p : String := "none"
  /-- What is requested for subdomains, where it differs. -/
  sp : Option String := none
  /-- The share of mail that the policy is applied to. -/
  pct : UInt32 := 100
deriving DecidableEq, Repr

def Policy.subdomainPolicy (policy : Policy) : String :=
  policy.sp.getD policy.p

/-- One raw result of an authentication mechanism. -/
structure AuthResult where
  domain : String := ""
  result : String := ""
  /-- The key selector, of DKIM alone. -/
  selector : Option String := none
deriving DecidableEq, Repr

/-- The mail from one source with one outcome. -/
structure Record where
  sourceIp : String := ""
  count : UInt64 := 0
  disposition : String := "none"
  dkimResult : String := ""
  spfResult : String := ""
  headerFrom : String := ""
  spf : List AuthResult := []
  dkim : List AuthResult := []
deriving DecidableEq, Repr

def passResult : String := "pass"

/-- One aligned mechanism that passes is enough. -/
def Record.passed (r : Record) : Bool :=
  r.spfResult == passResult || r.dkimResult == passResult

structure Tally where
  total : UInt64
  passed : UInt64
deriving DecidableEq, Repr

namespace Tally

def failed (t : Tally) : UInt64 :=
  t.total - t.passed

/-- The share that passed in percent, not rounded. -/
def passRate (t : Tally) : Float :=
  Rate.percentage t.passed t.total

/-- The counts of the records, with saturating sums. -/
def ofRecords (rs : List Record) : Tally where
  total := Count.satSum (rs.map Record.count)
  passed := Count.satSum ((rs.filter Record.passed).map Record.count)

/-- The counts of the records, where they fit into a word. -/
def ofRecords? (rs : List Record) : Option Tally := do
  let total ← Count.checkedSum (rs.map Record.count)
  let passed ← Count.checkedSum ((rs.filter Record.passed).map Record.count)
  return ⟨total, passed⟩

def add (s t : Tally) : Tally :=
  ⟨Count.satAdd s.total t.total, Count.satAdd s.passed t.passed⟩

def zero : Tally := ⟨0, 0⟩

private theorem eq_ofRecords_of_ofRecords? {rs : List Record} {t : Tally}
    (h : ofRecords? rs = some t) :
    t = ofRecords rs := by
  obtain ⟨total, htotal, hrest⟩ := Option.bind_eq_some_iff.mp h
  obtain ⟨passed, hpassed, ht⟩ := Option.bind_eq_some_iff.mp hrest
  obtain rfl := Option.some.inj ht
  rw [ofRecords, Count.satSum_of_checkedSum htotal, Count.satSum_of_checkedSum hpassed]

end Tally

structure Report where
  metadata : Metadata
  policy : Policy
  records : List Record
  /-- The message counts of the records. -/
  tally : Tally := Tally.ofRecords records
  tally_eq : tally = Tally.ofRecords records := by rfl
deriving DecidableEq, Repr

namespace Report

def domain (r : Report) : String :=
  r.policy.domain

/-- The report of these parts, with counts that saturate. -/
def new (metadata : Metadata) (policy : Policy) (records : List Record) : Report where
  metadata := metadata
  policy := policy
  records := records

/-- There is one report of the same parts only. -/
theorem eq_new (r : Report) : r = new r.metadata r.policy r.records := by
  obtain ⟨metadata, policy, records, tally, rfl⟩ := r
  rfl

def countOverflow : Rejection :=
  .malformedXml "message count out of range"

/-- The report of these parts, refused where its message counts overflow. -/
def assemble (metadata : Metadata) (policy : Policy) (records : List Record) :
    Except Rejection Report :=
  match h : Tally.ofRecords? records with
  | some tally =>
    .ok ⟨metadata, policy, records, tally, Tally.eq_ofRecords_of_ofRecords? h⟩
  | none => .error countOverflow

section

variable {metadata : Metadata} {policy : Policy} {records : List Record}

theorem assemble_of_some {t : Tally} (h : Tally.ofRecords? records = some t) :
    assemble metadata policy records = .ok (new metadata policy records) := by
  unfold assemble
  split
  · rename_i hchecked
    obtain rfl := Tally.eq_ofRecords_of_ofRecords? hchecked
    rfl
  · rename_i hnone
    rw [h] at hnone
    cases hnone

theorem assemble_of_none (h : Tally.ofRecords? records = none) :
    assemble metadata policy records = .error countOverflow := by
  unfold assemble
  split
  · rename_i hsome
    rw [h] at hsome
    cases hsome
  · rfl

end

end Report

end DmarcReports
