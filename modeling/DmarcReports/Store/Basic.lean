import DmarcReports.Store.Ledger

/-!
The store: one ledger for each domain that has a report.

Reports without a policy domain are filed under `unknownDomain`, and keep the empty domain in their
own policy.
-/

set_option autoImplicit false
set_option relaxedAutoImplicit false

namespace DmarcReports

/-- The domain under which reports without a policy domain are filed. -/
def unknownDomain : String := "unknown"

def Report.filedUnder (r : Report) : String :=
  if r.domain = "" then unknownDomain else r.domain

/-- The ledgers of all domains. -/
structure Store where
  ledgers : Std.TreeMap String Ledger

namespace Store

def empty : Store := ⟨∅⟩

/-- Files a report, and tells whether that made its domain known. -/
def add (s : Store) (r : Report) : Bool × Store :=
  match s.ledgers[r.filedUnder]? with
  | some l => (false, ⟨s.ledgers.insert r.filedUnder (l.file r)⟩)
  | none => (true, ⟨s.ledgers.insert r.filedUnder (Ledger.start r)⟩)

/-- Forgets a domain, and tells whether it was known. -/
def delete (s : Store) (domain : String) : Bool × Store :=
  match s.ledgers[domain]? with
  | some _ => (true, ⟨s.ledgers.erase domain⟩)
  | none => (false, s)

def clear (_ : Store) : Store := empty

def domains (s : Store) : List String :=
  s.ledgers.keys

def contains (s : Store) (domain : String) : Bool :=
  s.ledgers.contains domain

def size (s : Store) : Nat :=
  s.ledgers.size

def isEmpty (s : Store) : Bool :=
  s.ledgers.isEmpty

/-- The reports of a domain in the order of `Ledger.listing`, at most as many as the limit says. -/
def reports (s : Store) (domain : String) (limit : Option Nat) : List Report :=
  let listed := (s.ledgers[domain]?.map Ledger.listing).getD []
  match limit with
  | some n => listed.take n
  | none => listed

def report? (s : Store) (domain reportId : String) : Option Report :=
  s.ledgers[domain]?.bind (·.find? reportId)

def sources (s : Store) (domain : String) : List SourceStat :=
  (s.ledgers[domain]?.map Ledger.breakdown).getD []

inductive Change where
  | add (r : Report)
  | delete (domain : String)
  | clear

def apply (s : Store) : Change → Store
  | .add r => (s.add r).2
  | .delete domain => (s.delete domain).2
  | .clear => s.clear

/-- The store after changes, one after the other, to the empty one. -/
def run (cs : List Change) : Store :=
  cs.foldl apply empty

end Store

end DmarcReports
