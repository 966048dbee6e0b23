import Std.Data.TreeSet
import DmarcReports.Store.Summary
import DmarcReports.Strategy
import DmarcReports.Upload

/-!
From uploads to the store, one at a time or a whole batch.

The uploads of a batch may be parsed in any order, but their reports are filed in the order of the
uploads.
-/

set_option autoImplicit false
set_option relaxedAutoImplicit false

namespace DmarcReports

/-- What is known of an upload once its report is filed. -/
structure Receipt where
  domain : String
  reportId : String
  /-- The number of messages that the report covers. -/
  messages : UInt64
deriving DecidableEq, Repr

def Receipt.ofReport (r : Report) : Receipt where
  domain := r.domain
  reportId := r.metadata.reportId
  messages := r.tally.total

structure BatchOutcome where
  /-- How many reports were filed. -/
  reportsFound : Nat := 0
  /-- The receipts of the filed reports, in the order of the uploads. -/
  receipts : List Receipt := []
  /-- The names of the other uploads with the reason, in the order of the uploads. -/
  failures : List (String × Rejection) := []
  /-- The domains that the batch made known, in ascending order. -/
  newDomains : List String := []
deriving DecidableEq, Repr

namespace BatchOutcome

def isClean (o : BatchOutcome) : Bool :=
  o.failures.isEmpty

end BatchOutcome

structure Ingestor where
  limits : Limits
  mode : ExecutionMode := .auto
  /-- How many workers a pool has. -/
  workers : Nat
  /-- How many uploads are worth a pool. -/
  minFilesForParallel : Nat := 4

namespace Ingestor

def strategyFor (g : Ingestor) (items : Nat) : Strategy :=
  Strategy.select g.mode items g.minFilesForParallel g.workers

def ingest (g : Ingestor) (s : Store) (u : Upload) : Except Rejection Receipt × Store :=
  match u.parse g.limits with
  | .ok r => (.ok (Receipt.ofReport r), (s.add r).2)
  | .error e => (.error e, s)

/-- The reports of all uploads in their order. A pool that has no results is made up for by parsing
the uploads one after the other. -/
def parseAll (g : Ingestor) (choice : Nat → Nat) (us : List Upload) :
    List (Except Rejection Report) :=
  match (g.strategyFor us.length).execute choice (fun u => some (u.parse g.limits)) us with
  | .ok parsed => parsed
  | .error _ => us.map (Upload.parse g.limits)

/-- A batch that is being filed: receipts and failures with the last one in front. -/
structure Progress where
  store : Store
  reportsFound : Nat := 0
  receipts : List Receipt := []
  failures : List (String × Rejection) := []
  newDomains : Std.TreeSet String := ∅

def Progress.apply (p : Progress) (x : Upload × Except Rejection Report) : Progress :=
  match x.2 with
  | .ok r =>
    let (created, store) := p.store.add r
    let receipt := Receipt.ofReport r
    { p with
      store
      reportsFound := p.reportsFound + 1
      receipts := receipt :: p.receipts
      newDomains := if created then p.newDomains.insert receipt.domain else p.newDomains }
  | .error e => { p with failures := (x.1.fileName, e) :: p.failures }

def Progress.outcome (p : Progress) : BatchOutcome where
  reportsFound := p.reportsFound
  receipts := p.receipts.reverse
  failures := p.failures.reverse
  newDomains := p.newDomains.toList

/-- Files the reports of a batch; `choice` is the order in which a pool moves. -/
def batch (g : Ingestor) (choice : Nat → Nat) (s : Store) (us : List Upload) :
    BatchOutcome × Store :=
  let p := (us.zip (g.parseAll choice us)).foldl Progress.apply { store := s }
  (p.outcome, p.store)

end Ingestor

end DmarcReports
