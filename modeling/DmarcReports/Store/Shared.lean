import DmarcReports.Store.State

/-!
The store as many workers share it.

An adder first looks up the state of its domain and then files its report there. In between others
may have forgotten the domain; the state is retired then, and the adder starts again. Only where it
finds none does it lock all handles, to start a new state unless somebody else has done so.
-/

set_option autoImplicit false
set_option relaxedAutoImplicit false

namespace DmarcReports

structure SharedStore where
  /-- All states that were ever started; a handle is a place among them. -/
  states : Array DomainState := #[]
  handles : Std.HashMap String Nat := ∅

structure StoredOverview where
  totalDomains : Nat
  totalMessages : UInt64
  totalPassed : UInt64
  passRate : Float
  reportsProcessed : Nat
  domains : List StoredSummary

namespace StoredOverview

def ofSummaries (ms : List StoredSummary) : StoredOverview :=
  let total := (ms.map StoredSummary.total).foldl Count.satAdd 0
  let passed := (ms.map StoredSummary.passed).foldl Count.satAdd 0
  { totalDomains := ms.length
    totalMessages := total
    totalPassed := passed
    passRate := Rate.round1 (Rate.percentage passed total)
    reportsProcessed := ms.foldr (fun m n => m.reportsProcessed + n) 0
    domains := ms }

def ofOverview (o : Overview) : StoredOverview where
  totalDomains := o.domains.length
  totalMessages := o.tally.total
  totalPassed := o.tally.passed
  passRate := o.tally.complianceRate
  reportsProcessed := o.reportsProcessed
  domains := o.domains.map StoredSummary.ofSummary

end StoredOverview

namespace SharedStore

/-- Files a report in the state of a handle, unless the state is retired. -/
def commit? (s : SharedStore) (handle : Nat) (r : Report) : Option SharedStore :=
  match s.states[handle]? with
  | some st =>
    if st.retired then none else some { s with states := s.states.modify handle (·.file r) }
  | none => none

/-- Files a report with all handles locked, and tells whether that made its domain known. -/
def create (s : SharedStore) (r : Report) : Bool × SharedStore :=
  match s.handles[r.filedUnder]? with
  | some handle => (false, { s with states := s.states.modify handle (·.file r) })
  | none => (true, {
      states := s.states.push (.start r.filedUnder r)
      handles := s.handles.insert r.filedUnder s.states.size })

def delete (s : SharedStore) (domain : String) : Bool × SharedStore :=
  match s.handles[domain]? with
  | some handle => (true, {
      states := s.states.modify handle DomainState.retire
      handles := s.handles.erase domain })
  | none => (false, s)

def clear (s : SharedStore) : SharedStore where
  states := (s.handles.toList.map Prod.snd).foldl (·.modify · DomainState.retire) s.states

def domains (s : SharedStore) : List String :=
  s.handles.keys.mergeSort fun a b => a ≤ b

def contains (s : SharedStore) (domain : String) : Bool :=
  s.handles.contains domain

def size (s : SharedStore) : Nat :=
  s.handles.size

def isEmpty (s : SharedStore) : Bool :=
  s.size == 0

/-- The state of a domain, unless it is retired. -/
def state? (s : SharedStore) (domain : String) : Option DomainState :=
  (s.handles[domain]?.bind (s.states[·]?)).filter (!·.retired)

def summary? (s : SharedStore) (domain : String) : Option StoredSummary :=
  (s.state? domain).map (·.summary)

/-- The summaries of all domains, sorted by the domains that they name. -/
def summaries (s : SharedStore) : List StoredSummary :=
  let states := (s.handles.toList.map Prod.snd).filterMap (s.states[·]?)
  ((states.filter (!·.retired)).map (·.summary)).mergeSort fun a b => a.domain ≤ b.domain

def entries (s : SharedStore) (domain : String) (limit : Option Nat) : List ReportEntry :=
  let listed := ((s.state? domain).map DomainState.listing).getD []
  let kept := match limit with
    | some n => listed.take n
    | none => listed
  kept.map ReportEntry.ofReport

def report? (s : SharedStore) (domain reportId : String) : Option Report :=
  (s.state? domain).bind (·.find? reportId)

def sources (s : SharedStore) (domain : String) : List SourceStat :=
  ((s.state? domain).map DomainState.breakdown).getD []

def overview (s : SharedStore) : StoredOverview :=
  .ofSummaries s.summaries

end SharedStore

/-- How far an adder is: without a handle, with one, without hope of one, or done. -/
inductive Phase where
  | looking
  | holding (handle : Nat)
  | creating
  | done

/-- A worker that adds a report. -/
structure Adder where
  report : Report
  phase : Phase := .looking

/-- The next step of an adder; the step that files the report tells whether that made its domain
known. -/
def Adder.step (a : Adder) (s : SharedStore) : Option Bool × Phase × SharedStore :=
  match a.phase with
  | .looking =>
    match s.handles[a.report.filedUnder]? with
    | some handle => (none, .holding handle, s)
    | none => (none, .creating, s)
  | .holding handle =>
    match s.commit? handle a.report with
    | some s => (some false, .done, s)
    | none => (none, .looking, s)
  | .creating =>
    let (created, s) := s.create a.report
    (some created, .done, s)
  | .done => (none, .done, s)

/-- A store with the adders that are at work on it. -/
structure Traffic where
  store : SharedStore := {}
  adders : List Adder

namespace Traffic

/-- What happens next: an adder takes a step, or somebody forgets a domain or all of them. -/
inductive Event where
  | move (adder : Nat)
  | delete (domain : String)
  | clear

/-- What an event changes for good, with the answer to it. -/
def step (t : Traffic) : Event → Option (Store.Change × Bool) × Traffic
  | .move n =>
    match t.adders[n]? with
    | some a =>
      let (created?, phase, store) := a.step t.store
      (created?.map ((.add a.report, ·)), ⟨store, t.adders.set n { a with phase }⟩)
    | none => (none, t)
  | .delete domain =>
    let (known, store) := t.store.delete domain
    (some (.delete domain, known), { t with store })
  | .clear => (some (.clear, true), { t with store := t.store.clear })

def run : Traffic → List Event → List (Store.Change × Bool) × Traffic
  | t, [] => ([], t)
  | t, e :: es =>
    let (change?, t) := t.step e
    let (changes, t) := run t es
    (change?.toList ++ changes, t)

end Traffic

end DmarcReports
