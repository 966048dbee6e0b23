import DmarcReports.Proofs.Store.Membership
import DmarcReports.Proofs.Store.Sources

/-!
The views of a domain agree.

A ledger keeps its counts three times: in the running tally, in the entries of the breakdown, and in
the reports themselves. Main statement: `viewsAgree_run`.
-/

set_option autoImplicit false
set_option relaxedAutoImplicit false

namespace DmarcReports

namespace Ledger

/-- That all parts of a ledger stand at the same counts. -/
structure Balanced (l : Ledger) : Prop where
  total : Count.satSum (l.reports.map fun r => r.tally.total) = l.tally.total
  passed : Count.satSum (l.reports.map fun r => r.tally.passed) = l.tally.passed
  volume : volume l.sources = l.tally.total
  processed : l.reports.length = l.processed

private theorem balanced_blank (policy : Policy) : Balanced { policy } where
  total := rfl
  passed := rfl
  volume := rfl
  processed := rfl

theorem Balanced.file {l : Ledger} (h : l.Balanced) (r : Report) : (l.file r).Balanced where
  total := by
    have hstep : (l.file r).tally.total = Count.satAdd l.tally.total r.tally.total := rfl
    rw [hstep, Count.satAdd_comm, ← h.total, ← Count.satSum_cons]
    rfl
  passed := by
    have hstep : (l.file r).tally.passed = Count.satAdd l.tally.passed r.tally.passed := rfl
    rw [hstep, Count.satAdd_comm, ← h.passed, ← Count.satSum_cons]
    rfl
  volume := by
    have hstep : (l.file r).sources = r.records.foldl countSource l.sources := rfl
    rw [hstep, volume_foldl_countSource, h.volume, ← r.total_tally]
    rfl
  processed := congrArg (· + 1) h.processed

theorem Balanced.foldl {l : Ledger} (h : l.Balanced) (rs : List Report) :
    (rs.foldl Ledger.file l).Balanced := by
  induction rs generalizing l with
  | nil => exact h
  | cons r rs ih => exact ih (h.file r)

private theorem balanced_of_ofHistory? {hs : List Report} {l : Ledger}
    (h : ofHistory? hs = some l) :
    l.Balanced := by
  cases hs with
  | nil => cases h
  | cons r rs =>
    obtain rfl := Option.some.inj h
    exact ((balanced_blank r.policy).file r).foldl rs

end Ledger

namespace Store

/-- That the listing and the sources of a domain add up to what its summary says. -/
structure ViewsAgree (s : Store) (domain : String) (m : DomainSummary) : Prop where
  entriesTotal : Count.satSum ((s.entries domain none).map fun e => e.tally.total) = m.tally.total
  entriesPassed :
    Count.satSum ((s.entries domain none).map fun e => e.tally.passed) = m.tally.passed
  sourcesTotal : Count.satSum ((s.sources domain).map fun v => v.count) = m.tally.total
  entriesLength : (s.entries domain none).length = m.reportsProcessed

private theorem entries_of_ledger {s : Store} {domain : String} {l : Ledger}
    (h : s.ledgers[domain]? = some l) :
    s.entries domain none = l.listing.map ReportEntry.ofReport := by
  rw [entries, reports, h]
  rfl

private theorem sources_of_ledger {s : Store} {domain : String} {l : Ledger}
    (h : s.ledgers[domain]? = some l) : s.sources domain = l.breakdown := by
  rw [sources, h]
  rfl

private theorem viewsAgree_of_balanced {s : Store} {domain : String} {l : Ledger}
    (h : s.ledgers[domain]? = some l) (hl : l.Balanced) :
    s.ViewsAgree domain (l.summary domain) := by
  -- Both lists are sorted for the answer, which moves terms of a saturating sum and no more.
  have hlisting : l.listing.Perm l.reports := List.mergeSort_perm _ _
  have hbreakdown : l.breakdown.Perm l.sources.values := List.mergeSort_perm _ _
  refine ⟨?_, ?_, ?_, ?_⟩
  · rw [entries_of_ledger h, List.map_map, Count.satSum_eq_of_perm (hlisting.map _)]
    exact hl.total
  · rw [entries_of_ledger h, List.map_map, Count.satSum_eq_of_perm (hlisting.map _)]
    exact hl.passed
  · rw [sources_of_ledger h, Count.satSum_eq_of_perm (hbreakdown.map _)]
    exact hl.volume
  · rw [entries_of_ledger h, List.length_map, hlisting.length_eq]
    exact hl.processed

/-- After any changes the views of every domain that is known agree, saturated or not. -/
theorem viewsAgree_run (cs : List Change) (domain : String)
    (hknown : (run cs).contains domain = true) :
    ∃ m, (run cs).summary? domain = some m ∧ (run cs).ViewsAgree domain m := by
  obtain ⟨l, hl⟩ := (contains_iff (run cs) domain).mp hknown
  have hhistory : Ledger.ofHistory? (history domain cs) = some l := by rw [← ledgers_run, hl]
  refine ⟨l.summary domain, ?_, viewsAgree_of_balanced hl (Ledger.balanced_of_ofHistory? hhistory)⟩
  rw [summary?, hl]
  rfl

/-- Two sources of a domain, each with as many messages as a count can say. The reports that count
are the second one and the third. -/
theorem viewsAgree_two_full_sources :
    let records : List Record := [
      { sourceIp := "192.0.2.1", count := Count.top, spfResult := passResult },
      { sourceIp := "192.0.2.2", count := Count.top }]
    let r : Report := .new {} { domain := "b.example" } records
    let cs := [Change.add r, .delete "b.example", .add r, .add r]
    let m : DomainSummary := ⟨"b.example", ⟨Count.top, Count.top⟩, 2, { domain := "b.example" }⟩
    (run cs).contains "b.example" = true ∧
      (run cs).summary? "b.example" = some m ∧ (run cs).ViewsAgree "b.example" m ∧
      ((run cs).sources "b.example").map (fun v => (v.sourceIp, v.count)) =
        [("192.0.2.1", Count.top), ("192.0.2.2", Count.top)] ∧
      ((run cs).entries "b.example" none).map ReportEntry.tally =
        [⟨Count.top, Count.top⟩, ⟨Count.top, Count.top⟩] := by
  intro records r cs m
  have hknown : (run cs).contains "b.example" = true := by decide
  have hsummary : (run cs).summary? "b.example" = some m := by decide
  have hledger : (run cs).ledgers["b.example"]? = some ((Ledger.start r).file r) := by
    have hhistory : history "b.example" cs = [r, r] := by decide
    rw [ledgers_run, hhistory]
    rfl
  have hsources : ((Ledger.start r).file r).breakdown = ((Ledger.start r).file r).sources.values :=
    List.mergeSort_of_pairwise (by decide)
  have hlisting : ((Ledger.start r).file r).listing = [r, r] :=
    List.mergeSort_of_pairwise (by decide)
  obtain ⟨m', hm', hagree⟩ := viewsAgree_run cs "b.example" hknown
  obtain rfl := Option.some.inj (hsummary.symm.trans hm')
  refine ⟨hknown, hsummary, hagree, ?_, ?_⟩
  · rw [sources_of_ledger hledger, hsources]
    decide
  · rw [entries_of_ledger hledger, hlisting]
    decide

end Store

end DmarcReports
