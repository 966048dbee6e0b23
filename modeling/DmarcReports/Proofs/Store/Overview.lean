import DmarcReports.Proofs.Store.Membership
import DmarcReports.Proofs.Store.Totals

/-!
The totals of a store.

The sums over records, reports and domains saturate at the same largest count, so they come to one
saturating sum over the records of all reports that the store holds. Main statement: `overview_run_addsUp`.
-/

set_option autoImplicit false
set_option relaxedAutoImplicit false

namespace DmarcReports

/-- Grouping by keys that are all known loses no element and shows none twice. -/
private theorem flatMap_filter_perm {α β : Type} [DecidableEq β] (key : α → β) {ks : List β}
    (hks : ks.Nodup) {as : List α} (has : ∀ a ∈ as, key a ∈ ks) :
    (ks.flatMap fun k => as.filter fun a => key a = k).Perm as := by
  induction ks generalizing as with
  | nil =>
    have hnil : as = [] := List.eq_nil_iff_forall_not_mem.mpr fun a ha => nomatch has a ha
    rw [hnil]
    exact List.Perm.refl _
  | cons k ks ih =>
    obtain ⟨hk, hks⟩ := List.nodup_cons.mp hks
    -- The groups of the other keys are groups of the elements that do not have this key.
    let rest := as.filter fun a => !decide (key a = k)
    have hrest : (ks.flatMap fun k' => rest.filter fun a => key a = k').Perm rest := by
      apply ih hks
      intro a ha
      obtain ⟨hmem, hne⟩ := List.mem_filter.mp ha
      exact (List.mem_cons.mp (has a hmem)).resolve_left (by simpa using hne)
    have hgroups : ∀ k' ∈ ks, as.filter (fun a => key a = k') =
        rest.filter fun a => key a = k' := by
      intro k' hk'
      have hne : k' ≠ k := fun heq => hk (heq ▸ hk')
      rw [List.filter_filter]
      apply List.filter_congr
      intro a _
      by_cases ha : key a = k'
      · simp [ha, hne]
      · simp [ha]
    rw [List.flatMap_cons, List.flatMap_congr hgroups]
    exact (hrest.append_left _).trans (List.filter_append_perm _ as)

namespace Tally

private theorem ofRecords_eq_of_perm {rs rs' : List Record} (h : rs.Perm rs') :
    ofRecords rs = ofRecords rs' := by
  rw [ofRecords, ofRecords, Count.satSum_eq_of_perm (h.map _),
    Count.satSum_eq_of_perm ((h.filter _).map _)]

private theorem foldl_add_ofRecords (rss : List (List Record)) (rs : List Record) :
    (rss.map ofRecords).foldl add (ofRecords rs) = ofRecords (rs ++ rss.flatten) := by
  induction rss generalizing rs with
  | nil => simp
  | cons first rss ih =>
    rw [List.map_cons, List.foldl_cons, ← ofRecords_append, ih, List.flatten_cons,
      List.append_assoc]

end Tally

namespace Store

def keep (rs : List Report) : Change → List Report
  | .add r => rs ++ [r]
  | .delete domain => rs.filter fun r => r.filedUnder ≠ domain
  | .clear => []

/-- The reports of all domains that were filed and not forgotten since, in the order of filing. -/
def live (cs : List Change) : List Report :=
  cs.foldl keep []

private theorem live_concat (cs : List Change) (c : Change) :
    live (cs ++ [c]) = keep (live cs) c := by
  simp only [live, List.foldl_append, List.foldl_cons, List.foldl_nil]

private theorem filter_live (cs : List Change) (domain : String) :
    (live cs).filter (fun r => r.filedUnder = domain) = history domain cs := by
  induction cs using List.reverseRecOn with
  | nil => rfl
  | append_singleton cs c ih =>
    rw [live_concat, history_concat, ← ih]
    cases c with
    | add r =>
      by_cases hr : r.filedUnder = domain
      · simp [keep, Change.forgets, Change.filed?, hr]
      · simp [keep, Change.forgets, Change.filed?, hr]
    | delete d =>
      rw [keep, List.filter_filter]
      by_cases hd : d = domain
      · subst hd
        simp [Change.forgets]
      · -- What is forgotten is none of the share of this domain.
        have hkept : ∀ r : Report, r.filedUnder = domain → r.filedUnder ≠ d :=
          fun r hr hrd => hd (hrd.symm.trans hr)
        simp only [Change.forgets, Change.filed?, beq_iff_eq, hd, if_false, Option.toList_none,
          List.append_nil]
        apply List.filter_congr
        intro r _
        simpa using hkept r
    | clear => rfl

/-- The histories of the known domains together are the live reports. -/
private theorem flatMap_history_perm (cs : List Change) :
    ((run cs).domains.flatMap fun domain => history domain cs).Perm (live cs) := by
  have hknown : ∀ r ∈ live cs, r.filedUnder ∈ (run cs).domains := by
    intro r hr
    rw [mem_domains_iff, contains_run_iff, ← filter_live]
    exact List.ne_nil_of_mem (List.mem_filter.mpr ⟨hr, decide_eq_true rfl⟩)
  have hdistinct : (run cs).domains.Nodup := Std.TreeMap.nodup_keys
  simpa only [filter_live] using flatMap_filter_perm Report.filedUnder hdistinct hknown

private theorem summary_of_mem_summaries {cs : List Change} {m : DomainSummary}
    (h : m ∈ (run cs).summaries) :
    m.tally = Tally.ofRecords (Report.allRecords (history m.domain cs)) ∧
      m.reportsProcessed = (history m.domain cs).length := by
  rw [mem_summaries_iff, summary?_run, Option.map_eq_some_iff] at h
  obtain ⟨l, hl, hm⟩ := h
  have haccount := Ledger.keepsAccount_of_ofHistory? hl
  rw [← hm]
  exact ⟨haccount.tally, haccount.processed⟩

private theorem tally_overview_run (cs : List Change) :
    (run cs).overview.tally = Tally.ofRecords (Report.allRecords (live cs)) := by
  have htallies : (run cs).summaries.map DomainSummary.tally =
      ((run cs).domains.map fun domain => Report.allRecords (history domain cs)).map
        Tally.ofRecords := by
    rw [← map_domain_summaries, List.map_map, List.map_map]
    exact List.map_congr_left fun m hm => (summary_of_mem_summaries hm).1
  calc (run cs).overview.tally
      = ((run cs).summaries.map DomainSummary.tally).foldl Tally.add (Tally.ofRecords []) := rfl
    _ = Tally.ofRecords (Report.allRecords
          ((run cs).domains.flatMap fun domain => history domain cs)) := by
        rw [htallies, Tally.foldl_add_ofRecords, List.nil_append, ← List.flatMap_def,
          Report.allRecords, List.flatMap_assoc]
        rfl
    _ = Tally.ofRecords (Report.allRecords (live cs)) :=
        Tally.ofRecords_eq_of_perm ((flatMap_history_perm cs).flatMap_right Report.records)

private theorem processed_overview_run (cs : List Change) :
    (run cs).overview.reportsProcessed = (live cs).length := by
  have hcounts : (run cs).summaries.map DomainSummary.reportsProcessed =
      (run cs).domains.map fun domain => (history domain cs).length := by
    rw [← map_domain_summaries, List.map_map]
    exact List.map_congr_left fun m hm => (summary_of_mem_summaries hm).2
  calc (run cs).overview.reportsProcessed
      = ((run cs).summaries.map DomainSummary.reportsProcessed).sum := by
        rw [List.sum, List.foldr_map]
        rfl
    _ = ((run cs).domains.flatMap fun domain => history domain cs).length := by
        rw [hcounts, List.length_flatMap]
    _ = (live cs).length := (flatMap_history_perm cs).length_eq

end Store

/-- That an overview tells what these reports add up to. -/
structure Overview.AddsUp (o : Overview) (rs : List Report) : Prop where
  tally : o.tally.Counts (Report.allRecords rs)
  processed : o.reportsProcessed = rs.length
  rate : o.tally.complianceRate = Rate.round1 (Rate.percentage o.tally.passed o.tally.total)

namespace Store

/-- After any changes the overview adds up the reports that are live. Stores whose live reports
hold the same records, in whatever order and under whatever domains, have the same totals. -/
theorem overview_run_addsUp (cs : List Change) :
    (run cs).overview.AddsUp (live cs) ∧
      ∀ cs' : List Change, ((live cs).map Report.records).Perm ((live cs').map Report.records) →
        (run cs).overview.tally = (run cs').overview.tally ∧
          (run cs).overview.reportsProcessed = (run cs').overview.reportsProcessed := by
  constructor
  · refine ⟨?_, processed_overview_run cs, rfl⟩
    rw [tally_overview_run]
    exact Tally.counts_ofRecords _
  · intro cs' hperm
    rw [tally_overview_run, tally_overview_run, processed_overview_run, processed_overview_run]
    constructor
    · apply Tally.ofRecords_eq_of_perm
      rw [Report.allRecords, Report.allRecords, List.flatMap_def, List.flatMap_def]
      exact hperm.flatten
    · simpa only [List.length_map] using hperm.length_eq

/-- A full count and five more, filed under two domains and under none. -/
theorem overview_run_addsUp_two_domains :
    let full : List Record := [{ count := Count.top, spfResult := passResult }]
    let few : List Record := [{ count := 5 }]
    let cs := [
      Change.add (.new {} { domain := "a.example" } full),
      .add (.new {} { domain := "b.example" } few)]
    let cs' := [
      Change.add (.new {} { domain := "a.example" } few), .add (.new {} { domain := "" } few),
      .delete "a.example", .add (.new {} { domain := "" } full)]
    ((live cs).map Report.records).Perm ((live cs').map Report.records) ∧
      (run cs).overview.AddsUp (live cs) ∧
      (run cs).overview.tally = (run cs').overview.tally ∧
      (run cs).overview.reportsProcessed = (run cs').overview.reportsProcessed := by
  intro full few cs cs'
  have hperm : ((live cs).map Report.records).Perm ((live cs').map Report.records) := by decide
  obtain ⟨haddsUp, hsame⟩ := overview_run_addsUp cs
  exact ⟨hperm, haddsUp, hsame cs' hperm⟩

end Store

end DmarcReports
