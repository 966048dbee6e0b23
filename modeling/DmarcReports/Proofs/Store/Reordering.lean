import Mathlib.Data.Finset.Card
import DmarcReports.Proofs.Store.Alike
import DmarcReports.Proofs.Store.Membership

/-!
Reports filed in another order.

Main statement: `sameAnswers_addAll_of_perm`.
-/

set_option autoImplicit false
set_option relaxedAutoImplicit false

namespace DmarcReports

namespace SourceStat

/-- The order of the breakdown, by address and volume alone. -/
def ShareBefore (x y : String × UInt64) : Prop :=
  y.2 < x.2 ∨ (x.2 = y.2 ∧ x.1 ≤ y.1)

private theorem listedBefore_iff (a b : SourceStat) :
    listedBefore a b = true ↔ ShareBefore a.share b.share := by
  simp only [listedBefore, ShareBefore, share, Bool.or_eq_true, Bool.and_eq_true, decide_eq_true_eq,
    beq_iff_eq]

theorem ShareBefore.trans {x y z : String × UInt64} (h : ShareBefore x y) (k : ShareBefore y z) :
    ShareBefore x z := by
  rcases h with hxy | ⟨hxy, hip⟩
  · rcases k with hyz | ⟨hyz, _⟩
    · exact Or.inl (UInt64.lt_trans hyz hxy)
    · exact Or.inl (hyz ▸ hxy)
  · rcases k with hyz | ⟨hyz, hip'⟩
    · exact Or.inl (hxy ▸ hyz)
    · exact Or.inr ⟨hxy.trans hyz, String.le_trans hip hip'⟩

private theorem shareBefore_total (x y : String × UInt64) : ShareBefore x y ∨ ShareBefore y x := by
  by_cases heq : x.2 = y.2
  · rcases String.le_total x.1 y.1 with hip | hip
    · exact Or.inl (Or.inr ⟨heq, hip⟩)
    · exact Or.inr (Or.inr ⟨heq.symm, hip⟩)
  · rcases UInt64.lt_or_lt_of_ne heq with hlt | hlt
    · exact Or.inr (Or.inl hlt)
    · exact Or.inl (Or.inl hlt)

theorem ShareBefore.antisymm {x y : String × UInt64} (h : ShareBefore x y) (k : ShareBefore y x) :
    x = y := by
  rcases h with hxy | ⟨hxy, hip⟩
  · rcases k with hyx | ⟨hyx, _⟩
    · exact absurd hxy (UInt64.lt_asymm hyx)
    · exact absurd (hyx ▸ hxy) (UInt64.lt_irrefl _)
  · rcases k with hyx | ⟨_, hip'⟩
    · exact absurd (hxy ▸ hyx) (UInt64.lt_irrefl _)
    · exact Prod.ext (String.le_antisymm hip hip') hxy

theorem pairwise_mergeSort (vs : List SourceStat) :
    (vs.mergeSort listedBefore).Pairwise fun a b => ShareBefore a.share b.share := by
  have hsorted : (vs.mergeSort listedBefore).Pairwise fun a b => listedBefore a b = true := by
    apply List.pairwise_mergeSort
    · intro a b c hab hbc
      rw [listedBefore_iff] at hab hbc ⊢
      exact hab.trans hbc
    · intro a b
      rw [Bool.or_eq_true, listedBefore_iff, listedBefore_iff]
      exact shareBefore_total a.share b.share
  exact hsorted.imp fun {a b} h => (listedBefore_iff a b).mp h

end SourceStat

namespace Ledger

open SourceStat (share ShareBefore)

private theorem pairwise_breakdown (l : Ledger) : (l.breakdown.map share).Pairwise ShareBefore := by
  rw [List.pairwise_map]
  exact SourceStat.pairwise_mergeSort l.sources.values

private theorem map_share_values (m : Std.TreeMap String SourceStat) :
    m.values.map share = (m.map fun _ v => v.share).toList.map Prod.snd := by
  rw [values_eq_map_toList, Std.TreeMap.toList_map, List.map_map, List.map_map]
  rfl

private theorem SameShares.map_values_eq {m n : Std.TreeMap String SourceStat}
    (h : SameShares m n) :
    m.values.map share = n.values.map share := by
  have hequiv : (m.map fun _ v => v.share).toList = (n.map fun _ v => v.share).toList := by
    apply Std.TreeMap.Equiv.toList_eq
    apply Std.TreeMap.Equiv.of_forall_constGet?_eq
    intro ip
    rw [Std.TreeMap.getElem?_map, Std.TreeMap.getElem?_map]
    exact h ip
  rw [map_share_values, map_share_values, hequiv]

/-- The breakdown is in the order of address and volume, so the same shares stand in the same
places. -/
theorem Alike.breakdown_eq {l k : Ledger} (h : l.Alike k) :
    l.breakdown.map share = k.breakdown.map share := by
  have hvalues : (l.breakdown.map share).Perm (k.breakdown.map share) := by
    calc (l.breakdown.map share).Perm (l.sources.values.map share) :=
          (List.mergeSort_perm _ _).map share
      _ = k.sources.values.map share := h.sources.map_values_eq
      List.Perm _ (k.breakdown.map share) := ((List.mergeSort_perm _ _).map share).symm
  exact hvalues.eq_of_pairwise (fun _ _ _ _ hxy hyx => hxy.antisymm hyx) (pairwise_breakdown l)
    (pairwise_breakdown k)

theorem endsNoEarlier_trans (a b c : Report) (hab : endsNoEarlier a b = true)
    (hbc : endsNoEarlier b c = true) : endsNoEarlier a c = true := by
  simp only [endsNoEarlier, decide_eq_true_eq] at hab hbc ⊢
  exact Int64.le_trans hbc hab

theorem endsNoEarlier_total (a b : Report) : (endsNoEarlier a b || endsNoEarlier b a) = true := by
  simp only [endsNoEarlier, Bool.or_eq_true, decide_eq_true_eq]
  exact Int64.le_total _ _

private theorem pairwise_listing (l : Ledger) :
    l.listing.Pairwise fun a b => b.metadata.endTime ≤ a.metadata.endTime := by
  have hsorted : l.listing.Pairwise fun a b => endsNoEarlier a b = true :=
    List.pairwise_mergeSort endsNoEarlier_trans endsNoEarlier_total l.reports
  exact hsorted.imp fun h => of_decide_eq_true h

private theorem Alike.listing_perm {l k : Ledger} (h : l.Alike k) : l.listing.Perm k.listing :=
  (List.mergeSort_perm _ _).trans (h.reports.trans (List.mergeSort_perm _ _).symm)

private theorem Alike.endTimes_eq {l k : Ledger} (h : l.Alike k) :
    l.listing.map (fun r => r.metadata.endTime) = k.listing.map (fun r => r.metadata.endTime) := by
  have hsorted (l : Ledger) :
      (l.listing.map fun r => r.metadata.endTime).Pairwise fun a b => b ≤ a := by
    rw [List.pairwise_map]
    exact pairwise_listing l
  exact (h.listing_perm.map _).eq_of_pairwise (fun _ _ _ _ hab hba => Int64.le_antisymm hba hab)
    (hsorted l) (hsorted k)

theorem Alike.listing_eq {l k : Ledger} (h : l.Alike k)
    (hends : (l.listing.map fun r => r.metadata.endTime).Nodup) : l.listing = k.listing := by
  apply h.listing_perm.eq_of_pairwise _ (pairwise_listing l) (pairwise_listing k)
  intro a b ha hb hab hba
  have hmem : b ∈ l.listing := h.listing_perm.mem_iff.mpr hb
  exact List.inj_on_of_nodup_map hends ha hmem (Int64.le_antisymm hba hab)

end Ledger

/-- What a summary says of the reports, apart from the policy in force. -/
def DomainSummary.figures (m : DomainSummary) : UInt64 × UInt64 × UInt64 × Nat × Float :=
  (m.tally.total, m.tally.passed, m.tally.failed, m.reportsProcessed, m.tally.complianceRate)

def Overview.totals (o : Overview) : Nat × UInt64 × UInt64 × Float × Nat :=
  (o.domains.length, o.tally.total, o.tally.passed, o.tally.complianceRate, o.reportsProcessed)

namespace Store

open SourceStat (share)

/-- That two stores give the same answers, apart from what the last report of a domain decides and
from the order of reports that end at the same time. -/
structure SameAnswers (s t : Store) : Prop where
  domains : s.domains = t.domains
  summary : ∀ domain,
    (s.summary? domain).map DomainSummary.figures = (t.summary? domain).map DomainSummary.figures
  sources : ∀ domain, (s.sources domain).map share = (t.sources domain).map share
  overview : s.overview.totals = t.overview.totals
  entries : ∀ domain, (s.entries domain none).Perm (t.entries domain none)
  endTimes : ∀ domain,
    (s.entries domain none).map (·.endTime) = (t.entries domain none).map (·.endTime)
  entriesApart : ∀ domain, ((s.entries domain none).map (·.endTime)).Nodup →
    ∀ limit, s.entries domain limit = t.entries domain limit

def counts (s : Store) : List (String × Tally × Nat) :=
  s.ledgers.toList.map fun x => (x.1, x.2.tally, x.2.processed)

private theorem domains_eq_counts (s : Store) : s.domains = s.counts.map Prod.fst := by
  rw [domains, counts, List.map_map, ← Std.TreeMap.map_fst_toList_eq_keys]
  rfl

private theorem overview_totals_eq_counts (s : Store) :
    s.overview.totals =
      Overview.totals (Overview.ofSummaries (s.counts.map fun x =>
        ⟨x.1, x.2.1, x.2.2, { domain := x.1 }⟩)) := by
  simp only [overview, summaries, counts, Overview.totals, Overview.ofSummaries, List.length_map,
    List.map_map, List.foldr_map]
  rfl

theorem Alike.known {s t : Store} (h : s.Alike t) (domain : String) :
    (s.ledgers[domain]? = none ∧ t.ledgers[domain]? = none) ∨
      ∃ l k, s.ledgers[domain]? = some l ∧ t.ledgers[domain]? = some k ∧ l.Alike k := by
  have hrel := h domain
  generalize s.ledgers[domain]? = known at hrel
  generalize t.ledgers[domain]? = known' at hrel
  cases hrel with
  | none => exact Or.inl ⟨rfl, rfl⟩
  | some hl => exact Or.inr ⟨_, _, rfl, rfl, hl⟩

private theorem Alike.counts_eq {s t : Store} (h : s.Alike t) : s.counts = t.counts := by
  have hlist (s : Store) :
      s.counts = (s.ledgers.map fun _ l => (l.tally, l.processed)).toList := by
    rw [Std.TreeMap.toList_map]
    rfl
  rw [hlist, hlist]
  apply Std.TreeMap.Equiv.toList_eq
  apply Std.TreeMap.Equiv.of_forall_constGet?_eq
  intro domain
  rw [Std.TreeMap.getElem?_map, Std.TreeMap.getElem?_map]
  rcases h.known domain with ⟨hs, ht⟩ | ⟨l, k, hs, ht, hlk⟩
  · rw [hs, ht]
  · rw [hs, ht, Option.map_some, Option.map_some, hlk.tally, hlk.processed]

private theorem Alike.sameAnswers {s t : Store} (h : s.Alike t) : s.SameAnswers t where
  domains := by rw [domains_eq_counts, domains_eq_counts, h.counts_eq]
  summary domain := by
    unfold summary?
    rcases h.known domain with ⟨hs, ht⟩ | ⟨l, k, hs, ht, hlk⟩
    · rw [hs, ht]
    · simp only [hs, ht, Option.map_some, DomainSummary.figures, Ledger.summary, hlk.tally,
        hlk.processed]
  sources domain := by
    unfold sources
    rcases h.known domain with ⟨hs, ht⟩ | ⟨l, k, hs, ht, hlk⟩
    · rw [hs, ht]
    · rw [hs, ht]
      exact hlk.breakdown_eq
  overview := by rw [overview_totals_eq_counts, overview_totals_eq_counts, h.counts_eq]
  entries domain := by
    unfold entries reports
    rcases h.known domain with ⟨hs, ht⟩ | ⟨l, k, hs, ht, hlk⟩
    · rw [hs, ht]
    · rw [hs, ht]
      exact hlk.listing_perm.map _
  endTimes domain := by
    unfold entries reports
    rcases h.known domain with ⟨hs, ht⟩ | ⟨l, k, hs, ht, hlk⟩
    · rw [hs, ht]
    · rw [hs, ht, List.map_map, List.map_map]
      exact hlk.endTimes_eq
  entriesApart domain := by
    unfold entries reports
    rcases h.known domain with ⟨hs, ht⟩ | ⟨l, k, hs, ht, hlk⟩
    · rw [hs, ht]
      exact fun _ _ => rfl
    · rw [hs, ht, List.map_map]
      intro hends limit
      simp only [Option.map_some, Option.getD_some, hlk.listing_eq hends]

/-- The domains of reports that a store does not know yet. -/
def newDomains (s : Store) (rs : List Report) : Finset String :=
  (rs.map Report.filedUnder).toFinset.filter fun domain => s.contains domain = false

private theorem newDomains_eq_of_perm (s : Store) {rs rs' : List Report} (h : rs.Perm rs') :
    s.newDomains rs = s.newDomains rs' := by
  rw [newDomains, newDomains, List.toFinset_eq_of_perm _ _ (h.map _)]

/-- The next report makes its own domain known, if it is new, and no other. -/
private theorem card_newDomains_cons (s : Store) (r : Report) (rs : List Report) :
    (s.newDomains (r :: rs)).card =
      (s.add r).1.toNat + ((s.add r).2.newDomains rs).card := by
  rw [add_fst]
  -- A domain that is known already is in neither set, and a new one in the first alone.
  cases hknown : s.contains r.filedUnder with
  | true =>
    have hsame : s.newDomains (r :: rs) = (s.add r).2.newDomains rs := by
      ext domain
      simp only [newDomains, List.map_cons, List.toFinset_cons, Finset.mem_filter,
        Finset.mem_insert, contains_add]
      by_cases hd : r.filedUnder = domain
      · simp [← hd, hknown]
      · simp [hd, Ne.symm hd]
    rw [hsame, Bool.not_true, Bool.toNat_false, Nat.zero_add]
  | false =>
    have hinsert : s.newDomains (r :: rs) = insert r.filedUnder ((s.add r).2.newDomains rs) := by
      ext domain
      simp only [newDomains, List.map_cons, List.toFinset_cons, Finset.mem_filter,
        Finset.mem_insert, contains_add]
      by_cases hd : r.filedUnder = domain
      · simp [← hd, hknown]
      · simp [hd, Ne.symm hd]
    have hfresh : r.filedUnder ∉ (s.add r).2.newDomains rs := by
      simp [newDomains, contains_add]
    rw [hinsert, Finset.card_insert_of_notMem hfresh, Bool.not_false, Bool.toNat_true, Nat.add_comm]

private theorem count_addAll (s : Store) (rs : List Report) :
    (s.addAll rs).1.count true = (s.newDomains rs).card := by
  induction rs generalizing s with
  | nil => rfl
  | cons r rs ih =>
    rw [card_newDomains_cons, addAll_cons, List.count_cons, ih, Nat.add_comm]
    cases (s.add r).1 <;> rfl

/-- From any store, reports filed in any order make as many domains known, as many as there are new
ones among theirs, and lead to the same answers. -/
theorem sameAnswers_addAll_of_perm (s : Store) {rs rs' : List Report} (h : rs.Perm rs') :
    (s.addAll rs).1.count true = (s.newDomains rs).card ∧
      (s.addAll rs').1.count true = (s.newDomains rs).card ∧
      (s.addAll rs).2.SameAnswers (s.addAll rs').2 := by
  refine ⟨count_addAll s rs, ?_, (alike_addAll_of_perm s h).sameAnswers⟩
  rw [count_addAll, newDomains_eq_of_perm s h]

private theorem answers_of_one_source {s : Store} {domain : String} {v : SourceStat}
    {rs : List Report}
    (h : s.ledgers[domain]?.map (fun l => (l.sources.values, l.reports)) = some ([v], rs))
    (hends : rs.Pairwise fun a b => Ledger.endsNoEarlier a b = true) :
    s.sources domain = [v] ∧ s.entries domain none = rs.map ReportEntry.ofReport := by
  obtain ⟨l, hl, hkept⟩ := Option.map_eq_some_iff.mp h
  obtain ⟨hvalues, rfl⟩ := Prod.mk.inj hkept
  have hbreakdown : l.breakdown = [v] := by
    rw [Ledger.breakdown, hvalues, List.mergeSort_singleton]
  have hlisting : l.listing = l.reports := List.mergeSort_of_pairwise hends
  constructor
  · rw [sources, hl, Option.map_some, Option.getD_some, hbreakdown]
  · simp only [entries, reports, hl, Option.map_some, Option.getD_some, hlisting]

/-- A report that fills the total, one that ends with it and one of a new domain, from behind. Only
the order of the reports that end together and the results of the source tell the stores apart. -/
theorem sameAnswers_addAll_reverse_three :
    let full : Report :=
      .new { endTime := 7 } { domain := "b.example" }
        [{ sourceIp := "192.0.2.1", count := Count.top }]
    let tied : Report :=
      .new { endTime := 7 } { domain := "b.example", p := "reject" }
        [{ sourceIp := "192.0.2.1", count := 5, spfResult := passResult }]
    let other : Report := .new { endTime := 8 } { domain := "" } []
    let s := (empty.add full).2
    [full, tied, other].Perm [other, tied, full] ∧
      (s.addAll [full, tied, other]).1.count true = (s.newDomains [full, tied, other]).card ∧
      (s.addAll [other, tied, full]).1.count true = (s.newDomains [full, tied, other]).card ∧
      (s.addAll [full, tied, other]).2.SameAnswers (s.addAll [other, tied, full]).2 ∧
      (s.newDomains [full, tied, other]).card = 1 ∧
      ((s.addAll [full, tied, other]).2.summary? "b.example").map
          (fun m => (m.tally, m.reportsProcessed)) = some (⟨Count.top, 5⟩, 3) ∧
      (s.addAll [full, tied, other]).2.sources "b.example" =
        [⟨"192.0.2.1", Count.top, passResult, "", "none", true⟩] ∧
      (s.addAll [other, tied, full]).2.sources "b.example" =
        [⟨"192.0.2.1", Count.top, "", "", "none", false⟩] ∧
      (s.addAll [full, tied, other]).2.entries "b.example" none =
        [tied, full, full].map ReportEntry.ofReport ∧
      (s.addAll [other, tied, full]).2.entries "b.example" none =
        [full, tied, full].map ReportEntry.ofReport := by
  intro full tied other s
  have hperm : [full, tied, other].Perm [other, tied, full] := by decide
  obtain ⟨hforth, hback, hsame⟩ := sameAnswers_addAll_of_perm s hperm
  have hkept : (s.addAll [full, tied, other]).2.ledgers["b.example"]?.map
      (fun l => (l.sources.values, l.reports)) =
        some ([⟨"192.0.2.1", Count.top, passResult, "", "none", true⟩], [tied, full, full]) := by
    decide
  have hkept' : (s.addAll [other, tied, full]).2.ledgers["b.example"]?.map
      (fun l => (l.sources.values, l.reports)) =
        some ([⟨"192.0.2.1", Count.top, "", "", "none", false⟩], [full, tied, full]) := by
    decide
  obtain ⟨hsources, hentries⟩ := answers_of_one_source hkept (by decide)
  obtain ⟨hsources', hentries'⟩ := answers_of_one_source hkept' (by decide)
  exact ⟨hperm, hforth, hback, hsame, by decide, by decide, hsources, hsources', hentries,
    hentries'⟩

end Store

end DmarcReports
