import DmarcReports.Proofs.Store.Reordering
import DmarcReports.Proofs.Store.Totals

/-!
The order in which the reports of a domain are listed.

With its place in the history each report has one place in the listing, however often ends or whole
reports recur. Main statement: `entries_run_arranged`.
-/

set_option autoImplicit false
set_option relaxedAutoImplicit false

namespace DmarcReports

/-- Sorting keeps the order of elements that the sort does not tell apart. -/
private theorem filter_mergeSort_of_ties {α : Type} {le : α → α → Bool}
    (htrans : ∀ a b c, le a b = true → le b c = true → le a c = true)
    (htotal : ∀ a b, (le a b || le b a) = true) {tied : α → Bool}
    (hties : ∀ a b, tied a = true → tied b = true → le a b = true) (as : List α) :
    (as.mergeSort le).filter tied = as.filter tied := by
  have hordered : (as.filter tied).Pairwise fun a b => le a b = true :=
    List.pairwise_filter.mpr (List.pairwise_of_forall hties)
  have hkept : (as.filter tied).Sublist (as.mergeSort le) :=
    List.sublist_mergeSort htrans htotal hordered List.filter_sublist
  -- A sublist as long as the list itself is the whole of it.
  have hties_kept : (as.filter tied).Sublist ((as.mergeSort le).filter tied) := by
    simpa only [List.filter_filter, Bool.and_self] using hkept.filter tied
  have hlength := ((List.mergeSort_perm as le).filter tied).length_eq
  exact (hties_kept.eq_of_length hlength.symm).symm

namespace Report

/-- Whether one report of a history is listed in front of another, each with its place in the
history: it ends later, or it ends at the same time and was filed later. -/
def ListedBefore (x y : Report × Nat) : Prop :=
  y.1.metadata.endTime < x.1.metadata.endTime ∨
    (x.1.metadata.endTime = y.1.metadata.endTime ∧ y.2 < x.2)

/-- That these are the reports of a history, each with its place in it, in the order of the
listing. -/
structure Arranges (xs : List (Report × Nat)) (hs : List Report) : Prop where
  complete : xs.Perm hs.zipIdx
  ordered : xs.Pairwise ListedBefore

private theorem ListedBefore.asymm {x y : Report × Nat} (h : ListedBefore x y) :
    ¬ListedBefore y x := by
  rintro (hends | ⟨hends, hplace⟩)
  · rcases h with hends' | ⟨hends', -⟩
    · exact Int64.lt_asymm hends hends'
    · exact Int64.lt_irrefl (hends' ▸ hends)
  · rcases h with hends' | ⟨-, hplace'⟩
    · exact Int64.lt_irrefl (hends ▸ hends')
    · exact Nat.lt_asymm hplace hplace'

theorem Arranges.unique {xs ys : List (Report × Nat)} {hs : List Report} (hx : Arranges xs hs)
    (hy : Arranges ys hs) : xs = ys :=
  (hx.complete.trans hy.complete.symm).eq_of_pairwise
    (fun _ _ _ _ hxy hyx => absurd hyx hxy.asymm) hx.ordered hy.ordered

theorem Arranges.perm {xs : List (Report × Nat)} {hs : List Report} (h : Arranges xs hs) :
    (xs.map Prod.fst).Perm hs := by
  have hperm := h.complete.map Prod.fst
  rwa [List.zipIdx_map_fst] at hperm

def arranged (hs : List Report) : List (Report × Nat) :=
  hs.zipIdx.reverse.mergeSort fun x y => Ledger.endsNoEarlier x.1 y.1

private theorem map_fst_arranged (hs : List Report) :
    (arranged hs).map Prod.fst = hs.reverse.mergeSort Ledger.endsNoEarlier := by
  have hsort : (arranged hs).map Prod.fst =
      (hs.zipIdx.reverse.map Prod.fst).mergeSort Ledger.endsNoEarlier :=
    List.map_mergeSort fun _ _ _ _ => rfl
  rw [hsort, List.map_reverse, List.zipIdx_map_fst]

private theorem pairwise_reverse_zipIdx (hs : List Report) :
    hs.zipIdx.reverse.Pairwise fun x y => y.2 < x.2 := by
  rw [List.pairwise_reverse]
  have hplaces : (hs.zipIdx.map Prod.snd).Pairwise (· < ·) := by
    rw [List.zipIdx_map_snd]
    exact List.pairwise_lt_range' 1
  exact List.pairwise_map.mp hplaces

theorem arranges_arranged (hs : List Report) : Arranges (arranged hs) hs where
  complete := (List.mergeSort_perm _ _).trans (List.reverse_perm _)
  ordered := by
    have htrans (x y z : Report × Nat) := Ledger.endsNoEarlier_trans x.1 y.1 z.1
    have htotal (x y : Report × Nat) := Ledger.endsNoEarlier_total x.1 y.1
    have hsorted := List.pairwise_mergeSort htrans htotal hs.zipIdx.reverse
    rw [List.pairwise_iff_forall_sublist] at hsorted ⊢
    intro x y hxy
    have hends : y.1.metadata.endTime ≤ x.1.metadata.endTime := of_decide_eq_true (hsorted hxy)
    by_cases htie : x.1.metadata.endTime = y.1.metadata.endTime
    · -- Both are among the reports with this end, which stand as in the reversed history.
      let tied (z : Report × Nat) : Bool := z.1.metadata.endTime == x.1.metadata.endTime
      have hkept : (arranged hs).filter tied = hs.zipIdx.reverse.filter tied := by
        apply filter_mergeSort_of_ties htrans htotal
        intro a b ha hb
        simp only [tied, beq_iff_eq] at ha hb
        simp [Ledger.endsNoEarlier, ha, hb]
      have htied : [x, y].Sublist ((arranged hs).filter tied) := by
        simpa [tied, htie] using List.Sublist.filter tied hxy
      rw [hkept] at htied
      have hplace := List.pairwise_iff_forall_sublist.mp (pairwise_reverse_zipIdx hs)
        (htied.trans List.filter_sublist)
      exact Or.inr ⟨htie, hplace⟩
    · exact Or.inl (Int64.lt_of_le_of_ne hends (Ne.symm htie))

end Report

namespace Store

theorem reports_run (cs : List Change) (domain : String) :
    (run cs).reports domain none = (Report.arranged (history domain cs)).map Prod.fst := by
  rw [reports, ledgers_run, Report.map_fst_arranged]
  cases hl : Ledger.ofHistory? (history domain cs) with
  | none =>
    rw [(Ledger.ofHistory?_eq_none_iff _).mp hl]
    exact List.mergeSort_nil.symm
  | some l =>
    rw [← (Ledger.keepsAccount_of_ofHistory? hl).reports]
    rfl

theorem entries_run (cs : List Change) (domain : String) :
    (run cs).entries domain none =
      (Report.arranged (history domain cs)).map fun x => ReportEntry.ofReport x.1 := by
  rw [entries, reports_run, List.map_map]
  rfl

private theorem entries_some (s : Store) (domain : String) (limit : Nat) :
    s.entries domain (some limit) = (s.entries domain none).take limit :=
  List.map_take

/-- After any changes the entries of a domain are those of its history, each report once, in an
order that leaves no choice. Each entry has the counts of its own report. -/
theorem entries_run_arranged (cs : List Change) (domain : String) :
    ∃ xs, Report.Arranges xs (history domain cs) ∧
      (∀ ys, Report.Arranges ys (history domain cs) → ys = xs) ∧
      (run cs).entries domain none = xs.map (fun x => ReportEntry.ofReport x.1) ∧
      ((run cs).entries domain none).Perm ((history domain cs).map ReportEntry.ofReport) ∧
      List.Forall₂ (fun e x => e.tally.Counts x.1.records) ((run cs).entries domain none) xs ∧
      ∀ limit, (run cs).entries domain (some limit) =
        ((run cs).entries domain none).take (min limit ((run cs).entries domain none).length) := by
  have harranged := Report.arranges_arranged (history domain cs)
  have hentries := entries_run cs domain
  refine ⟨_, harranged, fun ys hys => hys.unique harranged, hentries, ?_, ?_, ?_⟩
  · rw [entries, reports_run]
    exact harranged.perm.map ReportEntry.ofReport
  · rw [hentries, List.forall₂_map_left_iff, List.forall₂_same]
    exact fun x _ => x.1.counts_tally
  · intro limit
    rw [entries_some, List.take_eq_take_min]

end Store

end DmarcReports
