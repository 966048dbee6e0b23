import DmarcReports.Proofs.Store.Breakdown
import DmarcReports.Store.State

/-!
A state and the ledger of its domain.

The figures that a state stores are those that follow from the tally of the ledger, whatever reports
are filed in both, and the order in which the state finds its sources is lost when they are sorted.
-/

set_option autoImplicit false
set_option relaxedAutoImplicit false

namespace DmarcReports

private theorem toList_perm_of_getElem?_eq {α : Type} {m : Std.HashMap String α}
    {n : Std.TreeMap String α} (h : ∀ k : String, m[k]? = n[k]?) : m.toList.Perm n.toList := by
  have hm : m.toList.Nodup := by
    apply List.Nodup.of_map Prod.fst
    rw [Std.HashMap.map_fst_toList_eq_keys]
    exact Std.HashMap.nodup_keys
  have hn : n.toList.Nodup := by
    apply List.Nodup.of_map Prod.fst
    rw [Std.TreeMap.map_fst_toList_eq_keys]
    exact Std.TreeMap.nodup_keys
  rw [List.perm_ext_iff_of_nodup hm hn]
  intro x
  rw [Std.HashMap.mem_toList_iff_getElem?_eq_some, Std.TreeMap.mem_toList_iff_getElem?_eq_some, h]

namespace DomainState

private theorem getElem?_foldl_countSource {m : Std.HashMap String SourceStat}
    {n : Std.TreeMap String SourceStat} (h : ∀ ip : String, m[ip]? = n[ip]?) (rs : List Record)
    (ip : String) : (rs.foldl countSource m)[ip]? = (rs.foldl Ledger.countSource n)[ip]? := by
  induction rs generalizing m n with
  | nil => exact h ip
  | cons r rs ih =>
    apply ih
    intro ip
    simp only [countSource, Ledger.countSource, Std.HashMap.getElem?_alter,
      Std.TreeMap.getElem?_alter, Std.LawfulEqCmp.compare_eq_iff_eq, beq_iff_eq, h]

private theorem sourceIp_of_getElem?_foldl_countSource {m : Std.HashMap String SourceStat}
    (h : ∀ (ip : String) (v : SourceStat), m[ip]? = some v → v.sourceIp = ip) (rs : List Record)
    (ip : String) (v : SourceStat) (hv : (rs.foldl countSource m)[ip]? = some v) :
    v.sourceIp = ip := by
  induction rs generalizing m with
  | nil => exact h ip v hv
  | cons r rs ih =>
    refine ih (fun ip v hv => ?_) hv
    rw [countSource, Std.HashMap.getElem?_alter] at hv
    split at hv
    · rename_i hip
      obtain rfl := beq_iff_eq.mp hip
      obtain rfl := Option.some.inj hv
      cases hknown : m[r.sourceIp]? with
      | none => rfl
      | some known => exact h _ known hknown
    · exact h ip v hv

/-- That a state is in use and holds what a ledger holds for a domain. -/
structure Keeps (st : DomainState) (domain : String) (l : Ledger) : Prop where
  reports : st.newestFirst = l.reports
  summary : st.summary = .ofSummary (l.summary domain)
  sources : ∀ ip : String, st.sources[ip]? = l.sources[ip]?
  named : ∀ (ip : String) (v : SourceStat), st.sources[ip]? = some v → v.sourceIp = ip
  current : st.retired = false

variable {st : DomainState} {domain : String} {l : Ledger}

theorem Keeps.file (h : st.Keeps domain l) (r : Report) :
    (st.file r).Keeps domain (l.file r) where
  reports := by
    rw [Ledger.file, ← h.reports]
    simp [newestFirst, DomainState.file]
  summary := by
    rw [DomainState.file, h.summary]
    rfl
  sources := getElem?_foldl_countSource h.sources r.records
  named := sourceIp_of_getElem?_foldl_countSource h.named r.records
  current := h.current

theorem keeps_start (domain : String) (r : Report) :
    (start domain r).Keeps domain (Ledger.start r) where
  reports := rfl
  summary := rfl
  sources := getElem?_foldl_countSource (fun _ => by simp) r.records
  named := sourceIp_of_getElem?_foldl_countSource (fun _ _ hv => by simp at hv) r.records
  current := rfl

theorem Keeps.domain_eq (h : st.Keeps domain l) : st.summary.domain = domain := by
  rw [h.summary]
  rfl

theorem Keeps.listing_eq (h : st.Keeps domain l) : st.listing = l.listing := by
  rw [listing, h.reports, Ledger.listing]

theorem Keeps.find?_eq (h : st.Keeps domain l) (reportId : String) :
    st.find? reportId = l.find? reportId := by
  rw [find?, h.reports, Ledger.find?]

theorem Keeps.breakdown_eq (h : st.Keeps domain l) : st.breakdown = l.breakdown := by
  have hvalues : (st.sources.toList.map Prod.snd).Perm l.sources.values := by
    rw [Ledger.values_eq_map_toList]
    exact (toList_perm_of_getElem?_eq h.sources).map _
  have hnamed (ip : String) (v : SourceStat) (hv : l.sources[ip]? = some v) : v.sourceIp = ip :=
    h.named ip v ((h.sources ip).trans hv)
  exact SourceStat.mergeSort_eq_of_perm hvalues (Ledger.nodup_map_sourceIp_values hnamed)

end DomainState

end DmarcReports
