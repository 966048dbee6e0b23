import DmarcReports.Proofs.Store.Reordering
import DmarcReports.Proofs.Store.Totals

/-!
What the breakdown of a domain says of its sources.

The entry of a source has seen the records of the source in their order, and no other record. Main
statement: `sources_run_breaksDown`.
-/

set_option autoImplicit false
set_option relaxedAutoImplicit false

namespace DmarcReports

def Record.ofSource (ip : String) (rs : List Record) : List Record :=
  rs.filter fun r => r.sourceIp == ip

private theorem Record.ofSource_concat (ip : String) (rs : List Record) (r : Record) :
    ofSource ip (rs ++ [r]) =
      if r.sourceIp = ip then ofSource ip rs ++ [r] else ofSource ip rs := by
  by_cases hip : r.sourceIp = ip
  · simp [ofSource, hip]
  · simp [ofSource, hip]

private theorem Record.ofSource_eq_nil_iff {ip : String} {rs : List Record} :
    ofSource ip rs = [] ↔ ip ∉ rs.map sourceIp := by
  simp [ofSource, List.filter_eq_nil_iff]

namespace SourceStat

/-- What is known of a source from these records of it; without records it is not known. -/
def ofRecords? (ip : String) : List Record → Option SourceStat
  | [] => none
  | r :: rs => some ((r :: rs).foldl observe { sourceIp := ip })

private theorem ofRecords?_concat (ip : String) (rs : List Record) (r : Record) :
    ofRecords? ip (rs ++ [r]) = some (((ofRecords? ip rs).getD { sourceIp := ip }).observe r) := by
  cases rs with
  | nil => rfl
  | cons first rs => simp only [List.cons_append, ofRecords?, List.foldl_append, List.foldl_cons,
      List.foldl_nil, Option.getD_some]

private theorem ofRecords?_eq_none_iff {ip : String} {rs : List Record} :
    ofRecords? ip rs = none ↔ rs = [] := by
  cases rs <;> simp [ofRecords?]

/-- That the entry tells of these records of its source, and of the last of them. -/
structure Tells (v : SourceStat) (rs : List Record) : Prop where
  count : v.count.toNat = min 0xFFFFFFFFFFFFFFFF (Count.exactSum (rs.map Record.count))
  last : ∃ r, rs.getLast? = some r ∧ v.spfResult = r.spfResult ∧ v.dkimResult = r.dkimResult ∧
    v.disposition = r.disposition ∧ (v.verdict = passResult ↔ r.passed = true)
  verdict : v.verdict = passResult ↔ v.spfResult = passResult ∨ v.dkimResult = passResult

private theorem verdict_eq_passResult_iff (v : SourceStat) :
    v.verdict = passResult ↔ v.passed = true := by
  unfold verdict
  split
  · rename_i h
    simp [h]
  · rename_i h
    simp [h, passResult]

private theorem tells_observe {v : SourceStat} {rs : List Record} (r : Record)
    (hcount : v.count.toNat = min 0xFFFFFFFFFFFFFFFF (Count.exactSum (rs.map Record.count))) :
    (v.observe r).Tells (rs ++ [r]) where
  count := by
    have hstep : (v.observe r).count = Count.satAdd v.count r.count := rfl
    rw [hstep, Count.toNat_satAdd, hcount, List.map_append, Count.exactSum_append, List.map_cons,
      List.map_nil, Count.exactSum, Count.exactSum]
    -- What was cut off before is cut off again, so one cut is enough.
    omega
  last := ⟨r, List.getLast?_concat, rfl, rfl, rfl, verdict_eq_passResult_iff _⟩
  verdict := by
    have hpassed : (v.observe r).passed = r.passed := rfl
    rw [verdict_eq_passResult_iff, hpassed]
    exact Record.passed_iff

private theorem tells_of_ofRecords? {ip : String} {rs : List Record} {v : SourceStat}
    (h : ofRecords? ip rs = some v) : v.sourceIp = ip ∧ v.Tells rs := by
  induction rs using List.reverseRecOn generalizing v with
  | nil => cases h
  | append_singleton rs r ih =>
    rw [ofRecords?_concat, Option.some.injEq] at h
    subst h
    cases hbefore : ofRecords? ip rs with
    | none =>
      obtain rfl := ofRecords?_eq_none_iff.mp hbefore
      exact ⟨rfl, tells_observe r rfl⟩
    | some before =>
      obtain ⟨hip, htells⟩ := ih hbefore
      exact ⟨hip, tells_observe r htells.count⟩

/-- That these are the entries for the sources of the records, one for each, in the order of the
breakdown. -/
structure BreaksDown (vs : List SourceStat) (rs : List Record) : Prop where
  distinct : (vs.map sourceIp).Nodup
  addresses : ∀ ip, ip ∈ vs.map sourceIp ↔ ip ∈ rs.map Record.sourceIp
  tells : ∀ v ∈ vs, v.Tells (Record.ofSource v.sourceIp rs)
  ordered : vs.Pairwise fun a b =>
    b.count < a.count ∨ (a.count = b.count ∧ a.sourceIp < b.sourceIp)

/-- Entries of different addresses leave the order no choice. -/
theorem mergeSort_eq_of_perm {vs ws : List SourceStat} (h : vs.Perm ws)
    (hdistinct : (ws.map sourceIp).Nodup) :
    vs.mergeSort listedBefore = ws.mergeSort listedBefore := by
  have hperm : (vs.mergeSort listedBefore).Perm (ws.mergeSort listedBefore) :=
    (List.mergeSort_perm _ _).trans (h.trans (List.mergeSort_perm _ _).symm)
  apply hperm.eq_of_pairwise _ (pairwise_mergeSort vs) (pairwise_mergeSort ws)
  intro a b ha hb hab hba
  have haddress : a.sourceIp = b.sourceIp := congrArg Prod.fst (hab.antisymm hba)
  exact List.inj_on_of_nodup_map hdistinct (h.mem_iff.mp (List.mem_mergeSort.mp ha))
    (List.mem_mergeSort.mp hb) haddress

end SourceStat

namespace Ledger

open SourceStat (ofRecords? listedBefore)

def sourcesOf (rs : List Record) : Std.TreeMap String SourceStat :=
  rs.foldl countSource ∅

private theorem sourcesOf_append (rs rs' : List Record) :
    sourcesOf (rs ++ rs') = rs'.foldl countSource (sourcesOf rs) :=
  List.foldl_append

/-- The entry of a source is made from the records of the source, in their order. -/
private theorem getElem?_sourcesOf (rs : List Record) (ip : String) :
    (sourcesOf rs)[ip]? = ofRecords? ip (Record.ofSource ip rs) := by
  induction rs using List.reverseRecOn with
  | nil => exact Std.TreeMap.getElem?_emptyc
  | append_singleton rs r ih =>
    rw [sourcesOf_append, List.foldl_cons, List.foldl_nil, getElem?_countSource,
      Record.ofSource_concat]
    split
    · rename_i hip
      subst hip
      rw [observed, ih, SourceStat.ofRecords?_concat]
    · exact ih

private theorem sources_of_ofHistory? {hs : List Report} {l : Ledger} (h : ofHistory? hs = some l) :
    l.sources = sourcesOf (Report.allRecords hs) := by
  induction hs using List.reverseRecOn generalizing l with
  | nil => cases h
  | append_singleton hs r ih =>
    rw [ofHistory?_concat, Option.some.injEq] at h
    subst h
    rw [Report.allRecords_concat, sourcesOf_append]
    cases hbefore : ofHistory? hs with
    | none =>
      obtain rfl := (ofHistory?_eq_none_iff hs).mp hbefore
      rfl
    | some before =>
      rw [← ih hbefore]
      rfl

private theorem map_sourceIp_values {sources : Std.TreeMap String SourceStat}
    (hnamed : ∀ (ip : String) (v : SourceStat), sources[ip]? = some v → v.sourceIp = ip) :
    sources.values.map SourceStat.sourceIp = sources.keys := by
  rw [values_eq_map_toList, List.map_map, ← Std.TreeMap.map_fst_toList_eq_keys]
  apply List.map_congr_left
  intro x hx
  exact hnamed x.1 x.2 (Std.TreeMap.mem_toList_iff_getElem?_eq_some.mp hx)

theorem nodup_map_sourceIp_values {sources : Std.TreeMap String SourceStat}
    (hnamed : ∀ (ip : String) (v : SourceStat), sources[ip]? = some v → v.sourceIp = ip) :
    (sources.values.map SourceStat.sourceIp).Nodup := by
  rw [map_sourceIp_values hnamed]
  exact Std.TreeMap.nodup_keys

variable (rs : List Record)

private theorem sourceIp_of_getElem?_sourcesOf (ip : String) (v : SourceStat)
    (h : (sourcesOf rs)[ip]? = some v) : v.sourceIp = ip := by
  rw [getElem?_sourcesOf] at h
  exact (SourceStat.tells_of_ofRecords? h).1

private theorem mem_keys_sourcesOf_iff (ip : String) :
    ip ∈ (sourcesOf rs).keys ↔ ip ∈ rs.map Record.sourceIp := by
  rw [Std.TreeMap.mem_keys, Std.TreeMap.mem_iff_isSome_getElem?, getElem?_sourcesOf,
    Option.isSome_iff_ne_none, ne_eq, SourceStat.ofRecords?_eq_none_iff,
    Record.ofSource_eq_nil_iff, not_not]

private theorem tells_of_mem_values {v : SourceStat} (h : v ∈ (sourcesOf rs).values) :
    v.Tells (Record.ofSource v.sourceIp rs) := by
  rw [values_eq_map_toList, List.mem_map] at h
  obtain ⟨x, hx, rfl⟩ := h
  have hentry := Std.TreeMap.mem_toList_iff_getElem?_eq_some.mp hx
  rw [getElem?_sourcesOf] at hentry
  obtain ⟨hip, htells⟩ := SourceStat.tells_of_ofRecords? hentry
  rwa [hip]

private theorem breaksDown_sourcesOf :
    SourceStat.BreaksDown ((sourcesOf rs).values.mergeSort listedBefore) rs := by
  have hperm : ((sourcesOf rs).values.mergeSort listedBefore).Perm (sourcesOf rs).values :=
    List.mergeSort_perm _ _
  have hnamed := sourceIp_of_getElem?_sourcesOf rs
  have hdistinct := (hperm.map SourceStat.sourceIp).nodup_iff.mpr (nodup_map_sourceIp_values hnamed)
  refine ⟨hdistinct, fun ip => ?_, fun v hv => ?_, ?_⟩
  · rw [(hperm.map _).mem_iff, map_sourceIp_values hnamed, mem_keys_sourcesOf_iff]
  · exact tells_of_mem_values rs (hperm.mem_iff.mp hv)
  · -- The sorted list may still have equal shares side by side, but for the addresses.
    refine (SourceStat.pairwise_mergeSort _).imp₂ ?_ (List.pairwise_map.mp hdistinct)
    rintro a b (hmore | ⟨hequal, hle⟩) hne
    · exact Or.inl hmore
    · exact Or.inr ⟨hequal, String.not_le.mp fun hge => hne (String.le_antisymm hle hge)⟩

end Ledger

namespace Store

private theorem sources_run (cs : List Change) (domain : String) :
    (run cs).sources domain =
      (Ledger.sourcesOf (Report.allRecords (history domain cs))).values.mergeSort
        SourceStat.listedBefore := by
  rw [sources, ledgers_run]
  cases hl : Ledger.ofHistory? (history domain cs) with
  | none =>
    rw [(Ledger.ofHistory?_eq_none_iff _).mp hl]
    exact List.mergeSort_nil.symm
  | some l =>
    rw [← Ledger.sources_of_ofHistory? hl]
    rfl

/-- After any changes the sources of a domain break down the records of its history, and they are
the same list from whatever order they are sorted. -/
theorem sources_run_breaksDown (cs : List Change) (domain : String) :
    SourceStat.BreaksDown ((run cs).sources domain) (Report.allRecords (history domain cs)) ∧
      ∀ vs : List SourceStat, vs.Perm ((run cs).sources domain) →
        vs.mergeSort SourceStat.listedBefore = (run cs).sources domain := by
  rw [sources_run]
  refine ⟨Ledger.breaksDown_sourcesOf _, fun vs hvs => ?_⟩
  exact SourceStat.mergeSort_eq_of_perm (hvs.trans (List.mergeSort_perm _ _))
    (Ledger.nodup_map_sourceIp_values (Ledger.sourceIp_of_getElem?_sourcesOf _))

end Store

end DmarcReports
