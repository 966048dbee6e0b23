import DmarcReports.Proofs.Tally
import DmarcReports.Store.Ledger

/-!
Counting records by their source.

The breakdown splits the messages of a domain over many saturating counters; taken together these
stand at the saturating sum of all records. Main statement: `volume_foldl_countSource`.
-/

set_option autoImplicit false
set_option relaxedAutoImplicit false

namespace DmarcReports.Ledger

variable (sources : Std.TreeMap String SourceStat)

def observed (r : Record) : SourceStat :=
  (sources[r.sourceIp]?.getD { sourceIp := r.sourceIp }).observe r

theorem getElem?_countSource (r : Record) (ip : String) :
    (countSource sources r)[ip]? =
      if r.sourceIp = ip then some (observed sources r) else sources[ip]? := by
  simp only [countSource, Std.TreeMap.getElem?_alter, Std.LawfulEqCmp.compare_eq_iff_eq, observed]

def others (ip : String) : List (String × SourceStat) :=
  sources.toList.filter fun x => ¬(ip == x.1)

private theorem toList_perm_of_known {ip : String} {v : SourceStat} (h : sources[ip]? = some v) :
    sources.toList.Perm ((ip, v) :: others sources ip) := by
  have hsame : (sources.insert ip v).toList = sources.toList := by
    apply Std.TreeMap.Equiv.toList_eq
    apply Std.TreeMap.Equiv.of_forall_constGet?_eq
    intro k
    rw [Std.TreeMap.getElem?_insert]
    split
    · rename_i hk
      rw [← Std.LawfulEqCmp.compare_eq_iff_eq.mp hk, h]
    · rfl
  rw [← hsame]
  exact Std.TreeMap.toList_insert_perm

private theorem others_eq_of_unknown {ip : String} (h : sources[ip]? = none) :
    others sources ip = sources.toList := by
  apply List.filter_eq_self.mpr
  intro x hx
  have hfound : sources[x.1]? = some x.2 := Std.TreeMap.mem_toList_iff_getElem?_eq_some.mp hx
  simp only [decide_eq_true_eq, beq_iff_eq]
  intro hip
  rw [← hip, h] at hfound
  cases hfound

private theorem toList_countSource_perm (r : Record) :
    (countSource sources r).toList.Perm
      ((r.sourceIp, observed sources r) :: others sources r.sourceIp) := by
  have hsame : (countSource sources r).toList =
      (sources.insert r.sourceIp (observed sources r)).toList := by
    apply Std.TreeMap.Equiv.toList_eq
    apply Std.TreeMap.Equiv.of_forall_constGet?_eq
    intro k
    rw [getElem?_countSource, Std.TreeMap.getElem?_insert]
    simp only [Std.LawfulEqCmp.compare_eq_iff_eq]
  rw [hsame]
  exact Std.TreeMap.toList_insert_perm

theorem values_eq_map_toList : sources.values = sources.toList.map Prod.snd := by
  have hfold : sources.values = sources.foldr (fun _ v vs => v :: vs) [] := rfl
  rw [hfold, Std.TreeMap.foldr_eq_foldr_toList]
  induction sources.toList with
  | nil => rfl
  | cons x xs ih => rw [List.foldr_cons, ih, List.map_cons]

def volume : UInt64 :=
  Count.satSum (sources.values.map SourceStat.count)

private theorem volume_eq_of_perm {entries : List (String × SourceStat)}
    (h : sources.toList.Perm entries) :
    volume sources = Count.satSum (entries.map fun x => x.2.count) := by
  rw [volume, values_eq_map_toList, List.map_map]
  exact Count.satSum_eq_of_perm (h.map _)

private theorem volume_countSource (r : Record) :
    volume (countSource sources r) = Count.satAdd (volume sources) r.count := by
  rw [volume_eq_of_perm _ (toList_countSource_perm sources r), List.map_cons, Count.satSum_cons]
  cases h : sources[r.sourceIp]? with
  | none =>
    have hcount : (observed sources r).count = r.count := by
      rw [observed, h]
      exact (Count.satAdd_comm 0 r.count).trans (Count.satAdd_zero r.count)
    rw [hcount, others_eq_of_unknown sources h, ← volume_eq_of_perm sources (List.Perm.refl _),
      Count.satAdd_comm]
  | some v =>
    have hcount : (observed sources r).count = Count.satAdd v.count r.count := by
      rw [observed, h]
      rfl
    rw [hcount, volume_eq_of_perm sources (toList_perm_of_known sources h), List.map_cons,
      Count.satSum_cons, Count.satAdd_assoc, Count.satAdd_assoc, Count.satAdd_comm r.count]

theorem volume_foldl_countSource (rs : List Record) :
    volume (rs.foldl countSource sources) =
      Count.satAdd (volume sources) (Count.satSum (rs.map Record.count)) := by
  induction rs generalizing sources with
  | nil => exact (Count.satAdd_zero (volume sources)).symm
  | cons r rs ih =>
    rw [List.foldl_cons, ih, volume_countSource, List.map_cons, Count.satSum_cons,
      Count.satAdd_assoc]

end DmarcReports.Ledger
