import DmarcReports.Report.Basic

/-!
Tallies as exact sums.

Counts saturate within a report and again when reports are taken together. Both are cut off at the
same largest count, so the tally of several lists of records is the tally of all their records.
-/

set_option autoImplicit false
set_option relaxedAutoImplicit false

namespace DmarcReports

namespace Count

theorem exactSum_append (as bs : List UInt64) :
    exactSum (as ++ bs) = exactSum as + exactSum bs := by
  induction as with
  | nil => exact (Nat.zero_add _).symm
  | cons a as ih => rw [List.cons_append, exactSum, ih, exactSum, Nat.add_assoc]

theorem exactSum_le_of_sublist {as bs : List UInt64} (h : as.Sublist bs) :
    exactSum as ≤ exactSum bs := by
  induction h with
  | slnil => exact Nat.le_refl _
  | cons b _ ih =>
    simp only [exactSum] at ih ⊢
    omega
  | cons_cons b _ ih =>
    simp only [exactSum] at ih ⊢
    omega

theorem exactSum_filter_add_filter_not {α : Type} (p : α → Bool) (f : α → UInt64) (as : List α) :
    exactSum ((as.filter p).map f) + exactSum ((as.filter fun a => !p a).map f) =
      exactSum (as.map f) := by
  induction as with
  | nil => rfl
  | cons a as ih =>
    cases hp : p a <;>
      simp only [List.filter_cons, hp, Bool.not_true, Bool.not_false, if_true,
        Bool.false_eq_true, if_false, List.map_cons, exactSum]
    all_goals omega

private theorem satSum_append (as bs : List UInt64) :
    satSum (as ++ bs) = satAdd (satSum as) (satSum bs) := by
  apply UInt64.toNat_inj.mp
  rw [toNat_satAdd, toNat_satSum, toNat_satSum, toNat_satSum, exactSum_append]
  -- A part that is cut off already takes the whole to the largest count.
  omega

theorem satAdd_comm (a b : UInt64) : satAdd a b = satAdd b a := by
  apply UInt64.toNat_inj.mp
  rw [toNat_satAdd, toNat_satAdd, Nat.add_comm]

theorem satAdd_assoc (a b c : UInt64) : satAdd (satAdd a b) c = satAdd a (satAdd b c) := by
  apply UInt64.toNat_inj.mp
  simp only [toNat_satAdd]
  omega

theorem satAdd_zero (a : UInt64) : satAdd a 0 = a := by
  apply UInt64.toNat_inj.mp
  have ha := a.toNat_lt
  have hzero : (0 : UInt64).toNat = 0 := rfl
  rw [toNat_satAdd, hzero]
  omega

theorem satSum_cons (c : UInt64) (cs : List UInt64) : satSum (c :: cs) = satAdd c (satSum cs) := by
  apply UInt64.toNat_inj.mp
  rw [toNat_satAdd, toNat_satSum, toNat_satSum, exactSum]
  omega

theorem exactSum_eq_of_perm {as bs : List UInt64} (h : as.Perm bs) : exactSum as = exactSum bs := by
  induction h with
  | nil => rfl
  | cons a _ ih => rw [exactSum, ih, exactSum]
  | swap a b cs =>
    simp only [exactSum]
    omega
  | trans _ _ ih₁ ih₂ => exact ih₁.trans ih₂

theorem satSum_eq_of_perm {as bs : List UInt64} (h : as.Perm bs) : satSum as = satSum bs := by
  apply UInt64.toNat_inj.mp
  rw [toNat_satSum, toNat_satSum, exactSum_eq_of_perm h]

private theorem foldlM_checkedAdd (cs : List UInt64) (a : UInt64)
    (h : a.toNat + exactSum cs < UInt64.size) :
    cs.foldlM checkedAdd a = some (cs.foldl satAdd a) := by
  induction cs generalizing a with
  | nil => rfl
  | cons c cs ih =>
    rw [exactSum] at h
    have hroom : ¬a + c < a := by
      rw [add_lt_left_iff]
      simp only [UInt64.size] at h
      omega
    have hchecked : checkedAdd a c = some (a + c) := if_neg hroom
    have hsat : satAdd a c = a + c := if_neg hroom
    have hsum : (a + c).toNat = a.toNat + c.toNat := by
      rw [UInt64.toNat_add]
      exact Nat.mod_eq_of_lt (by simp only [UInt64.size] at h; omega)
    rw [List.foldlM_cons, hchecked, List.foldl_cons, hsat]
    exact ih (a + c) (by omega)

private theorem checkedSum_eq_some {cs : List UInt64} (h : exactSum cs < UInt64.size) :
    checkedSum cs = some (satSum cs) := by
  have hzero : (0 : UInt64).toNat + exactSum cs < UInt64.size := by
    have : (0 : UInt64).toNat = 0 := rfl
    omega
  exact foldlM_checkedAdd cs 0 hzero

/-- A checked sum that has a value never passed the largest word on the way. -/
private theorem exactSum_lt_of_foldlM_checkedAdd {cs : List UInt64} {a s : UInt64}
    (h : cs.foldlM checkedAdd a = some s) : a.toNat + exactSum cs < UInt64.size := by
  induction cs generalizing a with
  | nil => exact a.toNat_lt
  | cons c cs ih =>
    rw [List.foldlM_cons, checkedAdd] at h
    split at h
    · cases h
    · rename_i hroom
      have hsum := ih h
      have ha := a.toNat_lt
      rw [add_lt_left_iff] at hroom
      rw [UInt64.toNat_add, Nat.mod_eq_of_lt (by omega)] at hsum
      rw [exactSum]
      omega

theorem isSome_checkedSum_iff {cs : List UInt64} :
    (checkedSum cs).isSome = true ↔ exactSum cs < UInt64.size := by
  constructor
  · intro h
    obtain ⟨s, hs⟩ := Option.isSome_iff_exists.mp h
    have hlt := exactSum_lt_of_foldlM_checkedAdd hs
    have hzero : (0 : UInt64).toNat = 0 := rfl
    omega
  · intro h
    rw [checkedSum_eq_some h]
    rfl

private theorem toNat_satSum_of_lt {cs : List UInt64} (h : exactSum cs < UInt64.size) :
    (satSum cs).toNat = exactSum cs := by
  rw [toNat_satSum]
  simp only [UInt64.size] at h
  omega

end Count

theorem Record.passed_iff {record : Record} :
    record.passed = true ↔ record.spfResult = passResult ∨ record.dkimResult = passResult := by
  rw [passed, Bool.or_eq_true, beq_iff_eq, beq_iff_eq]

namespace Tally

def passedCounts (rs : List Record) : List UInt64 :=
  (rs.filter Record.passed).map Record.count

theorem ofRecords_append (as bs : List Record) :
    ofRecords (as ++ bs) = (ofRecords as).add (ofRecords bs) := by
  simp only [ofRecords, add, List.map_append, List.filter_append, Count.satSum_append]

theorem toNat_total_ofRecords (rs : List Record) :
    (ofRecords rs).total.toNat = min 0xFFFFFFFFFFFFFFFF (Count.exactSum (rs.map Record.count)) :=
  Count.toNat_satSum _

theorem toNat_passed_ofRecords (rs : List Record) :
    (ofRecords rs).passed.toNat = min 0xFFFFFFFFFFFFFFFF (Count.exactSum (passedCounts rs)) :=
  Count.toNat_satSum _

theorem exactSum_passedCounts_le (rs : List Record) :
    Count.exactSum (passedCounts rs) ≤ Count.exactSum (rs.map Record.count) :=
  Count.exactSum_le_of_sublist (List.filter_sublist.map Record.count)

theorem ofRecords?_eq_some {rs : List Record}
    (h : Count.exactSum (rs.map Record.count) < UInt64.size) :
    ofRecords? rs = some (ofRecords rs) := by
  have hpassed : Count.exactSum (passedCounts rs) < UInt64.size :=
    Nat.lt_of_le_of_lt (exactSum_passedCounts_le rs) h
  have htotal := Count.checkedSum_eq_some h
  have hpart : Count.checkedSum ((rs.filter Record.passed).map Record.count) =
      some (Count.satSum ((rs.filter Record.passed).map Record.count)) :=
    Count.checkedSum_eq_some hpassed
  rw [ofRecords?, htotal, hpart]
  rfl

/-- Whether records have a tally depends on all their counts together, and on nothing else. -/
theorem isSome_ofRecords?_iff {rs : List Record} :
    (ofRecords? rs).isSome = true ↔ Count.exactSum (rs.map Record.count) < UInt64.size := by
  constructor
  · intro h
    rw [← Count.isSome_checkedSum_iff]
    unfold ofRecords? at h
    cases hsum : Count.checkedSum (rs.map Record.count) with
    | none => simp [hsum] at h
    | some total => rfl
  · intro h
    rw [ofRecords?_eq_some h]
    rfl

theorem passed_le_total_ofRecords (rs : List Record) :
    (ofRecords rs).passed ≤ (ofRecords rs).total := by
  have hpart := exactSum_passedCounts_le rs
  rw [UInt64.le_iff_toNat_le, toNat_total_ofRecords, toNat_passed_ofRecords]
  omega

theorem toNat_failed {t : Tally} (h : t.passed ≤ t.total) :
    t.failed.toNat = t.total.toNat - t.passed.toNat :=
  UInt64.toNat_sub_of_le _ _ h

/-- That a tally counts these records, each sum cut off at the largest count. -/
structure Counts (t : Tally) (rs : List Record) : Prop where
  total : t.total.toNat = min 0xFFFFFFFFFFFFFFFF (Count.exactSum (rs.map Record.count))
  passed : t.passed.toNat =
    min 0xFFFFFFFFFFFFFFFF (Count.exactSum ((rs.filter Record.passed).map Record.count))
  passed_le : t.passed ≤ t.total
  failed : t.failed.toNat = t.total.toNat - t.passed.toNat

theorem counts_ofRecords (rs : List Record) : (ofRecords rs).Counts rs where
  total := toNat_total_ofRecords rs
  passed := toNat_passed_ofRecords rs
  passed_le := passed_le_total_ofRecords rs
  failed := toNat_failed (passed_le_total_ofRecords rs)

section Exact

variable {rs : List Record} (h : Count.exactSum (rs.map Record.count) < UInt64.size)
include h

theorem toNat_total_of_lt :
    (ofRecords rs).total.toNat = Count.exactSum (rs.map Record.count) :=
  Count.toNat_satSum_of_lt h

theorem toNat_passed_of_lt : (ofRecords rs).passed.toNat = Count.exactSum (passedCounts rs) :=
  Count.toNat_satSum_of_lt (Nat.lt_of_le_of_lt (exactSum_passedCounts_le rs) h)

theorem toNat_failed_of_lt :
    (ofRecords rs).failed.toNat =
      Count.exactSum ((rs.filter fun record => !record.passed).map Record.count) := by
  have hparts := Count.exactSum_filter_add_filter_not Record.passed Record.count rs
  rw [toNat_failed (passed_le_total_ofRecords rs), toNat_total_of_lt h, toNat_passed_of_lt h,
    passedCounts]
  omega

end Exact

end Tally

theorem Report.total_tally (r : Report) :
    r.tally.total = Count.satSum (r.records.map Record.count) := by
  rw [r.tally_eq]
  rfl

theorem Report.counts_tally (r : Report) : r.tally.Counts r.records := by
  rw [r.tally_eq]
  exact Tally.counts_ofRecords r.records

end DmarcReports
