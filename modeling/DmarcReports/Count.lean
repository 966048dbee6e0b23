/-!
Message counts in 64-bit words, and the two ways to add them up.

A saturating sum stops at the largest word; a checked sum has no value where the exact one does not
fit.
-/

set_option autoImplicit false
set_option relaxedAutoImplicit false

namespace DmarcReports.Count

def top : UInt64 := 0xFFFFFFFFFFFFFFFF

def satAdd (a b : UInt64) : UInt64 :=
  if a + b < a then top else a + b

def checkedAdd (a b : UInt64) : Option UInt64 :=
  if a + b < a then none else some (a + b)

def satSum (cs : List UInt64) : UInt64 :=
  cs.foldl satAdd 0

def checkedSum (cs : List UInt64) : Option UInt64 :=
  cs.foldlM checkedAdd 0

def exactSum : List UInt64 → Nat
  | [] => 0
  | c :: cs => c.toNat + exactSum cs

theorem add_lt_left_iff (a b : UInt64) : a + b < a ↔ 0xFFFFFFFFFFFFFFFF < a.toNat + b.toNat := by
  have ha := a.toNat_lt
  have hb := b.toNat_lt
  rw [UInt64.lt_iff_toNat_lt, UInt64.toNat_add]
  omega

theorem toNat_satAdd (a b : UInt64) :
    (satAdd a b).toNat = min 0xFFFFFFFFFFFFFFFF (a.toNat + b.toNat) := by
  have ha := a.toNat_lt
  have hb := b.toNat_lt
  unfold satAdd
  split
  · rename_i h
    rw [add_lt_left_iff] at h
    have htop : top.toNat = 0xFFFFFFFFFFFFFFFF := rfl
    omega
  · rename_i h
    rw [add_lt_left_iff] at h
    rw [UInt64.toNat_add]
    omega

private theorem toNat_foldl_satAdd (cs : List UInt64) (a : UInt64) :
    (cs.foldl satAdd a).toNat = min 0xFFFFFFFFFFFFFFFF (a.toNat + exactSum cs) := by
  induction cs generalizing a with
  | nil =>
    have ha := a.toNat_lt
    simp only [List.foldl_nil, exactSum]
    omega
  | cons c cs ih =>
    simp only [List.foldl_cons, ih, toNat_satAdd, exactSum]
    omega

private theorem foldl_satAdd_of_foldlM_checkedAdd {cs : List UInt64} {a s : UInt64}
    (h : cs.foldlM checkedAdd a = some s) : cs.foldl satAdd a = s := by
  induction cs generalizing a with
  | nil => exact Option.some.inj h
  | cons c cs ih =>
    rw [List.foldlM_cons, checkedAdd] at h
    split at h
    · cases h
    · rename_i hroom
      have hsat : satAdd a c = a + c := if_neg hroom
      rw [List.foldl_cons, hsat]
      exact ih h

theorem satSum_of_checkedSum {cs : List UInt64} {s : UInt64} (h : checkedSum cs = some s) :
    satSum cs = s :=
  foldl_satAdd_of_foldlM_checkedAdd h

theorem toNat_satSum (cs : List UInt64) :
    (satSum cs).toNat = min 0xFFFFFFFFFFFFFFFF (exactSum cs) := by
  simp [satSum, toNat_foldl_satAdd]

end DmarcReports.Count
