import DmarcReports.Proofs.Store.History
import DmarcReports.Proofs.Store.Sources

/-!
Stores that differ in the order of filing alone.

What hangs on the order is left out: the policy in force, the results seen last, and the order of
the reports. Main statement: `alike_addAll_of_perm`.
-/

set_option autoImplicit false
set_option relaxedAutoImplicit false

namespace DmarcReports

/-- Steps that respect an equivalence and may change places up to it lead to equivalent results in
any order. -/
private theorem foldl_equivalent_of_perm {α β : Type} {R : β → β → Prop} {f : β → α → β}
    (hR : Equivalence R) (hcongr : ∀ {a b : β} (x : α), R a b → R (f a x) (f b x))
    (hswap : ∀ (a : β) (x y : α), R (f (f a x) y) (f (f a y) x)) {xs ys : List α}
    (h : xs.Perm ys) {a b : β} (hab : R a b) : R (xs.foldl f a) (ys.foldl f b) := by
  have hfold (zs : List α) {a b : β} (hab : R a b) : R (zs.foldl f a) (zs.foldl f b) := by
    induction zs generalizing a b with
    | nil => exact hab
    | cons z zs ih => exact ih (hcongr z hab)
  -- By the steps of the permutation. The starts are free, since an exchange in front leaves two
  -- related ones to go on from.
  induction h generalizing a b with
  | nil => exact hab
  | cons x _ ih => exact ih (hcongr x hab)
  | swap x y zs => exact hfold zs (hR.trans (hswap a y x) (hcongr y (hcongr x hab)))
  | trans _ _ ih₁ ih₂ => exact hR.trans (ih₁ hab) (ih₂ (hR.refl b))

private theorem Count.satAdd_right_comm (a b c : UInt64) :
    satAdd (satAdd a b) c = satAdd (satAdd a c) b := by
  rw [satAdd_assoc, satAdd_comm b c, ← satAdd_assoc]

private theorem Tally.add_right_comm (s t u : Tally) : (s.add t).add u = (s.add u).add t := by
  simp only [add, Count.satAdd_right_comm _ t.total, Count.satAdd_right_comm _ t.passed]

namespace SourceStat

def share (v : SourceStat) : String × UInt64 :=
  (v.sourceIp, v.count)

end SourceStat

namespace Ledger

/-- The address and the volume of a source, without the results seen last. -/
def share? (sources : Std.TreeMap String SourceStat) (ip : String) : Option (String × UInt64) :=
  sources[ip]?.map SourceStat.share

/-- That every source has the same volume. -/
def SameShares (m n : Std.TreeMap String SourceStat) : Prop :=
  ∀ ip, share? m ip = share? n ip

private theorem sameShares_equivalence : Equivalence SameShares where
  refl _ _ := rfl
  symm h ip := (h ip).symm
  trans h k ip := (h ip).trans (k ip)

def grown (known : Option (String × UInt64)) (r : Record) : String × UInt64 :=
  ((known.getD (r.sourceIp, 0)).1, Count.satAdd (known.getD (r.sourceIp, 0)).2 r.count)

private theorem share?_countSource (m : Std.TreeMap String SourceStat) (r : Record) (ip : String) :
    share? (countSource m r) ip =
      if r.sourceIp = ip then some (grown (share? m r.sourceIp) r) else share? m ip := by
  rw [share?, getElem?_countSource]
  split
  · rw [Option.map_some, observed, share?]
    cases m[r.sourceIp]? <;> rfl
  · rfl

theorem SameShares.countSource {m n : Std.TreeMap String SourceStat} (r : Record)
    (h : SameShares m n) : SameShares (countSource m r) (Ledger.countSource n r) := by
  intro ip
  rw [share?_countSource, share?_countSource, h ip, h r.sourceIp]

private theorem grown_grown (known : Option (String × UInt64)) (a b : Record)
    (hip : a.sourceIp = b.sourceIp) :
    grown (some (grown known a)) b = grown (some (grown known b)) a := by
  cases known <;> simp only [grown, Option.getD_some, Option.getD_none, hip,
    Count.satAdd_right_comm _ a.count]

private theorem sameShares_countSource_swap (m : Std.TreeMap String SourceStat) (a b : Record) :
    SameShares (countSource (countSource m a) b) (countSource (countSource m b) a) := by
  intro ip
  simp only [share?_countSource]
  by_cases ha : a.sourceIp = ip
  · by_cases hb : b.sourceIp = ip
    · have hab : a.sourceIp = b.sourceIp := ha.trans hb.symm
      simp only [ha, hb, if_true]
      rw [grown_grown _ _ _ hab]
    · simp only [ha, hb, if_true, if_false]
  · by_cases hb : b.sourceIp = ip
    · simp only [ha, hb, if_true, if_false]
    · simp only [ha, hb, if_false]

private theorem sameShares_foldl_of_perm {m n : Std.TreeMap String SourceStat} {as bs : List Record}
    (h : as.Perm bs) (hmn : SameShares m n) :
    SameShares (as.foldl countSource m) (bs.foldl countSource n) :=
  foldl_equivalent_of_perm sameShares_equivalence (fun r h => h.countSource r)
    sameShares_countSource_swap h hmn

/-- That two ledgers differ at most by the order in which their reports were filed. -/
structure Alike (l k : Ledger) : Prop where
  reports : l.reports.Perm k.reports
  tally : l.tally = k.tally
  processed : l.processed = k.processed
  sources : SameShares l.sources k.sources

private theorem alike_equivalence : Equivalence Alike where
  refl _ := ⟨List.Perm.refl _, rfl, rfl, sameShares_equivalence.refl _⟩
  symm h := ⟨h.reports.symm, h.tally.symm, h.processed.symm, sameShares_equivalence.symm h.sources⟩
  trans h k := ⟨h.reports.trans k.reports, h.tally.trans k.tally, h.processed.trans k.processed,
    sameShares_equivalence.trans h.sources k.sources⟩

theorem Alike.file {l k : Ledger} (r : Report) (h : l.Alike k) : (l.file r).Alike (k.file r) where
  reports := h.reports.cons r
  tally := congrArg (Tally.add · r.tally) h.tally
  processed := congrArg (· + 1) h.processed
  sources := sameShares_foldl_of_perm (List.Perm.refl r.records) h.sources

private theorem alike_file_swap (l : Ledger) (a b : Report) :
    ((l.file a).file b).Alike ((l.file b).file a) where
  reports := List.Perm.swap a b l.reports
  tally := Tally.add_right_comm l.tally a.tally b.tally
  processed := rfl
  sources := by
    -- Two reports in a row count one list of records, which the exchange takes apart in two.
    have hboth (x y : Report) : ((l.file x).file y).sources =
        (x.records ++ y.records).foldl countSource l.sources := List.foldl_append.symm
    rw [hboth, hboth]
    exact sameShares_foldl_of_perm List.perm_append_comm (sameShares_equivalence.refl _)

private theorem alike_blank (p q : Policy) : Alike { policy := p } { policy := q } :=
  ⟨List.Perm.refl _, rfl, rfl, sameShares_equivalence.refl _⟩

private theorem alike_start_swap (a b : Report) : ((start a).file b).Alike ((start b).file a) :=
  -- Starting is filing into a blank ledger, so this is the exchange of two reports on one blank
  -- ledger and then the change to the other.
  alike_equivalence.trans (alike_file_swap { policy := a.policy } a b)
    (((alike_blank a.policy b.policy).file b).file a)

end Ledger

namespace Store

private theorem known_equivalence : Equivalence (Option.Rel Ledger.Alike) where
  refl known := by
    cases known with
    | none => exact Option.Rel.none
    | some l => exact Option.Rel.some (Ledger.alike_equivalence.refl l)
  symm h := by
    cases h with
    | none => exact Option.Rel.none
    | some hl => exact Option.Rel.some (Ledger.alike_equivalence.symm hl)
  trans h k := by
    cases h with
    | none => exact k
    | some hl =>
      cases k with
      | some hk => exact Option.Rel.some (Ledger.alike_equivalence.trans hl hk)

private theorem known_file (r : Report) {known known' : Option Ledger}
    (h : Option.Rel Ledger.Alike known known') :
    ((known.map (·.file r)).getD (Ledger.start r)).Alike
      ((known'.map (·.file r)).getD (Ledger.start r)) := by
  cases h with
  | none => exact Ledger.alike_equivalence.refl (Ledger.start r)
  | some hl => exact hl.file r

def Alike (s t : Store) : Prop :=
  ∀ domain : String, Option.Rel Ledger.Alike s.ledgers[domain]? t.ledgers[domain]?

private theorem alike_equivalence : Equivalence Alike where
  refl s domain := known_equivalence.refl s.ledgers[domain]?
  symm h domain := known_equivalence.symm (h domain)
  trans h k domain := known_equivalence.trans (h domain) (k domain)

theorem Alike.add {s t : Store} (r : Report) (h : s.Alike t) : (s.add r).2.Alike (t.add r).2 := by
  intro domain
  rw [ledgers_add, ledgers_add]
  split
  · exact Option.Rel.some (known_file r (h domain))
  · exact h domain

private theorem alike_add_swap (s : Store) (a b : Report) :
    ((s.add a).2.add b).2.Alike ((s.add b).2.add a).2 := by
  intro domain
  simp only [ledgers_add]
  by_cases ha : a.filedUnder = domain
  · by_cases hb : b.filedUnder = domain
    · simp only [ha, hb, if_true]
      apply Option.Rel.some
      cases s.ledgers[domain]? with
      | none => exact Ledger.alike_start_swap a b
      | some l => exact Ledger.alike_file_swap l a b
    · simp only [ha, hb, if_true, if_false]
      exact Option.Rel.some (Ledger.alike_equivalence.refl _)
  · by_cases hb : b.filedUnder = domain
    · simp only [ha, hb, if_true, if_false]
      exact Option.Rel.some (Ledger.alike_equivalence.refl _)
    · simp only [ha, hb, if_false]
      exact alike_equivalence.refl s domain

/-- Files reports one after the other; tells of each whether it made its domain known. -/
def addAll (s : Store) : List Report → List Bool × Store
  | [] => ([], s)
  | r :: rs =>
    let (created, s) := s.add r
    let (rest, s) := s.addAll rs
    (created :: rest, s)

theorem addAll_cons (s : Store) (r : Report) (rs : List Report) :
    s.addAll (r :: rs) =
      ((s.add r).1 :: ((s.add r).2.addAll rs).1, ((s.add r).2.addAll rs).2) := rfl

private theorem addAll_store (s : Store) (rs : List Report) :
    (s.addAll rs).2 = rs.foldl (fun s r => (s.add r).2) s := by
  induction rs generalizing s with
  | nil => rfl
  | cons r rs ih => rw [addAll_cons, ih, List.foldl_cons]

theorem alike_addAll_of_perm (s : Store) {rs rs' : List Report} (h : rs.Perm rs') :
    (s.addAll rs).2.Alike (s.addAll rs').2 := by
  rw [addAll_store, addAll_store]
  exact foldl_equivalent_of_perm alike_equivalence (fun r h => h.add r) alike_add_swap h
    (alike_equivalence.refl s)

end Store

end DmarcReports
