import DmarcReports.Proofs.Batch
import DmarcReports.Proofs.Store.Totals

/-!
How the counters of a domain move when a report comes in.

The messages that failed are a difference of two saturating sums: once the total is full, messages
that pass are counted on the one side only, and the difference goes down. Main statement:
`growsBy_of_entry`, which says exactly when.
-/

set_option autoImplicit false
set_option relaxedAutoImplicit false

namespace DmarcReports

namespace Tally

private theorem toNat_total_add (s t : Tally) :
    (s.add t).total.toNat = min 0xFFFFFFFFFFFFFFFF (s.total.toNat + t.total.toNat) :=
  Count.toNat_satAdd _ _

private theorem toNat_passed_add (s t : Tally) :
    (s.add t).passed.toNat = min 0xFFFFFFFFFFFFFFFF (s.passed.toNat + t.passed.toNat) :=
  Count.toNat_satAdd _ _

private theorem total_le_total_add (s t : Tally) : s.total ≤ (s.add t).total := by
  have hword := s.total.toNat_lt
  rw [UInt64.le_iff_toNat_le, toNat_total_add]
  omega

private theorem passed_le_passed_add (s t : Tally) : s.passed ≤ (s.add t).passed := by
  have hword := s.passed.toNat_lt
  rw [UInt64.le_iff_toNat_le, toNat_passed_add]
  omega

private theorem passed_le_total_add {s t : Tally} (hs : s.passed ≤ s.total)
    (ht : t.passed ≤ t.total) :
    (s.add t).passed ≤ (s.add t).total := by
  rw [UInt64.le_iff_toNat_le] at hs ht ⊢
  rw [toNat_total_add, toNat_passed_add]
  omega

private theorem failed_add_lt_iff {s t : Tally} (hs : s.passed ≤ s.total)
    (ht : t.passed ≤ t.total) :
    (s.add t).failed < s.failed ↔ s.failed ≠ 0 ∧ Count.top - s.total < t.passed := by
  have hadd := passed_le_total_add hs ht
  have hroom : (Count.top - s.total).toNat = 0xFFFFFFFFFFFFFFFF - s.total.toNat := by
    apply UInt64.toNat_sub_of_le
    have hword := s.total.toNat_lt
    have htop : Count.top.toNat = 0xFFFFFFFFFFFFFFFF := rfl
    rw [UInt64.le_iff_toNat_le]
    omega
  have hzero : s.failed ≠ 0 ↔ s.total.toNat - s.passed.toNat ≠ 0 := by
    rw [← toNat_failed hs, ne_eq, ← UInt64.toNat_inj]
    rfl
  rw [hzero, UInt64.lt_iff_toNat_lt, UInt64.lt_iff_toNat_lt, toNat_failed hs, toNat_failed hadd,
    hroom, toNat_total_add, toNat_passed_add]
  rw [UInt64.le_iff_toNat_le] at hs ht
  have hword := s.total.toNat_lt
  omega

end Tally

structure DomainSummary.GrowsBy (m after : DomainSummary) (r : Report) : Prop where
  total : m.tally.total ≤ after.tally.total
  passed : m.tally.passed ≤ after.tally.passed
  processed : after.reportsProcessed = m.reportsProcessed + 1
  failed : after.tally.failed < m.tally.failed ↔
    m.tally.failed ≠ 0 ∧ Count.top - m.tally.total < r.tally.passed

private theorem Ledger.KeepsAccount.growsBy {l : Ledger} {hs : List Report} (h : l.KeepsAccount hs)
    (domain : String) (r : Report) : (l.summary domain).GrowsBy ((l.file r).summary domain) r := by
  have hle : l.tally.passed ≤ l.tally.total := by
    rw [h.tally]
    exact Tally.passed_le_total_ofRecords _
  refine ⟨Tally.total_le_total_add _ _, Tally.passed_le_passed_add _ _, rfl, ?_⟩
  exact Tally.failed_add_lt_iff hle r.counts_tally.passed_le

namespace Ingestor

/-- How far a batch is when it has filed so many of its uploads. -/
def progressAfter (g : Ingestor) (choice : Nat → Nat) (s : Store) (us : List Upload) (n : Nat) :
    Progress :=
  ((us.zip (g.parseAll choice us)).take n).foldl Progress.apply { store := s }

private theorem progressAfter_add_one (g : Ingestor) (choice : Nat → Nat) (s : Store)
    {us : List Upload} {n : Nat} {u : Upload} (hu : us[n]? = some u) :
    g.progressAfter choice s us (n + 1) =
      (g.progressAfter choice s us n).apply (u, u.parse g.limits) := by
  have hnext : (us.zip (us.map (Upload.parse g.limits)))[n]? = some (u, u.parse g.limits) := by
    rw [List.getElem?_zip_eq_some, List.getElem?_map, hu]
    exact ⟨rfl, rfl⟩
  rw [progressAfter, progressAfter, parseAll_eq, List.take_add_one, hnext, List.foldl_append]
  rfl

/-- A batch in progress has done nothing to the store but to add reports. -/
private theorem exists_run_foldl_apply (p : Progress) (cs : List Store.Change)
    (hp : p.store = Store.run cs) (work : List (Upload × Except Rejection Report)) :
    ∃ cs', (work.foldl Progress.apply p).store = Store.run cs' := by
  induction work generalizing p cs with
  | nil => exact ⟨cs, hp⟩
  | cons x work ih =>
    rw [List.foldl_cons]
    obtain ⟨u, parsed⟩ := x
    cases parsed with
    | ok r =>
      apply ih _ (cs ++ [.add r])
      rw [Store.run_concat, ← hp]
      rfl
    | error e => exact ih _ cs hp

end Ingestor

namespace Store

/-- The ways in which a report gets into a store, with the store before and after: as it is, from an
upload, or from the upload at some place of a batch. -/
inductive Entry (s : Store) (r : Report) : Store → Store → Prop where
  | filed : Entry s r s (s.add r).2
  | ingested (g : Ingestor) (u : Upload) (hu : u.parse g.limits = .ok r) :
    Entry s r s (g.ingest s u).2
  | batched (g : Ingestor) (choice : Nat → Nat) (us : List Upload) (n : Nat) (u : Upload)
    (hn : us[n]? = some u) (hu : u.parse g.limits = .ok r) :
    Entry s r (g.progressAfter choice s us n).store (g.progressAfter choice s us (n + 1)).store

private theorem Entry.exists_run {cs : List Change} {r : Report} {before after : Store}
    (h : Entry (run cs) r before after) : ∃ cs', before = run cs' ∧ after = (run cs').apply (.add r) := by
  cases h with
  | filed => exact ⟨cs, rfl, rfl⟩
  | ingested g u hu =>
    refine ⟨cs, rfl, ?_⟩
    rw [Ingestor.ingest, hu]
    rfl
  | batched g choice us n u hn hu =>
    obtain ⟨cs', hcs'⟩ := Ingestor.exists_run_foldl_apply { store := run cs } cs rfl
      ((us.zip (g.parseAll choice us)).take n)
    refine ⟨cs', hcs', ?_⟩
    rw [g.progressAfter_add_one choice (run cs) hn, hu, ← hcs']
    rfl

/-- However a report gets into a store, no counter of its domain goes down, except that failures do
where the total has no room left for the messages that passed. -/
theorem growsBy_of_entry {cs : List Change} {r : Report} {before after : Store}
    (hentry : Entry (run cs) r before after) {m : DomainSummary}
    (hm : before.summary? r.filedUnder = some m) :
    ∃ m', after.summary? r.filedUnder = some m' ∧ m.GrowsBy m' r := by
  obtain ⟨cs', rfl, rfl⟩ := hentry.exists_run
  rw [summary?, Option.map_eq_some_iff] at hm
  obtain ⟨l, hl, rfl⟩ := hm
  have hhistory : Ledger.ofHistory? (history r.filedUnder cs') = some l := by rw [← ledgers_run, hl]
  refine ⟨(l.file r).summary r.filedUnder, ?_, ?_⟩
  · simp only [summary?, apply, ledgers_add, hl, if_true, Option.map_some, Option.getD_some]
  · exact (Ledger.keepsAccount_of_ofHistory? hhistory).growsBy r.filedUnder r

/-- A report with as many failures as a count can say, and behind it one with five passes. -/
theorem growsBy_of_entry_full :
    let full : Report := .new {} { domain := "b.example" } [{ count := Count.top }]
    let r : Report :=
      .new {} { domain := "b.example" } [{ count := 5, spfResult := passResult }]
    let m : DomainSummary := ⟨"b.example", ⟨Count.top, 0⟩, 1, { domain := "b.example" }⟩
    (run [.add full]).summary? r.filedUnder = some m ∧
      ∃ m', ((run [.add full]).add r).2.summary? r.filedUnder = some m' ∧ m.GrowsBy m' r := by
  intro full r m
  have hm : (run [.add full]).summary? r.filedUnder = some m := by decide
  exact ⟨hm, growsBy_of_entry Entry.filed hm⟩

/-- There the failures get fewer by five. -/
theorem failed_lt_of_full_total :
    let full : Report := .new {} { domain := "b.example" } [{ count := Count.top }]
    let r : Report :=
      .new {} { domain := "b.example" } [{ count := 5, spfResult := passResult }]
    ((run [.add full]).summary? "b.example").map (fun m => m.tally.failed) =
        some 18446744073709551615 ∧
      (((run [.add full]).add r).2.summary? "b.example").map (fun m => m.tally.failed) =
        some 18446744073709551610 := by
  decide

end Store

end DmarcReports
