import Mathlib.Data.List.Perm.Basic
import DmarcReports.Proofs.Batch
import DmarcReports.Proofs.Filing

/-!
Batches one after the other.

Where a batch is cut in two makes no difference: the parts leave the same store and tell the same.
Main statement: `batch_append`.
-/

set_option autoImplicit false
set_option relaxedAutoImplicit false

namespace DmarcReports

private theorem eq_merge_of_mem_iff {xs ys zs : List String} (hxs : xs.Pairwise (· < ·))
    (hys : ys.Pairwise (· < ·)) (hzs : zs.Pairwise (· < ·)) (hdisjoint : xs.Disjoint ys)
    (hmem : ∀ x, x ∈ zs ↔ x ∈ xs ∨ x ∈ ys) : zs = xs.merge ys := by
  have hnodup {ws : List String} (h : ws.Pairwise (· < ·)) : ws.Nodup := by
    refine h.imp ?_
    intro a b hlt heq
    exact String.lt_irrefl b (heq ▸ hlt)
  have hle {ws : List String} (h : ws.Pairwise (· < ·)) : ws.Pairwise (· ≤ ·) :=
    h.imp fun hlt => String.not_lt.mp (String.lt_asymm hlt)
  have hperm : zs.Perm (xs.merge ys) := by
    refine List.Perm.trans ?_ (List.merge_perm_append _).symm
    have happend : (xs ++ ys).Nodup :=
      List.nodup_append'.mpr ⟨hnodup hxs, hnodup hys, hdisjoint⟩
    rw [List.perm_ext_iff_of_nodup (hnodup hzs) happend]
    intro x
    rw [hmem, List.mem_append]
  have hmerged : (xs.merge ys).Pairwise (· ≤ ·) := by
    let le : String → String → Bool := fun a b => decide (a ≤ b)
    have htrans : ∀ a b c, le a b = true → le b c = true → le a c = true := by
      intro a b c hab hbc
      exact decide_eq_true (String.le_trans (of_decide_eq_true hab) (of_decide_eq_true hbc))
    have htotal : ∀ a b, (le a b || le b a) = true := by
      intro a b
      simpa [le] using String.le_total a b
    have hsorted := List.pairwise_merge htrans htotal xs ys
      ((hle hxs).imp fun h => decide_eq_true h) ((hle hys).imp fun h => decide_eq_true h)
    exact hsorted.imp fun h => of_decide_eq_true h
  exact hperm.eq_of_pairwise (fun _ _ _ _ hab hba => String.le_antisymm hab hba) (hle hzs) hmerged

namespace Ingestor

def filing (g : Ingestor) (s : Store) (us : List Upload) : Progress :=
  (us.zip (us.map (Upload.parse g.limits))).foldl Progress.apply { store := s }

private theorem batch_eq_filing (g : Ingestor) (choice : Nat → Nat) (s : Store) (us : List Upload) :
    g.batch choice s us = ((g.filing s us).outcome, (g.filing s us).store) := by
  rw [batch, parseAll_eq]
  rfl

private theorem filing_append (g : Ingestor) (s : Store) (as bs : List Upload) :
    g.filing s (as ++ bs) =
      (bs.zip (bs.map (Upload.parse g.limits))).foldl Progress.apply (g.filing s as) := by
  rw [filing, List.map_append, List.zip_append (by rw [List.length_map]), List.foldl_append]
  rfl

/-- What a batch in progress knows of the domains, next to the store that it started with. -/
structure Progress.TracksDomains (p : Progress) (s : Store) : Prop where
  contained : ∀ domain, p.store.contains domain = true ↔
    s.contains domain = true ∨ ∃ receipt ∈ p.receipts, receipt.domain = domain
  new : ∀ domain, domain ∈ p.newDomains ↔
    p.store.contains domain = true ∧ s.contains domain = false

private theorem tracksDomains_start (s : Store) : Progress.TracksDomains { store := s } s where
  contained domain := by simp
  new domain := by simp

namespace Progress

private theorem contains_apply_ok (p : Progress) (u : Upload) {r : Report} (hr : r.domain ≠ "")
    (domain : String) :
    (p.apply (u, .ok r)).store.contains domain = true ↔
      r.domain = domain ∨ p.store.contains domain = true := by
  have hstore : (p.apply (u, .ok r)).store = (p.store.add r).2 := rfl
  rw [hstore, Store.contains_add, Report.filedUnder_of_ne_empty hr, Bool.or_eq_true,
    decide_eq_true_eq]

private theorem mem_newDomains_apply_ok (p : Progress) (u : Upload) {r : Report}
    (hr : r.domain ≠ "") (domain : String) :
    domain ∈ (p.apply (u, .ok r)).newDomains ↔
      domain ∈ p.newDomains ∨ (r.domain = domain ∧ p.store.contains domain = false) := by
  have hnew : (p.apply (u, .ok r)).newDomains =
      if (p.store.add r).1 then p.newDomains.insert r.domain else p.newDomains := rfl
  rw [hnew, Store.add_fst, Report.filedUnder_of_ne_empty hr]
  cases hknown : p.store.contains r.domain with
  | true =>
    rw [Bool.not_true, if_neg Bool.false_ne_true]
    constructor
    · exact Or.inl
    · rintro (hmem | ⟨rfl, hunknown⟩)
      · exact hmem
      · rw [hknown] at hunknown
        cases hunknown
  | false =>
    rw [Bool.not_false, if_pos rfl, Std.TreeSet.mem_insert, Std.LawfulEqCmp.compare_eq_iff_eq]
    constructor
    · rintro (rfl | hmem)
      · exact Or.inr ⟨rfl, hknown⟩
      · exact Or.inl hmem
    · rintro (hmem | ⟨rfl, -⟩)
      · exact Or.inr hmem
      · exact Or.inl rfl

private theorem TracksDomains.unknown_before {p : Progress} {s : Store} (h : p.TracksDomains s)
    {domain : String} (hunknown : p.store.contains domain = false) :
    s.contains domain = false := by
  by_contra hs
  have hp := (h.contained domain).mpr (Or.inl (eq_true_of_ne_false hs))
  rw [hunknown] at hp
  cases hp

theorem TracksDomains.apply {p : Progress} {s : Store} (h : p.TracksDomains s) (limits : Limits)
    (u : Upload) : (p.apply (u, u.parse limits)).TracksDomains s := by
  cases hparse : u.parse limits with
  | error e => exact ⟨h.contained, h.new⟩
  | ok r =>
    have hr : r.domain ≠ "" := Upload.domain_ne_empty_of_parse hparse
    constructor
    · intro domain
      have hreceipts : (p.apply (u, .ok r)).receipts = Receipt.ofReport r :: p.receipts := rfl
      have hdomain : (Receipt.ofReport r).domain = r.domain := rfl
      rw [contains_apply_ok p u hr, h.contained, hreceipts, List.exists_mem_cons_iff, hdomain]
      exact or_left_comm
    · intro domain
      rw [contains_apply_ok p u hr, mem_newDomains_apply_ok p u hr, h.new]
      cases hp : p.store.contains domain with
      | true => simp
      | false => simp [h.unknown_before hp]

theorem TracksDomains.foldl {p : Progress} {s : Store} (h : p.TracksDomains s) (limits : Limits)
    (us : List Upload) :
    ((us.zip (us.map (Upload.parse limits))).foldl Progress.apply p).TracksDomains s := by
  induction us generalizing p with
  | nil => exact h
  | cons u us ih => exact ih (h.apply limits u)

private theorem pairwise_newDomains (p : Progress) : p.outcome.newDomains.Pairwise (· < ·) := by
  have hordered : p.newDomains.toList.Pairwise fun a b => compare a b = .lt :=
    Std.TreeSet.ordered_toList
  refine hordered.imp ?_
  intro a b hab
  exact compareOfLessAndEq_eq_lt.mp hab

private theorem TracksDomains.mem_newDomains {p : Progress} {s : Store} (h : p.TracksDomains s)
    (domain : String) :
    domain ∈ p.outcome.newDomains ↔ p.store.contains domain = true ∧ s.contains domain = false :=
  Std.TreeSet.mem_toList.trans (h.new domain)

private theorem TracksDomains.mem_newDomains_iff_receipt {p : Progress} {s : Store}
    (h : p.TracksDomains s) (domain : String) :
    domain ∈ p.outcome.newDomains ↔
      s.contains domain = false ∧ ∃ receipt ∈ p.outcome.receipts, receipt.domain = domain := by
  have hreceipts : p.outcome.receipts = p.receipts.reverse := rfl
  simp only [h.mem_newDomains, h.contained, hreceipts, List.mem_reverse]
  cases s.contains domain <;> simp

end Progress

private theorem tracksDomains_filing (g : Ingestor) (s : Store) (us : List Upload) :
    (g.filing s us).TracksDomains s :=
  (tracksDomains_start s).foldl g.limits us

end Ingestor

/-- What two batches tell, taken together. -/
def BatchOutcome.followedBy (a b : BatchOutcome) : BatchOutcome where
  reportsFound := a.reportsFound + b.reportsFound
  receipts := a.receipts ++ b.receipts
  failures := a.failures ++ b.failures
  newDomains := a.newDomains.merge b.newDomains

namespace Ingestor

variable (g : Ingestor) (s : Store) (as bs : List Upload)

private theorem noted_filing :
    (g.filing s as).store = (g.ingestEach s as).2 ∧
      (g.filing s as).Noted ((g.ingestEach s as).1.filterMap Except.toOption)
        (BatchOutcome.failuresOf as (g.ingestEach s as).1) := by
  have hstart : ({ store := s } : Progress).Noted [] [] := ⟨rfl, rfl, rfl⟩
  exact hstart.foldl g as

private theorem store_filing_append :
    (g.filing s (as ++ bs)).store = (g.filing (g.filing s as).store bs).store := by
  obtain ⟨-, hfirst⟩ := noted_filing g s as
  obtain ⟨hsecond, -⟩ := noted_filing g (g.filing s as).store bs
  rw [filing_append, hsecond]
  exact (hfirst.foldl g bs).1

private theorem disjoint_newDomains :
    (g.filing s as).outcome.newDomains.Disjoint
      (g.filing (g.filing s as).store bs).outcome.newDomains := by
  intro domain hfirst hsecond
  rw [(tracksDomains_filing g s as).mem_newDomains] at hfirst
  rw [(tracksDomains_filing g (g.filing s as).store bs).mem_newDomains, hfirst.1] at hsecond
  cases hsecond.2

private theorem newDomains_filing_append :
    (g.filing s (as ++ bs)).outcome.newDomains =
      (g.filing s as).outcome.newDomains.merge
        (g.filing (g.filing s as).store bs).outcome.newDomains := by
  have hfirst := tracksDomains_filing g s as
  have hsecond := tracksDomains_filing g (g.filing s as).store bs
  apply eq_merge_of_mem_iff (Progress.pairwise_newDomains _) (Progress.pairwise_newDomains _)
    (Progress.pairwise_newDomains _) (disjoint_newDomains g s as bs)
  intro domain
  rw [(tracksDomains_filing g s (as ++ bs)).mem_newDomains, hfirst.mem_newDomains,
    hsecond.mem_newDomains, store_filing_append]
  -- A domain that is known in the end was known after the first part, or it is new in the second.
  cases hmiddle : (g.filing s as).store.contains domain with
  | false => simp [hfirst.unknown_before hmiddle]
  | true =>
    have hend : (g.filing (g.filing s as).store bs).store.contains domain = true :=
      (hsecond.contained domain).mpr (Or.inl hmiddle)
    simp [hend]

private theorem outcome_filing_append :
    (g.filing s (as ++ bs)).outcome =
      (g.filing s as).outcome.followedBy (g.filing (g.filing s as).store bs).outcome := by
  obtain ⟨-, hfirst⟩ := noted_filing g s as
  obtain ⟨-, hsecond⟩ := noted_filing g (g.filing s as).store bs
  obtain ⟨-, hwhole⟩ := hfirst.foldl g bs
  rw [← filing_append] at hwhole
  simp only [Progress.outcome, BatchOutcome.followedBy, BatchOutcome.mk.injEq]
  refine ⟨?_, ?_, ?_, newDomains_filing_append g s as bs⟩
  · rw [hwhole.found, hfirst.found, hsecond.found, List.length_append]
  · rw [hwhole.receipts, hfirst.receipts, hsecond.receipts]
  · rw [hwhole.failures, hfirst.failures, hsecond.failures]

/-- A batch makes known exactly what its store knows then and did not know before, and a batch in two
parts comes to the same as its parts one after the other. -/
theorem batch_append (g : Ingestor) (s : Store) (as bs : List Upload)
    (choice choiceA choiceB : Nat → Nat) :
    let a := g.batch choiceA s as
    let b := g.batch choiceB a.2 bs
    a.1.newDomains.Pairwise (· < ·) ∧
      (∀ domain, domain ∈ a.1.newDomains ↔
        a.2.contains domain = true ∧ s.contains domain = false) ∧
      (∀ domain, domain ∈ a.1.newDomains ↔
        s.contains domain = false ∧ ∃ receipt ∈ a.1.receipts, receipt.domain = domain) ∧
      a.1.newDomains.Disjoint b.1.newDomains ∧
      g.batch choice s (as ++ bs) = (a.1.followedBy b.1, b.2) := by
  simp only [batch_eq_filing]
  have hfirst := tracksDomains_filing g s as
  refine ⟨Progress.pairwise_newDomains _, hfirst.mem_newDomains, hfirst.mem_newDomains_iff_receipt,
    disjoint_newDomains g s as bs, ?_⟩
  rw [outcome_filing_append, store_filing_append]

def plainUpload (domain : String) : Upload where
  bytes := ("<f><policy_published><domain>" ++ domain ++ "</domain></policy_published></f>").toUTF8
  fileName := "r.xml"

/-- A pool finds one new domain, one known domain and one failure; a report of another new domain
comes without a pool. -/
theorem batch_append_mixed :
    let g : Ingestor := { limits := Limits.standard, workers := 4, minFilesForParallel := 2 }
    let s := (Store.empty.add (.new {} { domain := "b.example" } [])).2
    let as := [plainUpload "c.example", plainUpload "", plainUpload "b.example"]
    let bs := [plainUpload "a.example"]
    let a := g.batch id s as
    let b := g.batch id a.2 bs
    g.strategyFor as.length = .parallel 4 ∧ g.strategyFor bs.length = .sequential ∧
      a.1 = ⟨2, [⟨"c.example", "", 0⟩, ⟨"b.example", "", 0⟩], [("r.xml", .missingDomain)],
        ["c.example"]⟩ ∧
      b.1 = ⟨1, [⟨"a.example", "", 0⟩], [], ["a.example"]⟩ ∧
      g.batch id s (as ++ bs) =
        (⟨3, [⟨"c.example", "", 0⟩, ⟨"b.example", "", 0⟩, ⟨"a.example", "", 0⟩],
          [("r.xml", .missingDomain)], ["a.example", "c.example"]⟩, b.2) := by
  intro g s as bs a b
  have hfirst : a.1 = ⟨2, [⟨"c.example", "", 0⟩, ⟨"b.example", "", 0⟩],
      [("r.xml", .missingDomain)], ["c.example"]⟩ := by
    decide +kernel
  have hsecond : b.1 = ⟨1, [⟨"a.example", "", 0⟩], [], ["a.example"]⟩ := by
    decide +kernel
  have houtcome : a.1.followedBy b.1 =
      ⟨3, [⟨"c.example", "", 0⟩, ⟨"b.example", "", 0⟩, ⟨"a.example", "", 0⟩],
        [("r.xml", .missingDomain)], ["a.example", "c.example"]⟩ := by
    rw [hfirst, hsecond]
    simp [BatchOutcome.followedBy]
  obtain ⟨-, -, -, -, hwhole⟩ := batch_append g s as bs id id id
  exact ⟨by decide, by decide, hfirst, hsecond, hwhole.trans (congrArg (·, b.2) houtcome)⟩

end Ingestor

end DmarcReports
