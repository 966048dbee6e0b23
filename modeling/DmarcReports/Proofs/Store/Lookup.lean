import DmarcReports.Proofs.Store.Listing

/-!
One report of a domain, and its entry in the listing.

The lookup and the listing read one history in two orders: the lookup from the newest end, the
listing by the ends of the reports. Main statement: `report?_run_latest`.
-/

set_option autoImplicit false
set_option relaxedAutoImplicit false

namespace DmarcReports

private theorem find?_eq_some_of_pairwise {α : Type} {R : α → α → Prop} {sought : α → Bool}
    {as : List α} {a : α} (hordered : as.Pairwise R) (ha : a ∈ as) (hsought : sought a = true)
    (hfirst : ∀ b ∈ as, sought b = true → ¬R b a) : as.find? sought = some a := by
  induction as with
  | nil => cases ha
  | cons b as ih =>
    obtain ⟨hb, has⟩ := List.pairwise_cons.mp hordered
    rcases List.mem_cons.mp ha with rfl | hmem
    · exact List.find?_cons_of_pos hsought
    · have hpassed : ¬sought b = true := fun h => hfirst b List.mem_cons_self h (hb a hmem)
      rw [List.find?_cons_of_neg hpassed]
      exact ih has hmem fun c hc => hfirst c (List.mem_cons_of_mem b hc)

namespace Report

/-- That a report of a history, with its place in it, is the last one filed with an identifier. -/
structure Latest (hs : List Report) (reportId : String) (x : Report × Nat) : Prop where
  filed : hs[x.2]? = some x.1
  named : x.1.metadata.reportId = reportId
  last : ∀ (place : Nat) (r : Report), hs[place]? = some r → r.metadata.reportId = reportId →
    place ≤ x.2

private theorem latest_concat (hs : List Report) (r : Report) :
    Latest (hs ++ [r]) r.metadata.reportId (r, hs.length) where
  filed := List.getElem?_concat_length
  named := rfl
  last place r' hr' _ := by
    have hplace := (List.getElem?_eq_some_iff.mp hr').1
    rw [List.length_append, List.length_singleton] at hplace
    exact Nat.le_of_lt_succ hplace

private theorem Latest.concat_of_ne {hs : List Report} {reportId : String} {x : Report × Nat}
    (h : Latest hs reportId x) {r : Report} (hr : r.metadata.reportId ≠ reportId) :
    Latest (hs ++ [r]) reportId x where
  filed := by
    have hplace := (List.getElem?_eq_some_iff.mp h.filed).1
    rw [List.getElem?_append_left hplace, h.filed]
  named := h.named
  last place r' hr' hnamed := by
    have hplace := (List.getElem?_eq_some_iff.mp hr').1
    rw [List.length_append, List.length_singleton] at hplace
    rcases Nat.lt_succ_iff_lt_or_eq.mp hplace with hbefore | rfl
    · rw [List.getElem?_append_left hbefore] at hr'
      exact h.last place r' hr' hnamed
    · rw [List.getElem?_concat_length, Option.some.injEq] at hr'
      exact absurd (hr' ▸ hnamed) hr

private theorem exists_latest_of_find? {hs : List Report} {reportId : String} {r : Report}
    (h : hs.reverse.find? (·.metadata.reportId == reportId) = some r) :
    ∃ place, Latest hs reportId (r, place) := by
  -- The search starts where the history grows, so the induction is from that end.
  induction hs using List.reverseRecOn with
  | nil => cases h
  | append_singleton hs newest ih =>
    rw [List.reverse_concat, List.find?_cons] at h
    split at h
    · rename_i hnewest
      obtain rfl := Option.some.inj h
      exact ⟨hs.length, beq_iff_eq.mp hnewest ▸ latest_concat hs newest⟩
    · rename_i hnewest
      obtain ⟨place, hlatest⟩ := ih h
      exact ⟨place, hlatest.concat_of_ne (beq_eq_false_iff_ne.mp hnewest)⟩

/-- The latest report of an identifier stands before all entries of that identifier and its end. -/
private theorem Arranges.find?_latest {xs : List (Report × Nat)} {hs : List Report}
    {reportId : String} {x : Report × Nat} (hxs : Arranges xs hs) (hx : Latest hs reportId x) :
    xs.find? (fun y => y.1.metadata.reportId == reportId &&
      y.1.metadata.endTime == x.1.metadata.endTime) = some x := by
  have hmem (y : Report × Nat) : y ∈ xs ↔ hs[y.2]? = some y.1 := by
    rw [hxs.complete.mem_iff, List.mem_zipIdx_iff_getElem?]
  apply find?_eq_some_of_pairwise hxs.ordered ((hmem x).mpr hx.filed)
  · simp [hx.named]
  · intro y hy hsought
    obtain ⟨hnamed, hends⟩ : y.1.metadata.reportId = reportId ∧
        y.1.metadata.endTime = x.1.metadata.endTime := by simpa using hsought
    have hplace : y.2 ≤ x.2 := hx.last y.2 y.1 ((hmem y).mp hy) hnamed
    rintro (hlater | ⟨-, hbehind⟩)
    · exact Int64.lt_irrefl (hends ▸ hlater)
    · exact Nat.not_lt.mpr hplace hbehind

end Report

namespace Store

private theorem report?_run (cs : List Change) (domain reportId : String) :
    (run cs).report? domain reportId =
      (history domain cs).reverse.find? (·.metadata.reportId == reportId) := by
  rw [report?, ledgers_run]
  cases hl : Ledger.ofHistory? (history domain cs) with
  | none =>
    rw [(Ledger.ofHistory?_eq_none_iff _).mp hl]
    rfl
  | some l =>
    rw [← (Ledger.keepsAccount_of_ofHistory? hl).reports]
    rfl

private theorem report?_add_of_ne (s : Store) {r : Report} {domain reportId : String}
    (h : r.metadata.reportId ≠ reportId ∨ r.filedUnder ≠ domain) :
    (s.add r).2.report? domain reportId = s.report? domain reportId := by
  rw [report?, report?, ledgers_add]
  split
  · rename_i hdomain
    -- The new report is the first one that is looked at, and it has another identifier.
    have hpassed : ¬(r.metadata.reportId == reportId) = true := by
      rw [beq_iff_eq]
      exact h.resolve_right (not_not.mpr hdomain)
    have hfile (l : Ledger) : (l.file r).find? reportId = l.find? reportId :=
      List.find?_cons_of_neg hpassed
    cases s.ledgers[domain]? with
    | none => exact hfile { policy := r.policy }
    | some l => exact hfile l
  · rfl

private theorem isSome_report?_run_iff (cs : List Change) (domain reportId : String) :
    ((run cs).report? domain reportId).isSome = true ↔
      ∃ e ∈ (run cs).entries domain none, e.reportId = reportId := by
  have hlisted (r : Report) : r ∈ (run cs).reports domain none ↔ r ∈ history domain cs := by
    rw [reports_run]
    exact (Report.arranges_arranged (history domain cs)).perm.mem_iff
  rw [report?_run, List.find?_isSome]
  constructor
  · rintro ⟨r, hr, hnamed⟩
    rw [List.mem_reverse, ← hlisted] at hr
    exact ⟨_, List.mem_map_of_mem hr, beq_iff_eq.mp hnamed⟩
  · rintro ⟨e, he, hnamed⟩
    obtain ⟨r, hr, rfl⟩ := List.mem_map.mp he
    rw [hlisted, ← List.mem_reverse] at hr
    exact ⟨r, hr, beq_iff_eq.mpr hnamed⟩

/-- After any changes an identifier can be looked up just when the listing shows it. What is found
is the report of it that was filed last, which the listing shows before all others of its identifier
and end. A report of another identifier or another domain changes nothing of that. -/
theorem report?_run_latest (cs : List Change) (domain reportId : String) :
    (((run cs).report? domain reportId).isSome = true ↔
        ∃ e ∈ (run cs).entries domain none, e.reportId = reportId) ∧
      (∀ r, (run cs).report? domain reportId = some r →
        ReportEntry.ofReport r ∈ (run cs).entries domain none ∧
        ∃ xs place, Report.Arranges xs (history domain cs) ∧
          (run cs).entries domain none = xs.map (fun x => ReportEntry.ofReport x.1) ∧
          Report.Latest (history domain cs) reportId (r, place) ∧
          xs.find? (fun x => x.1.metadata.reportId == reportId &&
            x.1.metadata.endTime == r.metadata.endTime) = some (r, place)) ∧
      ∀ r, r.metadata.reportId ≠ reportId ∨ r.filedUnder ≠ domain →
        ((run cs).add r).2.report? domain reportId = (run cs).report? domain reportId := by
  refine ⟨isSome_report?_run_iff cs domain reportId, fun r hr => ?_,
    fun r hr => (run cs).report?_add_of_ne hr⟩
  rw [report?_run] at hr
  obtain ⟨place, hlatest⟩ := Report.exists_latest_of_find? hr
  have harranged := Report.arranges_arranged (history domain cs)
  have hfound := harranged.find?_latest hlatest
  refine ⟨?_, _, place, harranged, entries_run cs domain, hlatest, hfound⟩
  rw [entries_run]
  exact List.mem_map_of_mem (List.mem_of_find?_eq_some hfound)

/-- Three reports of one identifier: the first one ends last, and the other two end together. -/
theorem report?_run_latest_of_three :
    let report (reportId p : String) (endTime : Int64) : Report :=
      .new { reportId, endTime } { domain := "b.example", p } []
    let cs := [
      Change.add (report "8" "none" 3), .delete "b.example", .add (report "7" "none" 9),
      .add (report "7" "none" 5), .add (report "7" "reject" 5)]
    (run cs).report? "b.example" "7" = some (report "7" "reject" 5) ∧
      (∃ xs place, Report.Arranges xs (history "b.example" cs) ∧
        (run cs).entries "b.example" none = xs.map (fun x => ReportEntry.ofReport x.1) ∧
        Report.Latest (history "b.example" cs) "7" (report "7" "reject" 5, place) ∧
        xs.find? (fun x => x.1.metadata.reportId == "7" && x.1.metadata.endTime == 5) =
          some (report "7" "reject" 5, place)) ∧
      ((run cs).add (report "8" "none" 9)).2.report? "b.example" "7" =
        (run cs).report? "b.example" "7" := by
  intro report cs
  obtain ⟨-, hlatest, hothers⟩ := report?_run_latest cs "b.example" "7"
  have hfound : (run cs).report? "b.example" "7" = some (report "7" "reject" 5) := by decide
  have hother : (report "8" "none" 9).metadata.reportId ≠ "7" := by decide
  exact ⟨hfound, (hlatest _ hfound).2, hothers _ (Or.inl hother)⟩

end Store

end DmarcReports
