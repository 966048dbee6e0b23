import DmarcReports.Proofs.Store.History
import DmarcReports.Store.Summary

/-!
Which domains a store knows.

Main statement: `knows_run`.
-/

set_option autoImplicit false
set_option relaxedAutoImplicit false

namespace DmarcReports.Store

theorem contains_iff (s : Store) (domain : String) :
    s.contains domain = true ↔ ∃ l, s.ledgers[domain]? = some l := by
  rw [contains, Std.TreeMap.contains_eq_isSome_getElem?, Option.isSome_iff_exists]

theorem contains_add (s : Store) (r : Report) (domain : String) :
    (s.add r).2.contains domain = (decide (r.filedUnder = domain) || s.contains domain) := by
  simp only [contains, Std.TreeMap.contains_eq_isSome_getElem?, ledgers_add]
  split
  · rename_i hd
    simp [hd]
  · rename_i hd
    simp [hd]

theorem add_fst (s : Store) (r : Report) : (s.add r).1 = !s.contains r.filedUnder := by
  rw [contains, Std.TreeMap.contains_eq_isSome_getElem?]
  unfold add
  split
  · rename_i l hl
    rw [hl]
    rfl
  · rename_i hl
    rw [hl]
    rfl

theorem delete_fst (s : Store) (domain : String) : (s.delete domain).1 = s.contains domain := by
  rw [contains, Std.TreeMap.contains_eq_isSome_getElem?]
  unfold delete
  split
  · rename_i l hl
    rw [hl]
    rfl
  · rename_i hl
    rw [hl]
    rfl

theorem mem_domains_iff (s : Store) (domain : String) :
    domain ∈ s.domains ↔ s.contains domain = true :=
  Std.TreeMap.mem_keys

theorem pairwise_domains (s : Store) : s.domains.Pairwise (· < ·) := by
  have hordered : s.domains.Pairwise fun a b => compare a b = .lt := Std.TreeMap.ordered_keys
  refine hordered.imp ?_
  intro a b hab
  exact compareOfLessAndEq_eq_lt.mp hab

theorem map_domain_summaries (s : Store) : s.summaries.map DomainSummary.domain = s.domains := by
  rw [summaries, domains, List.map_map, ← Std.TreeMap.map_fst_toList_eq_keys]
  rfl

theorem mem_summaries_iff (s : Store) (m : DomainSummary) :
    m ∈ s.summaries ↔ s.summary? m.domain = some m := by
  rw [summaries, List.mem_map, summary?, Option.map_eq_some_iff]
  constructor
  · rintro ⟨⟨domain, l⟩, hmem, rfl⟩
    exact ⟨l, Std.TreeMap.mem_toList_iff_getElem?_eq_some.mp hmem, rfl⟩
  · rintro ⟨l, hl, hm⟩
    exact ⟨(m.domain, l), Std.TreeMap.mem_toList_iff_getElem?_eq_some.mpr hl, hm⟩

theorem contains_run_iff (cs : List Change) (domain : String) :
    (run cs).contains domain = true ↔ history domain cs ≠ [] := by
  rw [contains_iff, ledgers_run, ← Option.isSome_iff_exists, ne_eq,
    ← Ledger.ofHistory?_eq_none_iff, ← ne_eq, Option.isSome_iff_ne_none]

end DmarcReports.Store
