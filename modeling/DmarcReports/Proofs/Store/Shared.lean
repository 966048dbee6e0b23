import DmarcReports.Proofs.Store.Membership
import DmarcReports.Proofs.Store.State
import DmarcReports.Store.Shared

/-!
A shared store and the ledgers that it shows.

The domain that a state names is the one under which its handle is found, and a state with a handle
is never retired. Main statement: `Shows.agrees`.
-/

set_option autoImplicit false
set_option relaxedAutoImplicit false

namespace DmarcReports.SharedStore

/-- That the handles of a store lead to the states of these ledgers, and to all that are in use. -/
structure Shows (s : SharedStore) (t : Store) : Prop where
  known : ∀ (domain : String) (n : Nat), s.handles[domain]? = some n →
    ∃ st l, s.states[n]? = some st ∧ t.ledgers[domain]? = some l ∧ st.Keeps domain l
  unknown : ∀ domain : String, s.handles[domain]? = none → t.ledgers[domain]? = none
  mapped : ∀ (n : Nat) (st : DomainState), s.states[n]? = some st → st.retired = false →
    s.handles[st.summary.domain]? = some n

theorem shows_empty : Shows {} Store.empty where
  known domain n hn := by simp at hn
  unknown domain _ := Store.ledgers_empty domain
  mapped n st hst := by simp at hst

variable {s : SharedStore} {t : Store}

theorem contains_of_some {domain : String} {n : Nat} (hn : s.handles[domain]? = some n) :
    s.contains domain = true := by
  rw [contains, Std.HashMap.contains_eq_isSome_getElem?, hn]
  rfl

private theorem contains_of_none {domain : String} (hn : s.handles[domain]? = none) :
    s.contains domain = false := by
  rw [contains, Std.HashMap.contains_eq_isSome_getElem?, hn]
  rfl

namespace Shows

/-- A state with a handle is in use, and it names the domain under which the handle is found. -/
theorem current_of_handle (h : s.Shows t) {domain : String} {n : Nat} {st : DomainState}
    (hn : s.handles[domain]? = some n) (hst : s.states[n]? = some st) :
    st.retired = false ∧ st.summary.domain = domain := by
  obtain ⟨st', l, hst', -, hkeeps⟩ := h.known domain n hn
  obtain rfl := Option.some.inj (hst.symm.trans hst')
  exact ⟨hkeeps.current, hkeeps.domain_eq⟩

private theorem domain_unique (h : s.Shows t) {domain domain' : String} {n : Nat}
    (hn : s.handles[domain]? = some n) (hn' : s.handles[domain']? = some n) :
    domain = domain' := by
  obtain ⟨st, l, hst, -, -⟩ := h.known domain n hn
  obtain ⟨-, hnamed⟩ := h.current_of_handle hn hst
  obtain ⟨-, hnamed'⟩ := h.current_of_handle hn' hst
  exact hnamed.symm.trans hnamed'

theorem contains_eq (h : s.Shows t) (domain : String) : s.contains domain = t.contains domain := by
  rw [Store.contains, Std.TreeMap.contains_eq_isSome_getElem?]
  cases hn : s.handles[domain]? with
  | none =>
    rw [contains_of_none hn, h.unknown domain hn]
    rfl
  | some n =>
    obtain ⟨st, l, -, hl, -⟩ := h.known domain n hn
    rw [contains_of_some hn, hl]
    rfl

theorem file (h : s.Shows t) {r : Report} {n : Nat} (hn : s.handles[r.filedUnder]? = some n) :
    Shows { s with states := s.states.modify n (·.file r) } (t.add r).2 where
  known domain m hm := by
    obtain ⟨st, l, hst, hl, hkeeps⟩ := h.known domain m hm
    by_cases hdomain : r.filedUnder = domain
    · subst hdomain
      obtain rfl := Option.some.inj (hn.symm.trans hm)
      refine ⟨st.file r, l.file r, ?_, ?_, hkeeps.file r⟩
      · simp [Array.getElem?_modify, hst]
      · simp [Store.ledgers_add, hl]
    · have hne : n ≠ m := fun heq => hdomain (h.domain_unique hn (heq ▸ hm))
      refine ⟨st, l, ?_, ?_, hkeeps⟩
      · rw [Array.getElem?_modify, if_neg hne, hst]
      · rw [Store.ledgers_add, if_neg hdomain, hl]
  unknown domain hdomain := by
    have hne : r.filedUnder ≠ domain := by
      rintro rfl
      exact nomatch hn.symm.trans hdomain
    rw [Store.ledgers_add, if_neg hne, h.unknown domain hdomain]
  mapped m st hst hcurrent := by
    rw [Array.getElem?_modify] at hst
    split at hst
    · rename_i heq
      subst heq
      obtain ⟨before, hbefore, rfl⟩ := Option.map_eq_some_iff.mp hst
      exact h.mapped n before hbefore hcurrent
    · exact h.mapped m st hst hcurrent

theorem start (h : s.Shows t) {r : Report} (hn : s.handles[r.filedUnder]? = none) :
    Shows {
      states := s.states.push (.start r.filedUnder r)
      handles := s.handles.insert r.filedUnder s.states.size } (t.add r).2 where
  known domain m hm := by
    rw [Std.HashMap.getElem?_insert] at hm
    split at hm
    · rename_i hdomain
      obtain rfl := beq_iff_eq.mp hdomain
      obtain rfl := Option.some.inj hm
      refine ⟨_, _, Array.getElem?_push_size, ?_, DomainState.keeps_start r.filedUnder r⟩
      simp [Store.ledgers_add, h.unknown _ hn]
    · rename_i hdomain
      obtain ⟨st, l, hst, hl, hkeeps⟩ := h.known domain m hm
      refine ⟨st, l, ?_, ?_, hkeeps⟩
      · obtain ⟨hlt, -⟩ := Array.getElem?_eq_some_iff.mp hst
        rw [Array.getElem?_push_lt hlt, ← hst, Array.getElem?_eq_getElem hlt]
      · rw [Store.ledgers_add, if_neg (by simpa using hdomain), hl]
  unknown domain hdomain := by
    rw [Std.HashMap.getElem?_insert] at hdomain
    split at hdomain
    · cases hdomain
    · rename_i hne
      rw [Store.ledgers_add, if_neg (by simpa using hne), h.unknown domain hdomain]
  mapped m st hst hcurrent := by
    rw [Array.getElem?_push] at hst
    split at hst
    · rename_i hsize
      obtain rfl := Option.some.inj hst
      rw [(DomainState.keeps_start r.filedUnder r).domain_eq, Std.HashMap.getElem?_insert_self,
        hsize]
    · -- A state that was there does not name the new domain, or the domain had a handle.
      have hm := h.mapped m st hst hcurrent
      have hne : r.filedUnder ≠ st.summary.domain := by
        intro heq
        rw [← heq, hn] at hm
        cases hm
      rw [Std.HashMap.getElem?_insert, if_neg (by simpa using hne), hm]

private theorem forget (h : s.Shows t) {domain : String} {n : Nat}
    (hn : s.handles[domain]? = some n) :
    Shows {
      states := s.states.modify n DomainState.retire
      handles := s.handles.erase domain } (t.delete domain).2 where
  known other m hm := by
    rw [Std.HashMap.getElem?_erase] at hm
    split at hm
    · cases hm
    · rename_i hother
      obtain ⟨st, l, hst, hl, hkeeps⟩ := h.known other m hm
      have hne : domain ≠ other := by simpa using hother
      have hhandle : n ≠ m := fun heq => hne (h.domain_unique hn (heq ▸ hm))
      refine ⟨st, l, ?_, ?_, hkeeps⟩
      · rw [Array.getElem?_modify, if_neg hhandle, hst]
      · rw [Store.ledgers_delete, if_neg hne, hl]
  unknown other hother := by
    rw [Std.HashMap.getElem?_erase] at hother
    rw [Store.ledgers_delete]
    split
    · rfl
    · rename_i hne
      exact h.unknown other (by simpa [hne] using hother)
  mapped m st hst hcurrent := by
    rw [Array.getElem?_modify] at hst
    split at hst
    · obtain ⟨before, -, rfl⟩ := Option.map_eq_some_iff.mp hst
      cases hcurrent
    · rename_i hne
      have hm := h.mapped m st hst hcurrent
      have hdomain : domain ≠ st.summary.domain := by
        intro heq
        rw [← heq, hn] at hm
        exact hne (Option.some.inj hm)
      rw [Std.HashMap.getElem?_erase, if_neg (by simpa using hdomain), hm]

theorem create (h : s.Shows t) (r : Report) :
    (s.create r).1 = (t.add r).1 ∧ (s.create r).2.Shows (t.add r).2 := by
  rw [Store.add_fst, ← h.contains_eq]
  cases hn : s.handles[r.filedUnder]? with
  | none =>
    rw [contains_of_none hn, SharedStore.create, hn]
    exact ⟨rfl, h.start hn⟩
  | some n =>
    rw [contains_of_some hn, SharedStore.create, hn]
    exact ⟨rfl, h.file hn⟩

theorem delete (h : s.Shows t) (domain : String) :
    (s.delete domain).1 = (t.delete domain).1 ∧ (s.delete domain).2.Shows (t.delete domain).2 := by
  rw [Store.delete_fst, ← h.contains_eq]
  cases hn : s.handles[domain]? with
  | none =>
    have hl : t.delete domain = (false, t) := by
      rw [Store.delete, h.unknown domain hn]
    rw [contains_of_none hn, SharedStore.delete, hn, hl]
    exact ⟨rfl, h⟩
  | some n =>
    rw [contains_of_some hn, SharedStore.delete, hn]
    exact ⟨rfl, h.forget hn⟩

end Shows

theorem getElem?_foldl_retire (ns : List Nat) (states : Array DomainState) (n : Nat) :
    (ns.foldl (·.modify · DomainState.retire) states)[n]? =
      if n ∈ ns then states[n]?.map DomainState.retire else states[n]? := by
  induction ns generalizing states with
  | nil => simp
  | cons m ns ih =>
    rw [List.foldl_cons, ih, Array.getElem?_modify]
    by_cases hm : m = n
    · subst hm
      cases states[m]? <;> simp [DomainState.retire]
    · simp [hm, Ne.symm hm]

theorem Shows.clear (h : s.Shows t) : s.clear.Shows t.clear where
  known domain n hn := by simp [SharedStore.clear] at hn
  unknown domain _ := Store.ledgers_empty domain
  mapped n st hst hcurrent := by
    rw [SharedStore.clear, getElem?_foldl_retire] at hst
    split at hst
    · obtain ⟨before, -, rfl⟩ := Option.map_eq_some_iff.mp hst
      cases hcurrent
    · -- A state without a handle was retired before.
      rename_i hunmapped
      have hn := Std.HashMap.mem_toList_iff_getElem?_eq_some.mpr (h.mapped n st hst hcurrent)
      exact absurd (List.mem_map_of_mem hn) hunmapped

/-- A known domain has a state that keeps its ledger, and an unknown one has none. -/
theorem Shows.state? (h : s.Shows t) (domain : String) :
    (∃ st l, s.state? domain = some st ∧ t.ledgers[domain]? = some l ∧ st.Keeps domain l) ∨
      s.state? domain = none ∧ t.ledgers[domain]? = none := by
  unfold SharedStore.state?
  cases hn : s.handles[domain]? with
  | none => exact Or.inr ⟨rfl, h.unknown domain hn⟩
  | some n =>
    obtain ⟨st, l, hst, hl, hkeeps⟩ := h.known domain n hn
    refine Or.inl ⟨st, l, ?_, hl, hkeeps⟩
    rw [Option.bind_some, hst, Option.filter_some, hkeeps.current]
    rfl

private theorem Shows.keys_perm (h : s.Shows t) : s.handles.keys.Perm t.domains := by
  have hdistinct : t.domains.Nodup := Std.TreeMap.nodup_keys
  rw [List.perm_ext_iff_of_nodup Std.HashMap.nodup_keys hdistinct]
  intro domain
  rw [Std.HashMap.mem_keys, ← Std.HashMap.contains_iff_mem, Store.mem_domains_iff,
    ← h.contains_eq]
  rfl

/-- Sorting by a key finds the one arrangement in which the key ascends. -/
private theorem mergeSort_eq_of_ascending {α : Type} (key : α → String) {xs ys : List α}
    (hperm : xs.Perm ys) (hascending : ys.Pairwise fun a b => key a < key b) :
    xs.mergeSort (fun a b => key a ≤ key b) = ys := by
  have hsorted : (xs.mergeSort fun a b => key a ≤ key b).Pairwise
      fun a b => decide (key a ≤ key b) = true :=
    List.pairwise_mergeSort (fun a b c => by simpa using String.le_trans)
      (fun a b => by simpa using String.le_total (key a) (key b)) xs
  have hweak : ys.Pairwise fun a b => decide (key a ≤ key b) = true :=
    hascending.imp fun hab => decide_eq_true (Std.le_of_lt hab)
  have hdistinct : (ys.map key).Nodup :=
    List.pairwise_map.mpr (hascending.imp fun hab => Std.ne_of_lt hab)
  refine ((List.mergeSort_perm _ _).trans hperm).eq_of_pairwise ?_ hsorted hweak
  intro a b ha hb hab hba
  exact List.inj_on_of_nodup_map hdistinct (hperm.mem_iff.mp (List.mem_mergeSort.mp ha)) hb
    (String.le_antisymm (of_decide_eq_true hab) (of_decide_eq_true hba))

private theorem Shows.domains_eq (h : s.Shows t) : s.domains = t.domains :=
  mergeSort_eq_of_ascending id h.keys_perm (Store.pairwise_domains t)

private theorem Shows.size_eq (h : s.Shows t) : s.size = t.size := by
  have hlength := h.keys_perm.length_eq
  rwa [Std.HashMap.length_keys, Store.domains, Std.TreeMap.length_keys] at hlength

private theorem Shows.summary?_eq (h : s.Shows t) (domain : String) :
    s.summary? domain = (t.summary? domain).map .ofSummary := by
  unfold summary? Store.summary?
  obtain ⟨st, l, hst, hl, hkeeps⟩ | ⟨hst, hl⟩ := h.state? domain
  · rw [hst, hl, Option.map_some, hkeeps.summary]
    rfl
  · rw [hst, hl]
    rfl

private theorem Shows.entries_eq (h : s.Shows t) (domain : String) (limit : Option Nat) :
    s.entries domain limit = t.entries domain limit := by
  have hlisted : ((s.state? domain).map DomainState.listing).getD [] =
      (t.ledgers[domain]?.map Ledger.listing).getD [] := by
    obtain ⟨st, l, hst, hl, hkeeps⟩ | ⟨hst, hl⟩ := h.state? domain
    · rw [hst, hl, Option.map_some, Option.map_some, hkeeps.listing_eq]
    · rw [hst, hl]
      rfl
  cases limit with
  | none => exact congrArg (List.map ReportEntry.ofReport) hlisted
  | some n => exact congrArg (fun rs => (rs.take n).map ReportEntry.ofReport) hlisted

private theorem Shows.report?_eq (h : s.Shows t) (domain reportId : String) :
    s.report? domain reportId = t.report? domain reportId := by
  unfold report? Store.report?
  obtain ⟨st, l, hst, hl, hkeeps⟩ | ⟨hst, hl⟩ := h.state? domain
  · rw [hst, hl, Option.bind_some, Option.bind_some, hkeeps.find?_eq]
  · rw [hst, hl]
    rfl

private theorem Shows.sources_eq (h : s.Shows t) (domain : String) :
    s.sources domain = t.sources domain := by
  unfold sources Store.sources
  obtain ⟨st, l, hst, hl, hkeeps⟩ | ⟨hst, hl⟩ := h.state? domain
  · rw [hst, hl, Option.map_some, Option.map_some, hkeeps.breakdown_eq]
  · rw [hst, hl]
    rfl

private theorem filterMap_summary?_keys (s : SharedStore) :
    s.handles.keys.filterMap s.summary? =
      (((s.handles.toList.map Prod.snd).filterMap (s.states[·]?)).filter (!·.retired)).map
        (·.summary) := by
  rw [← Std.HashMap.map_fst_toList_eq_keys, List.filterMap_map, List.filterMap_map,
    List.filter_filterMap, List.map_filterMap]
  apply List.filterMap_congr
  intro x hx
  have hn := Std.HashMap.mem_toList_iff_getElem?_eq_some.mp hx
  simp only [Function.comp_apply, summary?, state?, hn, Option.bind_some]

private theorem filterMap_summary?_domains (t : Store) :
    t.domains.filterMap t.summary? = t.summaries := by
  rw [Store.domains, ← Std.TreeMap.map_fst_toList_eq_keys, List.filterMap_map, Store.summaries,
    ← List.filterMap_eq_map]
  apply List.filterMap_congr
  intro x hx
  have hl := Std.TreeMap.mem_toList_iff_getElem?_eq_some.mp hx
  simp only [Function.comp_apply, Store.summary?, hl, Option.map_some]

private theorem Shows.summaries_eq (h : s.Shows t) :
    s.summaries = t.summaries.map .ofSummary := by
  have hfound : s.summary? = fun domain => (t.summary? domain).map .ofSummary :=
    funext h.summary?_eq
  apply mergeSort_eq_of_ascending StoredSummary.domain
  · rw [← filterMap_summary?_keys, ← filterMap_summary?_domains, List.map_filterMap, hfound]
    exact h.keys_perm.filterMap _
  · have hdomains := Store.pairwise_domains t
    rw [← Store.map_domain_summaries, List.pairwise_map] at hdomains
    exact List.pairwise_map.mpr hdomains

private theorem foldl_satAdd_ofSummary (ms : List DomainSummary) (t : Tally) :
    ((ms.map StoredSummary.ofSummary).map StoredSummary.total).foldl Count.satAdd t.total =
        ((ms.map DomainSummary.tally).foldl Tally.add t).total ∧
      ((ms.map StoredSummary.ofSummary).map StoredSummary.passed).foldl Count.satAdd t.passed =
        ((ms.map DomainSummary.tally).foldl Tally.add t).passed := by
  induction ms generalizing t with
  | nil => exact ⟨rfl, rfl⟩
  | cons m ms ih => exact ih (t.add m.tally)

private theorem ofSummaries_map_ofSummary (ms : List DomainSummary) :
    StoredOverview.ofSummaries (ms.map .ofSummary) = .ofOverview (.ofSummaries ms) := by
  obtain ⟨htotal, hpassed⟩ := foldl_satAdd_ofSummary ms Tally.zero
  rw [Tally.zero] at htotal hpassed
  simp only [StoredOverview.ofSummaries, htotal, hpassed, List.length_map, List.foldr_map]
  rfl

private theorem Shows.overview_eq (h : s.Shows t) : s.overview = .ofOverview t.overview := by
  rw [overview, h.summaries_eq, ofSummaries_map_ofSummary, Store.overview]

/-- That a store answers every question as the ledgers do. -/
structure Agrees (s : SharedStore) (t : Store) : Prop where
  domains : s.domains = t.domains
  contains : ∀ domain, s.contains domain = t.contains domain
  size : s.size = t.size
  isEmpty : s.isEmpty = t.isEmpty
  summary? : ∀ domain, s.summary? domain = (t.summary? domain).map .ofSummary
  summaries : s.summaries = t.summaries.map .ofSummary
  entries : ∀ domain limit, s.entries domain limit = t.entries domain limit
  report? : ∀ domain reportId, s.report? domain reportId = t.report? domain reportId
  sources : ∀ domain, s.sources domain = t.sources domain
  overview : s.overview = .ofOverview t.overview

theorem Shows.agrees (h : s.Shows t) : s.Agrees t where
  domains := h.domains_eq
  contains := h.contains_eq
  size := h.size_eq
  isEmpty := by
    rw [isEmpty, h.size_eq]
    exact Std.TreeMap.isEmpty_eq_size_eq_zero.symm
  summary? := h.summary?_eq
  summaries := h.summaries_eq
  entries := h.entries_eq
  report? := h.report?_eq
  sources := h.sources_eq
  overview := h.overview_eq

end DmarcReports.SharedStore
