import Mathlib.Data.List.DropRight
import DmarcReports.Store.Basic

/-!
Histories of a store.

Whatever is done to a store, what it holds for a domain depends only on the history of that domain:
the reports filed under it since it was last forgotten. Main statement: `ledgers_run`.
-/

set_option autoImplicit false
set_option relaxedAutoImplicit false

namespace DmarcReports

/-- The ledger that reports make, filed in their order; without reports there is none. -/
def Ledger.ofHistory? : List Report → Option Ledger
  | [] => none
  | r :: rs => some (rs.foldl Ledger.file (Ledger.start r))

namespace Store

namespace Change

def forgets (domain : String) : Change → Bool
  | .add _ => false
  | .delete d => d == domain
  | .clear => true

def filed? (domain : String) : Change → Option Report
  | .add r => if r.filedUnder = domain then some r else none
  | _ => none

end Change

/-- The reports filed under a domain since it was last forgotten, in the order of filing. -/
def history (domain : String) (cs : List Change) : List Report :=
  (cs.rtakeWhile fun c => !c.forgets domain).filterMap (Change.filed? domain)

theorem history_concat (domain : String) (cs : List Change) (c : Change) :
    history domain (cs ++ [c]) =
      if c.forgets domain then [] else history domain cs ++ (c.filed? domain).toList := by
  unfold history
  split
  · rename_i hc
    rw [List.rtakeWhile_concat_neg _ _ _ (by simp [hc])]
    rfl
  · rename_i hc
    rw [List.rtakeWhile_concat_pos _ _ _ (by simp [hc]), List.filterMap_append]
    cases h : c.filed? domain <;> simp [h]

theorem run_concat (cs : List Change) (c : Change) : run (cs ++ [c]) = (run cs).apply c := by
  simp only [run, List.foldl_append, List.foldl_cons, List.foldl_nil]

end Store

namespace Ledger

theorem ofHistory?_eq_none_iff (hs : List Report) : ofHistory? hs = none ↔ hs = [] := by
  cases hs <;> simp [ofHistory?]

theorem ofHistory?_concat (hs : List Report) (r : Report) :
    ofHistory? (hs ++ [r]) = some (((ofHistory? hs).map (·.file r)).getD (start r)) := by
  cases hs with
  | nil => rfl
  | cons h hs =>
    simp only [List.cons_append, ofHistory?, List.foldl_append, List.foldl_cons, List.foldl_nil,
      Option.map_some, Option.getD_some]

end Ledger

namespace Store

theorem ledgers_add (s : Store) (r : Report) (domain : String) :
    (s.add r).2.ledgers[domain]? =
      if r.filedUnder = domain then
        some ((s.ledgers[domain]?.map (·.file r)).getD (Ledger.start r))
      else s.ledgers[domain]? := by
  have hinsert (l : Ledger) : (s.ledgers.insert r.filedUnder l)[domain]? =
      if r.filedUnder = domain then some l else s.ledgers[domain]? := by
    simp only [Std.TreeMap.getElem?_insert, Std.LawfulEqCmp.compare_eq_iff_eq]
  unfold add
  split
  · rename_i l hl
    rw [hinsert]
    split
    · rename_i hd
      rw [← hd, hl]
      rfl
    · rfl
  · rename_i hl
    rw [hinsert]
    split
    · rename_i hd
      rw [← hd, hl]
      rfl
    · rfl

theorem ledgers_delete (s : Store) (d domain : String) :
    (s.delete d).2.ledgers[domain]? = if d = domain then none else s.ledgers[domain]? := by
  unfold delete
  split <;> rename_i hl
  · simp only [Std.TreeMap.getElem?_erase, Std.LawfulEqCmp.compare_eq_iff_eq]
  · split
    · rename_i hd
      exact hd ▸ hl
    · rfl

theorem ledgers_empty (domain : String) : empty.ledgers[domain]? = none :=
  Std.TreeMap.getElem?_emptyc

private theorem ledgers_apply (s : Store) (c : Change) (domain : String) :
    (s.apply c).ledgers[domain]? =
      if c.forgets domain then none
      else match c.filed? domain with
        | some r => some ((s.ledgers[domain]?.map (·.file r)).getD (Ledger.start r))
        | none => s.ledgers[domain]? := by
  cases c with
  | add r =>
    simp only [apply, ledgers_add, Change.forgets, Change.filed?]
    split <;> simp
  | delete d => simp [apply, ledgers_delete, Change.forgets, Change.filed?]
  | clear => exact ledgers_empty domain

/-- After any changes the ledger of a domain is the one that its history makes. -/
theorem ledgers_run (cs : List Change) (domain : String) :
    (run cs).ledgers[domain]? = Ledger.ofHistory? (history domain cs) := by
  -- Only the last change decides whether the history goes on, so the induction is from the end.
  induction cs using List.reverseRecOn with
  | nil => exact ledgers_empty domain
  | append_singleton cs c ih =>
    rw [run_concat, ledgers_apply, history_concat, ih]
    split
    · rfl
    · cases c.filed? domain with
      | none => simp
      | some r => exact (Ledger.ofHistory?_concat _ r).symm

end Store

end DmarcReports
