import DmarcReports.Proofs.WorkPool.Run
import DmarcReports.Strategy

/-!
What comes of a pool, whatever happens in which order.

Main statement: `execute_all_or_nothing`.
-/

set_option autoImplicit false
set_option relaxedAutoImplicit false

namespace DmarcReports.WorkPool

variable {α β : Type} {process : α → Option β}

/-- Whatever moves a pool for these items makes, there are no more than so many, it stops only when
everybody is gone, and then it has what every other run has. -/
private theorem Path.settled {workers n : Nat} {items : List α} {p : WorkPool α β}
    (hitems : items ≠ []) (hpath : Path process n (start workers items) p) :
    n ≤ (start workers items : WorkPool α β).ahead ∧
      (p.moves process = [] →
        Over p ∧ ∀ choice, p.outcome = execute choice workers process items) := by
  have hlength : 0 < items.length := List.length_pos_iff.mpr hitems
  have hstart : Orderly process items _ (start workers items) := orderly_start workers items
  obtain ⟨h, hless⟩ := hstart.path (by omega) hpath
  refine ⟨by omega, fun hmoves => ?_⟩
  have hover := over_of_moves_eq_nil h.room hmoves
  exact ⟨hover, fun choice => by rw [h.outcome_eq hover, execute_eq]⟩

/-- A pool has the results of all items in their order where no item breaks down, just as if they
were worked on one after the other, and none where one does. Every run of it ends, after so many
moves at most and with nobody left waiting, and all of them come to the same. The results that
arrive make up the whole in any order, and no fewer of them do. -/
theorem execute_all_or_nothing (workers : Nat) (process : α → Option β) (items : List α) :
    ((∀ x ∈ items, process x ≠ none) →
      ∃ results, items.map process = results.map some ∧ ∀ choice order,
        execute choice workers process items = .ok results ∧
          Strategy.sequential.execute order process items = .ok results) ∧
    (∀ x ∈ items, process x = none → ∀ choice,
      execute choice workers process items = .error .workerPanicked) ∧
    (∀ choice, execute choice workers process [] = .ok []) ∧
    (items ≠ [] → ∀ n p, Path process n (start workers items) p →
      n ≤ (start workers items : WorkPool α β).ahead ∧
        (p.moves process = [] →
          Over p ∧ ∀ choice, p.outcome = execute choice workers process items)) ∧
    ∀ (results : List β) (messages : List (Nat × β)),
      (messages.Perm (placed results) → collect results.length messages = .ok results) ∧
        (messages.length < results.length →
          collect results.length messages =
            .error (.incomplete messages.length results.length)) := by
  refine ⟨fun hall => ?_, fun x hx hnone choice => ?_, fun choice => rfl, fun hitems n p hpath =>
    hpath.settled hitems, fun results messages => ⟨collect_of_perm, collect_of_length_lt⟩⟩
  · cases hmap : items.mapM process with
    | none =>
      obtain ⟨x, hx, hnone⟩ := mapM_eq_none_iff.mp hmap
      exact absurd hnone (hall x hx)
    | some results =>
      refine ⟨results, mapM_eq_some_iff.mp hmap, fun choice order => ⟨?_, ?_⟩⟩
      · rw [execute_eq, hmap]
      · rw [Strategy.execute, hmap]
  · rw [execute_eq, mapM_eq_none_iff.mpr ⟨x, hx, hnone⟩]

/-- Two workers at three items, and at three of which the second breaks its worker down. -/
theorem execute_all_or_nothing_threeItems :
    let process (n : Nat) : Option Nat := if n = 2 then none else some (3 * n + 1)
    (∀ choice, execute choice 2 process [5, 7, 9] = .ok [16, 22, 28]) ∧
      (∀ choice, execute choice 2 process [1, 2, 3] = .error .workerPanicked) ∧
      (∃ n p, Path process n (start 2 [1, 2, 3]) p ∧ p.moves process = [] ∧ n ≤ 20 ∧ Over p ∧
        ∀ choice, p.outcome = execute choice 2 process [1, 2, 3]) ∧
      collect 3 [(2, 28), (0, 16), (1, 22)] = .ok [16, 22, 28] ∧
      collect 3 [(2, 28), (0, 16)] = .error (.incomplete 2 3) := by
  intro process
  obtain ⟨hall, -, -, -, hcollect⟩ := execute_all_or_nothing 2 process [5, 7, 9]
  obtain ⟨-, hnone, -, hpaths, -⟩ := execute_all_or_nothing 2 process [1, 2, 3]
  obtain ⟨results, hmap, hexecute⟩ := hall (by decide)
  have hresults : [16, 22, 28] = results :=
    List.map_injective_iff.mpr (fun _ _ => Option.some.inj) hmap
  subst hresults
  obtain ⟨n, hpath⟩ : ∃ n, Path process n (start 2 [1, 2, 3])
      (run process (fun n => n * n) 20 (start 2 [1, 2, 3])) := exists_path_run _ _ _
  have hmoves : (run process (fun n => n * n) 20 (start 2 [1, 2, 3])).moves process = [] := by
    decide +kernel
  obtain ⟨hlength, hsettled⟩ := hpaths (by decide) n _ hpath
  obtain ⟨hover, houtcome⟩ := hsettled hmoves
  refine ⟨fun choice => (hexecute choice choice).1, hnone 2 (by decide) rfl,
    ⟨n, _, hpath, hmoves, hlength, hover, houtcome⟩, ?_, ?_⟩
  · exact (hcollect [16, 22, 28] _).1 (by decide)
  · exact (hcollect [16, 22, 28] _).2 (by decide)

end DmarcReports.WorkPool
