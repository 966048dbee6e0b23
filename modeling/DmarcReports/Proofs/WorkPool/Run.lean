import Mathlib.Data.List.Perm.Basic
import DmarcReports.Proofs.WorkPool.Collect

/-!
Runs of a pool, whatever its order of moves.

As long as no worker has broken down, nothing is lost on the way from the feeder to the reader, no
worker goes while items are left to take, and the reader does not stop before all results are there.
Main statement: `execute_eq`.
-/

set_option autoImplicit false
set_option relaxedAutoImplicit false

namespace DmarcReports.WorkPool

variable {α β : Type} {process : α → Option β}

/-- What the items of a pool come to, whether their results are there or not. -/
def prospects (process : α → Option β) (p : WorkPool α β) : List (Nat × Option β) :=
  (p.unfed ++ (p.queue ++ p.busy)).map (fun x => (x.1, process x.2)) ++
    (p.ready ++ (p.mail ++ p.arrivals)).map fun m => (m.1, some m.2)

/-- How a pool stands in which no worker has broken down. -/
structure Intact (process : α → Option β) (items : List α) (workers : Nat)
    (p : WorkPool α β) : Prop where
  prospects : (p.prospects process).Perm (placed (items.map process))
  manned : p.alive < workers → p.source = none ∧ p.queue = []
  complete : p.stage = .finished → p.arrivals.length = items.length

private theorem Intact.length_prospects {items : List α} {workers : Nat} {p : WorkPool α β}
    (h : Intact process items workers p) :
    p.unfed.length + p.queue.length + p.busy.length + p.ready.length + p.mail.length +
      p.arrivals.length = items.length := by
  have hlength := h.prospects.length_eq
  simp only [WorkPool.prospects, length_placed, List.length_append, List.length_map] at hlength
  omega

structure Orderly (process : α → Option β) (items : List α) (workers : Nat)
    (p : WorkPool α β) : Prop where
  room : 0 < p.room
  total : p.total = items.length
  known : ∀ x ∈ p.unfed ++ (p.queue ++ p.busy), x ∈ placed items
  cause : p.broken = true → ∃ x ∈ items, process x = none
  intact : p.broken = false → Intact process items workers p

/-- Everybody is gone, and the reader is finished. -/
structure Over (p : WorkPool α β) : Prop where
  source : p.source = none
  alive : p.alive = 0
  stage : p.stage = .finished

theorem orderly_start (workers : Nat) (items : List α) :
    Orderly process items (min (max 1 workers) items.length) (start workers items) where
  room := by
    simp only [start]
    omega
  total := rfl
  known := by simp [start, unfed, placed]
  cause := nofun
  intact := fun _ => {
    prospects := by
      simp only [start, prospects, unfed, ← map_placed]
      simp [placed]
    manned := by simp [start, alive]
    complete := nofun }

private theorem append_insert_perm {γ : Type} (x : γ) (as bs cs : List γ) :
    (as ++ ((bs ++ [x]) ++ cs)).Perm (x :: as ++ (bs ++ cs)) := by
  rw [List.append_assoc, List.singleton_append]
  exact (List.perm_middle.append_left as).trans List.perm_middle

section Moves

variable {items : List α} {workers worker : Nat} {p q : WorkPool α β}

private theorem Orderly.prepare (h : Orderly process items workers p) (hq : p.prepare? = some q) :
    Orderly process items workers q ∧ q.ahead < p.ahead := by
  unfold prepare? at hq
  split at hq
  · rename_i hstage
    cases hq
    refine ⟨⟨h.room, h.total, h.known, h.cause, fun hb => ?_⟩, ?_⟩
    · exact ⟨(h.intact hb).prospects, (h.intact hb).manned, nofun⟩
    · simp only [ahead, alive, hstage, ReaderStage.left]
      omega
  · cases hq

theorem Orderly.feed (h : Orderly process items workers p) (hworkers : 0 < workers)
    (hq : p.feed? = some q) :
    Orderly process items workers q ∧ q.ahead < p.ahead := by
  have hknown := h.known
  unfold feed? at hq
  split at hq
  · cases hq
  · rename_i hsource
    cases hq
    simp only [unfed, hsource, Option.getD_some] at hknown
    refine ⟨⟨h.room, h.total, hknown, h.cause, fun hb => ?_⟩, ?_⟩
    · have hintact := h.intact hb
      refine ⟨?_, fun hgone => ?_, hintact.complete⟩
      · simpa only [prospects, unfed, hsource, Option.getD_some, Option.getD_none] using
          hintact.prospects
      · exact ⟨rfl, (hintact.manned hgone).2⟩
    · simp only [ahead, alive, hsource, Option.elim_some, Option.elim_none]
      omega
  · rename_i x source hsource
    simp only [unfed, hsource, Option.getD_some] at hknown
    split at hq
    · rename_i hnobody
      cases hq
      refine ⟨⟨h.room, h.total, fun y hy => hknown y ?_, h.cause, fun hb => ?_⟩, ?_⟩
      · simp only [unfed, Option.getD_none, List.nil_append] at hy
        exact List.mem_append_right _ hy
      · -- No worker goes while the feeder has items, so in an intact pool somebody takes them.
        have hgone : p.source = none := ((h.intact hb).manned (by omega)).1
        rw [hsource] at hgone
        cases hgone
      · simp only [ahead, alive, hsource, Option.elim_some, Option.elim_none]
        omega
    · split at hq
      · cases hq
        refine ⟨⟨h.room, h.total, fun y hy => hknown y ?_, h.cause, fun hb => ?_⟩, ?_⟩
        · simp only [unfed, Option.getD_some, List.mem_append, List.mem_cons, List.not_mem_nil,
            or_false] at hy ⊢
          tauto
        · have hintact := h.intact hb
          refine ⟨?_, fun hgone => ?_, hintact.complete⟩
          · refine List.Perm.trans (List.Perm.append_right _ (List.Perm.map _ ?_)) hintact.prospects
            simp only [unfed, hsource, Option.getD_some]
            exact append_insert_perm x source p.queue p.busy
          · have hnone : p.source = none := (hintact.manned hgone).1
            rw [hsource] at hnone
            cases hnone
        · simp only [ahead, alive, hsource, Option.elim_some, List.length_append, List.length_cons,
            List.length_nil]
          omega
      · cases hq

theorem Orderly.take (h : Orderly process items workers p) (hq : p.take? = some q) :
    Orderly process items workers q ∧ q.ahead < p.ahead := by
  unfold take? at hq
  split at hq
  · rename_i idle x queue hidle hqueue
    cases hq
    have hmoved : (queue ++ (p.busy ++ [x])).Perm (p.queue ++ p.busy) := by
      rw [hqueue, ← List.append_assoc]
      exact List.perm_append_singleton x (queue ++ p.busy)
    refine ⟨⟨h.room, h.total, fun y hy => h.known y ?_, h.cause, fun hb => ?_⟩, ?_⟩
    · exact (hmoved.append_left p.unfed).mem_iff.mp hy
    · have hintact := h.intact hb
      refine ⟨?_, fun hgone => ?_, hintact.complete⟩
      · exact (((hmoved.append_left p.unfed).map _).append_right _).trans hintact.prospects
      · simp only [alive, List.length_append, List.length_singleton] at hgone
        have hnil : p.queue = [] := (hintact.manned (by simp only [alive]; omega)).2
        rw [hqueue] at hnil
        cases hnil
    · simp only [ahead, alive, hqueue, hidle, List.length_append, List.length_cons,
        List.length_nil]
      omega
  · rename_i idle hidle hqueue
    split at hq
    · rename_i hsource
      cases hq
      refine ⟨⟨h.room, h.total, h.known, h.cause, fun hb => ?_⟩, ?_⟩
      · exact ⟨(h.intact hb).prospects, fun _ => ⟨Option.isNone_iff_eq_none.mp hsource, hqueue⟩,
          (h.intact hb).complete⟩
      · simp only [ahead, alive, hidle]
        omega
    · cases hq
  · cases hq

theorem Orderly.finish (h : Orderly process items workers p)
    (hq : p.finish? process worker = some q) :
    Orderly process items workers q ∧ q.ahead < p.ahead := by
  obtain ⟨x, hx, rfl⟩ := Option.map_eq_some_iff.mp hq
  obtain ⟨hworker, rfl⟩ := List.getElem?_eq_some_iff.mp hx
  have hleft : (p.busy.eraseIdx worker).length + 1 = p.busy.length := by
    rw [List.length_eraseIdx_of_lt hworker]
    omega
  have hperm : (p.busy[worker] :: p.busy.eraseIdx worker).Perm p.busy :=
    List.getElem_cons_eraseIdx_perm hworker
  have hknown (y : Nat × α) (hy : y ∈ p.unfed ++ (p.queue ++ p.busy.eraseIdx worker)) :
      y ∈ placed items := by
    refine h.known y ?_
    have hsub := List.mem_of_mem_eraseIdx (l := p.busy) (i := worker) (a := y)
    simp only [List.mem_append] at hy ⊢
    tauto
  cases hb : process p.busy[worker].2 with
  | some b =>
    refine ⟨⟨h.room, h.total, hknown, h.cause, fun hbroken => ?_⟩, ?_⟩
    · have hintact := h.intact hbroken
      refine ⟨List.Perm.trans ?_ hintact.prospects, fun hgone => hintact.manned ?_,
        hintact.complete⟩
      · -- The item leaves the workers at one end of the account and comes back at the other.
        classical
        refine List.perm_iff_count.mpr fun m => ?_
        have hcount := (hperm.map fun x => (x.1, process x.2)).count_eq m
        simp only [WorkPool.prospects, unfed, List.map_append, List.map_cons, List.map_nil, hb,
          List.count_append, List.count_cons, List.count_nil] at hcount ⊢
        omega
      · simp only [alive, List.length_append, List.length_singleton] at hgone ⊢
        omega
    · simp only [ahead, alive, List.length_append, List.length_singleton]
      omega
  | none =>
    have hitem : p.busy[worker] ∈ placed items :=
      h.known _ (List.mem_append_right _ (List.mem_append_right _ (List.getElem_mem hworker)))
    refine ⟨⟨h.room, h.total, hknown, fun _ => ?_, nofun⟩, ?_⟩
    · exact ⟨_, List.mem_of_getElem? (mem_placed_iff.mp hitem), hb⟩
    · simp only [ahead, alive]
      omega

private theorem Orderly.post (h : Orderly process items workers p) (hq : p.post? worker = some q) :
    Orderly process items workers q ∧ q.ahead < p.ahead := by
  obtain ⟨m, hm, hq⟩ := Option.bind_eq_some_iff.mp hq
  obtain ⟨hworker, rfl⟩ := List.getElem?_eq_some_iff.mp hm
  have hleft : (p.ready.eraseIdx worker).length + 1 = p.ready.length := by
    rw [List.length_eraseIdx_of_lt hworker]
    omega
  have hperm : (p.ready[worker] :: p.ready.eraseIdx worker).Perm p.ready :=
    List.getElem_cons_eraseIdx_perm hworker
  dsimp only at hq
  split at hq
  · rename_i hstage
    cases hq
    refine ⟨⟨h.room, h.total, h.known, h.cause, fun hb => ?_⟩, ?_⟩
    · -- The reader of an intact pool has all results before it stops, so none is left to post.
      have hlength := (h.intact hb).length_prospects
      have hall := (h.intact hb).complete hstage
      omega
    · simp only [ahead, alive]
      omega
  · split at hq
    · cases hq
      refine ⟨⟨h.room, h.total, h.known, h.cause, fun hb => ?_⟩, ?_⟩
      · have hintact := h.intact hb
        refine ⟨List.Perm.trans ?_ hintact.prospects, fun hgone => hintact.manned ?_,
          hintact.complete⟩
        · refine List.Perm.append_left _ (List.Perm.map _ ?_)
          refine (append_insert_perm _ _ p.mail p.arrivals).trans ?_
          exact hperm.append_right (p.mail ++ p.arrivals)
        · simp only [alive] at hgone ⊢
          omega
      · simp only [ahead, alive, List.length_append, List.length_singleton]
        omega
    · cases hq

private theorem Orderly.receive (h : Orderly process items workers p) (hworkers : 0 < workers)
    (hq : p.receive? = some q) :
    Orderly process items workers q ∧ q.ahead < p.ahead := by
  unfold receive? at hq
  split at hq
  · rename_i m mail hstage hmail
    cases hq
    refine ⟨⟨h.room, h.total, h.known, h.cause, fun hb => ?_⟩, ?_⟩
    · have hintact := h.intact hb
      refine ⟨List.Perm.trans ?_ hintact.prospects, hintact.manned, fun hfinished => ?_⟩
      · refine List.Perm.append_left _ (List.Perm.map _ (List.Perm.append_left _ ?_))
        rw [hmail]
        exact List.perm_middle
      · dsimp only at hfinished
        split at hfinished
        · rename_i hlast
          exact hlast.trans h.total
        · cases hfinished
    · simp only [ahead, alive, hstage, hmail, List.length_cons]
      split <;> simp only [ReaderStage.left] <;> omega
  · rename_i hstage hmail
    split at hq
    · rename_i hnobody
      cases hq
      refine ⟨⟨h.room, h.total, h.known, h.cause, fun hb => ?_⟩, ?_⟩
      · have hintact := h.intact hb
        refine ⟨hintact.prospects, hintact.manned, fun _ => ?_⟩
        have hlength := hintact.length_prospects
        obtain ⟨hsource, hqueue⟩ := hintact.manned (by omega)
        simp only [unfed, alive, hsource, hqueue, hmail, Option.getD_none, List.length_nil] at *
        omega
      · simp only [ahead, alive, hstage, ReaderStage.left]
        omega
    · cases hq
  · cases hq

/-- Every move keeps the pool in order and brings it nearer to its end. -/
theorem Orderly.move (h : Orderly process items workers p) (hworkers : 0 < workers)
    (hq : q ∈ p.moves process) : Orderly process items workers q ∧ q.ahead < p.ahead := by
  simp only [moves, List.mem_append, Option.mem_toList, List.mem_filterMap] at hq
  obtain (((((hq | hq) | hq) | ⟨_, -, hq⟩) | ⟨_, -, hq⟩) | hq) := hq
  · exact h.prepare hq
  · exact h.feed hworkers hq
  · exact h.take hq
  · exact h.finish hq
  · exact h.post hq
  · exact h.receive hworkers hq

end Moves

/-- Nobody in a pool waits for ever: one that cannot move is over. -/
theorem over_of_moves_eq_nil {p : WorkPool α β} (hroom : 0 < p.room)
    (h : p.moves process = []) : Over p := by
  simp only [moves, List.append_eq_nil_iff, Option.toList_eq_nil_iff] at h
  obtain ⟨⟨⟨⟨⟨hprepare, hfeed⟩, htake⟩, hfinish⟩, hpost⟩, hreceive⟩ := h
  have hbusy : p.busy = [] := by
    cases hbusy : p.busy with
    | nil => rfl
    | cons x xs =>
      have hnone := List.filterMap_eq_nil_iff.mp hfinish 0 (by simp [hbusy])
      simp [finish?, hbusy] at hnone
  have hidle : p.idle = 0 := by
    cases hidle : p.idle with
    | zero => rfl
    | succ idle =>
      cases hqueue : p.queue with
      | cons x xs => simp [take?, hidle, hqueue] at htake
      | nil =>
        -- A free worker finds the queue empty, so the feeder can fill it or go.
        rcases hsource : p.source with _ | _ | ⟨x, source⟩
        · simp [take?, hidle, hqueue, hsource] at htake
        · simp [feed?, hsource] at hfeed
        · simp [feed?, hsource, alive, hidle, hqueue, hroom] at hfeed
  have hstage : p.stage = .finished := by
    cases hstage : p.stage with
    | preparing => simp [prepare?, hstage] at hprepare
    | finished => rfl
    | reading =>
      cases hmail : p.mail with
      | cons m ms => simp [receive?, hstage, hmail] at hreceive
      | nil =>
        cases hready : p.ready with
        | nil => simp [receive?, hstage, hmail, alive, hidle, hbusy, hready] at hreceive
        | cons m ms =>
          have hnone := List.filterMap_eq_nil_iff.mp hpost 0 (by simp [hready])
          simp [post?, hready, hstage, hmail, hroom] at hnone
  have hready : p.ready = [] := by
    cases hready : p.ready with
    | nil => rfl
    | cons m ms =>
      have hnone := List.filterMap_eq_nil_iff.mp hpost 0 (by simp [hready])
      simp [post?, hready, hstage] at hnone
  have halive : p.alive = 0 := by simp [alive, hidle, hbusy, hready]
  refine ⟨?_, halive, hstage⟩
  rcases hsource : p.source with _ | _ | ⟨x, source⟩
  · rfl
  · simp [feed?, hsource] at hfeed
  · simp [feed?, hsource, halive, hstage] at hfeed

/-- So many moves, each of them one that is possible, lead from one pool to the other. -/
inductive Path (process : α → Option β) : Nat → WorkPool α β → WorkPool α β → Prop where
  | stay (p : WorkPool α β) : Path process 0 p p
  | move {n : Nat} {p q r : WorkPool α β} (first : q ∈ p.moves process)
      (others : Path process n q r) : Path process (n + 1) p r

theorem Orderly.path {items : List α} {workers n : Nat} {p q : WorkPool α β}
    (h : Orderly process items workers p) (hworkers : 0 < workers) (hpath : Path process n p q) :
    Orderly process items workers q ∧ n + q.ahead ≤ p.ahead := by
  induction hpath with
  | stay p => exact ⟨h, by omega⟩
  | move hfirst _ ih =>
    obtain ⟨hkeep, hless⟩ := h.move hworkers hfirst
    obtain ⟨hq, hahead⟩ := ih hkeep
    exact ⟨hq, by omega⟩

theorem exists_path_run (choice : Nat → Nat) (n : Nat) (p : WorkPool α β) :
    ∃ m, Path process m p (run process choice n p) := by
  induction n generalizing p with
  | zero => exact ⟨0, .stay p⟩
  | succ n ih =>
    unfold WorkPool.run
    dsimp only
    split
    · rename_i q hq
      obtain ⟨m, hpath⟩ := ih q
      exact ⟨m + 1, .move (List.mem_of_getElem? hq) hpath⟩
    · exact ⟨0, .stay p⟩

private theorem over_of_ahead_eq_zero {p : WorkPool α β} (h : p.ahead = 0) : Over p := by
  simp only [ahead] at h
  refine ⟨?_, by omega, ?_⟩
  · cases hsource : p.source with
    | none => rfl
    | some source =>
      simp only [hsource, Option.elim_some] at h
      omega
  · cases hstage : p.stage with
    | finished => rfl
    | preparing | reading =>
      simp only [hstage, ReaderStage.left] at h
      omega

theorem Orderly.run {items : List α} {workers : Nat} (choice : Nat → Nat) (n : Nat)
    {p : WorkPool α β} (h : Orderly process items workers p) (hworkers : 0 < workers)
    (hn : p.ahead ≤ n) :
    Orderly process items workers (run process choice n p) ∧ Over (run process choice n p) := by
  induction n generalizing p with
  | zero => exact ⟨h, over_of_ahead_eq_zero (Nat.le_zero.mp hn)⟩
  | succ n ih =>
    unfold WorkPool.run
    dsimp only
    split
    · rename_i q hq
      obtain ⟨hkeep, hless⟩ := h.move hworkers (List.mem_of_getElem? hq)
      exact ih hkeep (by omega)
    · rename_i hq
      have hnil : p.moves process = [] := by
        cases hmoves : p.moves process with
        | nil => rfl
        | cons q qs =>
          -- The choice is taken modulo the number of moves, so it is always one of them.
          rw [List.getElem?_eq_none_iff] at hq
          have hlt := Nat.mod_lt (choice n) (y := (p.moves process).length) (by simp [hmoves])
          omega
      exact ⟨h, over_of_moves_eq_nil h.room hnil⟩

private theorem Intact.collect_arrivals {items : List α} {workers : Nat} {p : WorkPool α β}
    (h : Intact process items workers p) (hover : Over p) :
    ∃ results, items.mapM process = some results ∧
      collect items.length p.arrivals.reverse = .ok results := by
  have hlength := h.length_prospects
  have hcomplete := h.complete hover.stage
  have hperm : (p.arrivals.map fun m => (m.1, some m.2)).Perm (placed (items.map process)) := by
    -- The results that have arrived are as many as the items, so nothing is anywhere else.
    have hunfed : p.unfed = [] := List.length_eq_zero_iff.mp (by omega)
    have hqueue : p.queue = [] := List.length_eq_zero_iff.mp (by omega)
    have hbusy : p.busy = [] := List.length_eq_zero_iff.mp (by omega)
    have hready : p.ready = [] := List.length_eq_zero_iff.mp (by omega)
    have hmail : p.mail = [] := List.length_eq_zero_iff.mp (by omega)
    simpa [WorkPool.prospects, hunfed, hqueue, hbusy, hready, hmail] using h.prospects
  cases hall : items.mapM process with
  | none =>
    obtain ⟨x, hx, hnone⟩ := mapM_eq_none_iff.mp hall
    obtain ⟨i, hi, rfl⟩ := List.getElem_of_mem hx
    have hm : (i, none) ∈ p.arrivals.map fun m => (m.1, some m.2) :=
      hperm.mem_iff.mpr (mem_placed_iff.mpr (by simp [hi, hnone]))
    simp at hm
  | some results =>
    have hresults := mapM_eq_some_iff.mp hall
    have hlength : items.length = results.length := by
      simpa using congrArg List.length hresults
    have hinj : Function.Injective fun m : Nat × β => (m.1, some m.2) := by
      rintro ⟨i, b⟩ ⟨j, c⟩ heq
      simpa using heq
    rw [hresults, ← map_placed, List.map_perm_map_iff hinj] at hperm
    refine ⟨results, rfl, ?_⟩
    rw [hlength]
    exact collect_of_perm ((List.reverse_perm _).trans hperm)

/-- What a pool has to offer in the end are the results of all items in their order, or nothing if it
broke down on an item. -/
theorem Orderly.outcome_eq {items : List α} {workers : Nat} {p : WorkPool α β}
    (h : Orderly process items workers p) (hover : Over p) :
    p.outcome =
      match items.mapM process with
      | some results => .ok results
      | none => .error .workerPanicked := by
  unfold outcome
  cases hbroken : p.broken with
  | true =>
    rw [mapM_eq_none_iff.mpr (h.cause hbroken)]
    rfl
  | false =>
    obtain ⟨results, hall, hcollect⟩ := (h.intact hbroken).collect_arrivals hover
    rw [hall, h.total]
    exact hcollect

/-- A pool gives the results of all items in their order, or none if it breaks down on an item. How
many workers it has and in which order they move makes no difference. -/
theorem execute_eq (choice : Nat → Nat) (workers : Nat) (process : α → Option β)
    (items : List α) :
    execute choice workers process items =
      match items.mapM process with
      | some results => .ok results
      | none => .error .workerPanicked := by
  unfold execute
  split
  · rename_i hnil
    rw [List.isEmpty_iff.mp hnil]
    rfl
  · rename_i hitems
    have hlength : 0 < items.length := by
      rw [List.length_pos_iff]
      simpa using hitems
    have hstart : Orderly process items _ (start workers items) := orderly_start workers items
    obtain ⟨h, hover⟩ := hstart.run choice _ (by omega) (Nat.le_refl _)
    exact h.outcome_eq hover

end DmarcReports.WorkPool
