import DmarcReports.Ingest
import DmarcReports.Proofs.WorkPool.Run

/-!
Batches as single uploads.

A pool hands the reports back in the order of the uploads, and they are filed in that order. So a
batch is what its uploads come to one after the other, however it was worked on.
-/

set_option autoImplicit false
set_option relaxedAutoImplicit false

namespace DmarcReports

private theorem Strategy.execute_some {α β : Type} (choice : Nat → Nat) (s : Strategy) (f : α → β)
    (items : List α) : s.execute choice (fun x => some (f x)) items = .ok (items.map f) := by
  have hall : items.mapM (fun x => some (f x)) = some (items.map f) :=
    WorkPool.mapM_eq_some_iff.mpr (by simp)
  cases s with
  | sequential => simp only [execute, hall]
  | parallel workers => simp only [execute, WorkPool.execute_eq, hall]

namespace BatchOutcome

def failure? (u : Upload) : Except Rejection Receipt → Option (String × Rejection)
  | .ok _ => none
  | .error e => some (u.fileName, e)

def failuresOf (us : List Upload) (results : List (Except Rejection Receipt)) :
    List (String × Rejection) :=
  (us.zip results).filterMap fun x => failure? x.1 x.2

private theorem filterMap_toOption_cons (x : Except Rejection Receipt)
    (results : List (Except Rejection Receipt)) :
    (x :: results).filterMap Except.toOption =
      x.toOption.toList ++ results.filterMap Except.toOption := by
  cases x <;> rfl

private theorem failuresOf_cons (u : Upload) (us : List Upload) (x : Except Rejection Receipt)
    (results : List (Except Rejection Receipt)) :
    failuresOf (u :: us) (x :: results) = (failure? u x).toList ++ failuresOf us results := by
  cases x <;> rfl

private theorem length_receipts_add_failuresOf (us : List Upload)
    (results : List (Except Rejection Receipt)) (h : results.length = us.length) :
    (results.filterMap Except.toOption).length + (failuresOf us results).length = us.length := by
  induction us generalizing results with
  | nil =>
    rw [List.length_eq_zero_iff.mp h]
    rfl
  | cons u us ih =>
    obtain ⟨x, results, rfl⟩ := List.exists_cons_of_length_eq_add_one h
    have hrest := ih results (by simpa using h)
    have hone : x.toOption.toList.length + (failure? u x).toList.length = 1 := by
      cases x <;> rfl
    rw [filterMap_toOption_cons, failuresOf_cons, List.length_append, List.length_append,
      List.length_cons]
    omega

/-- That an outcome tells of every upload once what its result was. -/
structure AccountsFor (o : BatchOutcome) (us : List Upload)
    (results : List (Except Rejection Receipt)) : Prop where
  receipts : o.receipts = results.filterMap Except.toOption
  failures : o.failures = failuresOf us results
  found : o.reportsFound = o.receipts.length
  everyUpload : o.reportsFound + o.failures.length = us.length

end BatchOutcome

namespace Ingestor

/-- Takes in uploads one after the other; returns the result of each and the store in the end. -/
def ingestEach (g : Ingestor) : Store → List Upload → List (Except Rejection Receipt) × Store
  | s, [] => ([], s)
  | s, u :: us =>
    let (result, s) := g.ingest s u
    let (results, s) := g.ingestEach s us
    (result :: results, s)

theorem parseAll_eq (g : Ingestor) (choice : Nat → Nat) (us : List Upload) :
    g.parseAll choice us = us.map (Upload.parse g.limits) := by
  simp only [parseAll, Strategy.execute_some]

private theorem ingestEach_cons (g : Ingestor) (s : Store) (u : Upload) (us : List Upload) :
    g.ingestEach s (u :: us) =
      ((g.ingest s u).1 :: (g.ingestEach (g.ingest s u).2 us).1,
        (g.ingestEach (g.ingest s u).2 us).2) := rfl

private theorem length_ingestEach (g : Ingestor) (s : Store) (us : List Upload) :
    (g.ingestEach s us).1.length = us.length := by
  induction us generalizing s with
  | nil => rfl
  | cons u us ih => rw [ingestEach_cons, List.length_cons, ih, List.length_cons]

/-- What a batch in progress has taken note of so far. -/
structure Progress.Noted (p : Progress) (rs : List Receipt) (fs : List (String × Rejection)) :
    Prop where
  receipts : p.receipts.reverse = rs
  failures : p.failures.reverse = fs
  found : p.reportsFound = rs.length

theorem Progress.Noted.apply {p : Progress} {rs : List Receipt} {fs : List (String × Rejection)}
    (h : p.Noted rs fs) (g : Ingestor) (u : Upload) :
    (p.apply (u, u.parse g.limits)).store = (g.ingest p.store u).2 ∧
      (p.apply (u, u.parse g.limits)).Noted
        (rs ++ (g.ingest p.store u).1.toOption.toList)
        (fs ++ (BatchOutcome.failure? u (g.ingest p.store u).1).toList) := by
  unfold Ingestor.ingest Progress.apply
  cases u.parse g.limits with
  | ok r =>
    refine ⟨rfl, ?_, ?_, ?_⟩
    · simp [h.receipts, Except.toOption]
    · simp [h.failures, BatchOutcome.failure?]
    · simp [h.found, Except.toOption]
  | error e =>
    refine ⟨rfl, ?_, ?_, ?_⟩
    · simp [h.receipts, Except.toOption]
    · simp [h.failures, BatchOutcome.failure?]
    · simp [h.found, Except.toOption]

/-- Filing the parsed reports of uploads is ingesting the uploads one after the other. -/
theorem Progress.Noted.foldl {p : Progress} {rs : List Receipt} {fs : List (String × Rejection)}
    (h : p.Noted rs fs) (g : Ingestor) (us : List Upload) :
    ((us.zip (us.map (Upload.parse g.limits))).foldl Progress.apply p).store =
        (g.ingestEach p.store us).2 ∧
      ((us.zip (us.map (Upload.parse g.limits))).foldl Progress.apply p).Noted
        (rs ++ (g.ingestEach p.store us).1.filterMap Except.toOption)
        (fs ++ BatchOutcome.failuresOf us (g.ingestEach p.store us).1) := by
  induction us generalizing p rs fs with
  | nil => exact ⟨rfl, by simpa [ingestEach, BatchOutcome.failuresOf] using h⟩
  | cons u us ih =>
    obtain ⟨hstore, hnoted⟩ := h.apply g u
    obtain ⟨hstore', hnoted'⟩ := ih hnoted
    rw [hstore] at hstore' hnoted'
    rw [List.append_assoc, List.append_assoc, ← BatchOutcome.filterMap_toOption_cons,
      ← BatchOutcome.failuresOf_cons] at hnoted'
    exact ⟨hstore', hnoted'⟩

/-- A batch leaves the store as its uploads do one after the other, and accounts for the result of
each. Neither the mode nor the workers, nor the order in which they move, make a difference. -/
theorem batch_eq_ingestEach (g : Ingestor) (choice : Nat → Nat) (s : Store) (us : List Upload) :
    (g.batch choice s us).2 = (g.ingestEach s us).2 ∧
      (g.batch choice s us).1.AccountsFor us (g.ingestEach s us).1 ∧
      ∀ (mode : ExecutionMode) (workers minFiles : Nat) (choice' : Nat → Nat),
        batch ⟨g.limits, mode, workers, minFiles⟩ choice' s us = g.batch choice s us := by
  have hstart : ({ store := s } : Progress).Noted [] [] := ⟨rfl, rfl, rfl⟩
  obtain ⟨hstore, hnoted⟩ := hstart.foldl g us
  have hcount := BatchOutcome.length_receipts_add_failuresOf us _ (g.length_ingestEach s us)
  refine ⟨?_, ⟨?_, ?_, ?_, ?_⟩, ?_⟩
  · simp only [batch, parseAll_eq, hstore]
  · simp only [batch, parseAll_eq, Progress.outcome, hnoted.receipts, List.nil_append]
  · simp only [batch, parseAll_eq, Progress.outcome, hnoted.failures, List.nil_append]
  · simp only [batch, parseAll_eq, Progress.outcome, hnoted.found, hnoted.receipts]
  · simp only [batch, parseAll_eq, Progress.outcome, hnoted.found, hnoted.failures,
      List.nil_append]
    exact hcount
  · intro mode workers minFiles choice'
    simp only [batch, parseAll_eq]

end Ingestor

end DmarcReports
