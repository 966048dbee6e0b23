import DmarcReports.Proofs.Store.Shared

/-!
Many workers at one store.

The changes that were completed are as good as made one after the other: in that order the ledgers
give the answers that the workers got, and the store shows the ledgers in the end. Main statement:
`run_start`.
-/

set_option autoImplicit false
set_option relaxedAutoImplicit false

namespace DmarcReports

namespace Store

def answer (s : Store) : Change → Bool
  | .add r => (s.add r).1
  | .delete domain => (s.delete domain).1
  | .clear => true

def answers : Store → List Change → List Bool
  | _, [] => []
  | s, c :: cs => s.answer c :: (s.apply c).answers cs

private theorem answers_append (s : Store) (cs cs' : List Change) :
    s.answers (cs ++ cs') = s.answers cs ++ (cs.foldl apply s).answers cs' := by
  induction cs generalizing s with
  | nil => rfl
  | cons c cs ih => simp only [List.cons_append, answers, ih, List.foldl_cons]

def Change.reports : Change → List Report
  | .add r => [r]
  | _ => []

end Store

namespace SharedStore

/-- That the state of a handle is that of a domain, in use or retired. -/
def Names (s : SharedStore) (n : Nat) (domain : String) : Prop :=
  ∃ st, s.states[n]? = some st ∧ st.summary.domain = domain

def NamesKept (s s' : SharedStore) : Prop :=
  ∀ n domain, s.Names n domain → s'.Names n domain

variable {s : SharedStore} {t : Store}

private theorem commit?_eq_some {n : Nat} {r : Report} {s' : SharedStore}
    (h : s.commit? n r = some s') : ∃ st, s.states[n]? = some st ∧ st.retired = false ∧
      s' = { s with states := s.states.modify n (·.file r) } := by
  unfold commit? at h
  split at h
  · rename_i st hst
    split at h
    · cases h
    · rename_i hcurrent
      exact ⟨st, hst, Bool.eq_false_of_not_eq_true hcurrent, (Option.some.inj h).symm⟩
  · cases h

private theorem namesKept_modify (n : Nat) (f : DomainState → DomainState)
    (hf : ∀ st, (f st).summary.domain = st.summary.domain) (handles : Std.HashMap String Nat) :
    s.NamesKept { states := s.states.modify n f, handles } := by
  rintro m domain ⟨st, hst, hdomain⟩
  by_cases hm : n = m
  · refine ⟨f st, ?_, (hf st).trans hdomain⟩
    simp [Array.getElem?_modify, hm, hst]
  · refine ⟨st, ?_, hdomain⟩
    simp [Array.getElem?_modify, hm, hst]

private theorem namesKept_file (n : Nat) (r : Report) :
    s.NamesKept { s with states := s.states.modify n (·.file r) } :=
  namesKept_modify n (·.file r) (fun _ => rfl) s.handles

private theorem namesKept_create (r : Report) : s.NamesKept (s.create r).2 := by
  unfold create
  split
  · exact namesKept_file _ r
  · rintro m domain ⟨st, hst, hdomain⟩
    obtain ⟨hlt, hget⟩ := Array.getElem?_eq_some_iff.mp hst
    refine ⟨st, ?_, hdomain⟩
    rw [Array.getElem?_push_lt hlt, hget]

private theorem namesKept_delete (domain : String) : s.NamesKept (s.delete domain).2 := by
  unfold delete
  split
  · exact namesKept_modify _ DomainState.retire (fun _ => rfl) _
  · exact fun _ _ hnames => hnames

private theorem namesKept_clear : s.NamesKept s.clear := by
  rintro m domain ⟨st, hst, hdomain⟩
  rw [Names, clear, getElem?_foldl_retire, hst]
  split
  · exact ⟨st.retire, rfl, hdomain⟩
  · exact ⟨st, rfl, hdomain⟩

/-- A state in use has the handle of its domain, so what is filed in it is filed in the ledger. -/
theorem Shows.commit? (h : s.Shows t) {n : Nat} {r : Report} (hnames : s.Names n r.filedUnder)
    {s' : SharedStore} (hcommit : s.commit? n r = some s') :
    (t.add r).1 = false ∧ s'.Shows (t.add r).2 := by
  obtain ⟨st, hst, hcurrent, rfl⟩ := commit?_eq_some hcommit
  obtain ⟨named, hnamed, hdomain⟩ := hnames
  obtain rfl := Option.some.inj (hst.symm.trans hnamed)
  have hn : s.handles[r.filedUnder]? = some n := hdomain ▸ h.mapped n st hst hcurrent
  rw [Store.add_fst, ← h.contains_eq, contains_of_some hn]
  exact ⟨rfl, h.file hn⟩

end SharedStore

namespace Adder

def waiting (a : Adder) : List Report :=
  match a.phase with
  | .done => []
  | _ => [a.report]

/-- That a handle that the adder holds is of the domain of its report. -/
def Aware (a : Adder) (s : SharedStore) : Prop :=
  ∀ n, a.phase = .holding n → s.Names n a.report.filedUnder

/-- What a step of an adder can be, with the answer, the phase and the store after it. -/
inductive Moves (a : Adder) (s : SharedStore) : Option Bool → Phase → SharedStore → Prop where
  | find (n : Nat) (hphase : a.phase = .looking) (hn : s.handles[a.report.filedUnder]? = some n) :
      Moves a s none (.holding n) s
  | miss (hphase : a.phase = .looking) (hn : s.handles[a.report.filedUnder]? = none) :
      Moves a s none .creating s
  | commit (n : Nat) (s' : SharedStore) (hphase : a.phase = .holding n)
      (hcommit : s.commit? n a.report = some s') : Moves a s (some false) .done s'
  | retry (n : Nat) (hphase : a.phase = .holding n) (hcommit : s.commit? n a.report = none) :
      Moves a s none .looking s
  | create (hphase : a.phase = .creating) :
      Moves a s (some (s.create a.report).1) .done (s.create a.report).2
  | rest (hphase : a.phase = .done) : Moves a s none .done s

variable {a : Adder} {s s' : SharedStore} {t : Store} {created? : Option Bool} {phase : Phase}

private theorem moves_step (a : Adder) (s : SharedStore) :
    a.Moves s (a.step s).1 (a.step s).2.1 (a.step s).2.2 := by
  unfold step
  cases hphase : a.phase with
  | looking =>
    cases hn : s.handles[a.report.filedUnder]? with
    | none => exact .miss hphase hn
    | some n => exact .find n hphase hn
  | holding n =>
    cases hcommit : s.commit? n a.report with
    | none =>
      simp only [hcommit]
      exact .retry n hphase hcommit
    | some s' =>
      simp only [hcommit]
      exact .commit n s' hphase hcommit
  | creating => exact .create hphase
  | done => exact .rest hphase

private theorem Moves.silent (h : a.Moves s none phase s') : s' = s := by
  cases h <;> rfl

private theorem Moves.answered {created : Bool} (h : a.Moves s (some created) phase s')
    (hs : s.Shows t) (ha : a.Aware s) :
    created = (t.add a.report).1 ∧ s'.Shows (t.add a.report).2 := by
  cases h with
  | commit n _ hphase hcommit =>
    obtain ⟨hanswer, hshows⟩ := hs.commit? (ha n hphase) hcommit
    exact ⟨hanswer.symm, hshows⟩
  | create hphase => exact hs.create a.report

private theorem Moves.namesKept (h : a.Moves s created? phase s') : s.NamesKept s' := by
  cases h with
  | commit n _ hphase hcommit =>
    obtain ⟨st, -, -, rfl⟩ := SharedStore.commit?_eq_some hcommit
    exact SharedStore.namesKept_file n a.report
  | create hphase => exact SharedStore.namesKept_create a.report
  | _ => exact fun _ _ hnames => hnames

private theorem Moves.aware (h : a.Moves s created? phase s') (hs : s.Shows t) :
    Aware { a with phase } s' := by
  intro n hn
  cases h with
  | find m hphase hm =>
    obtain rfl := Phase.holding.inj hn
    obtain ⟨st, l, hst, -, hkeeps⟩ := hs.known _ m hm
    exact ⟨st, hst, hkeeps.domain_eq⟩
  | _ => cases hn

private theorem Moves.waiting (h : a.Moves s created? phase s') :
    a.waiting = (created?.map fun _ => a.report).toList ++ Adder.waiting { a with phase } := by
  cases h <;> simp [Adder.waiting, *]

/-- How many undisturbed steps an adder needs at most; it has to look again where it holds the
handle of a retired state. -/
def stepsLeft (a : Adder) (s : SharedStore) : Nat :=
  match a.phase with
  | .looking => 2
  | .holding n => if (s.commit? n a.report).isSome then 1 else 3
  | .creating => 1
  | .done => 0

private theorem stepsLeft_eq_zero (h : a.stepsLeft s = 0) : a.phase = .done := by
  unfold stepsLeft at h
  split at h
  · cases h
  · split at h <;> cases h
  · cases h
  · assumption

private theorem stepsLeft_le_three (a : Adder) (s : SharedStore) : a.stepsLeft s ≤ 3 := by
  unfold stepsLeft
  split
  · decide
  · split <;> decide
  · decide
  · decide

/-- A step takes an adder nearer to the end, for the state that it has just found is in use. -/
private theorem Moves.stepsLeft_le (h : a.Moves s created? phase s') (hs : s.Shows t) :
    stepsLeft { a with phase } s' ≤ a.stepsLeft s - 1 := by
  cases h with
  | find n hphase hn =>
    obtain ⟨st, l, hst, -, hkeeps⟩ := hs.known _ n hn
    simp [stepsLeft, SharedStore.commit?, hphase, hst, hkeeps.current]
  | miss hphase hn => simp [stepsLeft, hphase]
  | commit n _ hphase hcommit => simp [stepsLeft]
  | retry n hphase hcommit => simp [stepsLeft, hphase, hcommit]
  | create hphase => simp [stepsLeft]
  | rest hphase => simp [stepsLeft]

end Adder

namespace Traffic

def waiting (t : Traffic) : List Report :=
  t.adders.flatMap Adder.waiting

/-- That the store shows the ledgers, whatever handles the adders hold. -/
structure Sound (t : Traffic) (s : Store) : Prop where
  shows : t.store.Shows s
  aware : ∀ a ∈ t.adders, a.Aware t.store

variable {t : Traffic} {s : Store}

private theorem Sound.of_namesKept (h : t.Sound s) {store : SharedStore} {s' : Store}
    (hshows : store.Shows s') (hkept : t.store.NamesKept store) :
    Sound { t with store } s' where
  shows := hshows
  aware a ha n hn := hkept n _ (h.aware a ha n hn)

private theorem step_move {n : Nat} {a : Adder} (ha : t.adders[n]? = some a) :
    ∃ created? phase store, a.Moves t.store created? phase store ∧
      t.step (.move n) =
        (created?.map (.add a.report, ·), ⟨store, t.adders.set n { a with phase }⟩) :=
  ⟨_, _, _, a.moves_step t.store, by simp only [step, ha]⟩

private theorem step_move_none {n : Nat} (ha : t.adders[n]? = none) :
    t.step (.move n) = (none, t) := by
  simp only [step, ha]

/-- What an event changes in the store, it changes in the ledgers, with the same answer. -/
theorem step_sound (h : t.Sound s) (e : Event) :
    (t.step e).1.toList.map Prod.snd = s.answers ((t.step e).1.toList.map Prod.fst) ∧
      (t.step e).2.Sound (((t.step e).1.toList.map Prod.fst).foldl Store.apply s) := by
  cases e with
  | move n =>
    cases ha : t.adders[n]? with
    | none =>
      rw [step_move_none ha]
      exact ⟨rfl, h⟩
    | some a =>
      obtain ⟨created?, phase, store, hmoves, hstep⟩ := step_move ha
      have hadders : ∀ b ∈ t.adders.set n { a with phase }, b.Aware store := by
        intro b hb
        obtain hb | rfl := List.mem_or_eq_of_mem_set hb
        · exact fun m hm => hmoves.namesKept m _ (h.aware b hb m hm)
        · exact hmoves.aware h.shows
      rw [hstep]
      cases created? with
      | none => exact ⟨rfl, hmoves.silent ▸ h.shows, hadders⟩
      | some created =>
        obtain ⟨rfl, hshows⟩ := hmoves.answered h.shows (h.aware a (List.mem_of_getElem? ha))
        exact ⟨rfl, hshows, hadders⟩
  | delete domain =>
    obtain ⟨hanswer, hshows⟩ := h.shows.delete domain
    exact ⟨by simp [step, hanswer, Store.answers, Store.answer],
      h.of_namesKept hshows (SharedStore.namesKept_delete domain)⟩
  | clear => exact ⟨rfl, h.of_namesKept h.shows.clear SharedStore.namesKept_clear⟩

theorem run_sound (h : t.Sound s) (es : List Event) :
    (t.run es).1.map Prod.snd = s.answers ((t.run es).1.map Prod.fst) ∧
      (t.run es).2.Sound (((t.run es).1.map Prod.fst).foldl Store.apply s) := by
  induction es generalizing t s with
  | nil => exact ⟨rfl, h⟩
  | cons e es ih =>
    obtain ⟨hanswer, hsound⟩ := step_sound h e
    obtain ⟨hanswers, hrest⟩ := ih hsound
    simp only [run, List.map_append, List.foldl_append, Store.answers_append]
    exact ⟨by rw [hanswer, hanswers], hrest⟩

private theorem step_waiting (t : Traffic) (e : Event) :
    t.waiting.Perm (((t.step e).1.toList.map Prod.fst).flatMap Store.Change.reports ++
      (t.step e).2.waiting) := by
  cases e with
  | move n =>
    cases ha : t.adders[n]? with
    | none =>
      rw [step_move_none ha]
      exact List.Perm.refl _
    | some a =>
      obtain ⟨created?, phase, store, hmoves, hstep⟩ := step_move ha
      obtain ⟨hlt, hget⟩ := List.getElem?_eq_some_iff.mp ha
      obtain ⟨front, back, hbefore, -, hafter⟩ := List.exists_of_set hlt
      have hfiled : (((t.step (.move n)).1.toList.map Prod.fst).flatMap Store.Change.reports) =
          (created?.map fun _ => a.report).toList := by
        rw [hstep]
        cases created? <;> rfl
      rw [hfiled, hstep, waiting, waiting, hafter, hbefore, hget, List.flatMap_append,
        List.flatMap_cons, hmoves.waiting, List.flatMap_append, List.flatMap_cons,
        List.append_assoc]
      exact List.perm_append_comm_assoc _ _ _
  | delete domain => exact List.Perm.refl _
  | clear => exact List.Perm.refl _

private theorem run_waiting (t : Traffic) (es : List Event) :
    t.waiting.Perm (((t.run es).1.map Prod.fst).flatMap Store.Change.reports ++
      (t.run es).2.waiting) := by
  induction es generalizing t with
  | nil => exact List.Perm.refl _
  | cons e es ih =>
    have hrest := (ih (t.step e).2).append_left
      (((t.step e).1.toList.map Prod.fst).flatMap Store.Change.reports)
    simp only [run, List.map_append, List.flatMap_append, List.append_assoc]
    exact (step_waiting t e).trans hrest

def start (rs : List Report) : Traffic where
  adders := rs.map fun r => { report := r }

private theorem start_sound (rs : List Report) : (start rs).Sound Store.empty where
  shows := SharedStore.shows_empty
  aware a ha n hn := by
    obtain ⟨r, -, rfl⟩ := List.mem_map.mp ha
    cases hn

/-- However the steps of adders and the changes of others follow on each other, the completed changes
in their order account for all answers and for what the store shows. Each report is either filed by
one of them or waits. -/
theorem run_start (rs : List Report) (es : List Event) :
    let changes := ((start rs).run es).1.map Prod.fst
    let after := ((start rs).run es).2
    ((start rs).run es).1.map Prod.snd = Store.empty.answers changes ∧
      after.store.Agrees (Store.run changes) ∧
      rs.Perm (changes.flatMap Store.Change.reports ++ after.waiting) := by
  intro changes after
  obtain ⟨hanswers, hsound⟩ := run_sound (start_sound rs) es
  have hwaiting : (start rs).waiting = rs := by
    rw [waiting, start, List.flatMap_map]
    exact List.flatMap_singleton' rs
  refine ⟨hanswers, hsound.shows.agrees, ?_⟩
  have hperm := run_waiting (start rs) es
  rwa [hwaiting] at hperm

private theorem run_moves (h : t.Sound s) {n : Nat} {a : Adder} (ha : t.adders[n]? = some a)
    {k : Nat} (hk : a.stepsLeft t.store ≤ k) :
    ∃ b, (t.run (List.replicate k (.move n))).2.adders[n]? = some b ∧ b.phase = .done := by
  induction k generalizing t s a with
  | zero => exact ⟨a, ha, Adder.stepsLeft_eq_zero (Nat.le_zero.mp hk)⟩
  | succ k ih =>
    have hsound := (step_sound h (.move n)).2
    obtain ⟨created?, phase, store, hmoves, hstep⟩ := step_move ha
    have hafter : (t.step (.move n)).2.adders[n]? = some { a with phase } := by
      obtain ⟨hlt, -⟩ := List.getElem?_eq_some_iff.mp ha
      rw [hstep]
      exact List.getElem?_set_self hlt
    have hleft : Adder.stepsLeft { a with phase } (t.step (.move n)).2.store ≤ k := by
      rw [hstep]
      exact (hmoves.stepsLeft_le h.shows).trans (Nat.sub_le_of_le_add hk)
    exact ih hsound hafter hleft

/-- An adder that nobody disturbs is done after three steps, wherever it was. -/
theorem run_three_moves (h : t.Sound s) {n : Nat} {a : Adder} (ha : t.adders[n]? = some a) :
    ∃ b, (t.run (List.replicate 3 (.move n))).2.adders[n]? = some b ∧ b.phase = .done :=
  run_moves h ha (a.stepsLeft_le_three t.store)

end Traffic

end DmarcReports
