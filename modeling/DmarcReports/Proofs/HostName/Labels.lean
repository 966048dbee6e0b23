import DmarcReports.HostName

/-!
The labels of a valid host name.

The reader goes through a name once and keeps only the length of the label it is in and whether a
hyphen came last. Main statement: `isValid_iff_completes`.
-/

set_option autoImplicit false
set_option relaxedAutoImplicit false

namespace DmarcReports.HostName

/-- The parts of a name between its dots. -/
def labels (name : String) : List (List Char) :=
  name.toList.splitOn '.'

structure Begins (cs : List Char) : Prop where
  chars : ∀ c ∈ cs, c.isAlphanum = true ∨ c = '-'
  length_le : cs.length ≤ 63
  head : cs.head? ≠ some '-'

/-- A label: letters, digits and hyphens of ASCII, with no hyphen at either end. -/
structure IsLabel (cs : List Char) : Prop extends Begins cs where
  length_pos : 1 ≤ cs.length
  last : cs.getLast? ≠ some '-'

/-- Labels that make a name, behind so many others. -/
structure Completes (before : Nat) (ls : List (List Char)) : Prop where
  two_le : 2 ≤ before + ls.length
  labels : ∀ l ∈ ls, IsLabel l
  last : ∀ l, ls.getLast? = some l → 2 ≤ l.length

variable {cs l : List Char} {c : Char} {n : Nat}

private theorem begins_nil : Begins [] := ⟨nofun, Nat.zero_le _, nofun⟩

private theorem Begins.of_prefix {p : List Char} (h : Begins p) (hl : l <+: p) : Begins l := by
  refine ⟨fun c hc => h.chars c (hl.subset hc), Nat.le_trans hl.length_le h.length_le, ?_⟩
  cases l with
  | nil => nofun
  | cons a as =>
    obtain ⟨rest, rfl⟩ := hl
    exact h.head

theorem Begins.dot_notMem (h : Begins l) : '.' ∉ l := by
  intro hdot
  rcases h.chars '.' hdot with hc | hc <;> simp at hc

private theorem begins_concat_iff (h : Begins l) :
    Begins (l ++ [c]) ↔
      l.length ≠ 63 ∧ (c.isAlphanum = true ∨ c = '-' ∧ l.length ≠ 0) := by
  have hlength := h.length_le
  constructor
  · intro hc
    have hroom := hc.length_le
    rw [List.length_append, List.length_singleton] at hroom
    refine ⟨by omega, (hc.chars c (by simp)).imp_right fun hhyphen => ⟨hhyphen, ?_⟩⟩
    rintro hempty
    obtain rfl := List.length_eq_zero_iff.mp hempty
    exact hc.head (by simp [hhyphen])
  · rintro ⟨hroom, hchar⟩
    refine ⟨?_, ?_, ?_⟩
    · intro d hd
      rcases List.mem_append.mp hd with hd | hd
      · exact h.chars d hd
      · obtain rfl := List.mem_singleton.mp hd
        exact hchar.imp_right And.left
    · rw [List.length_append, List.length_singleton]
      omega
    · cases l with
      | nil =>
        rcases hchar with hc | ⟨-, hempty⟩
        · rintro hhyphen
          obtain rfl : c = '-' := by simpa using hhyphen
          simp at hc
        · exact absurd rfl hempty
      | cons a as => exact h.head

/-- Where the reader stands behind so many labels and the start of the next one. -/
def Cursor.behind (n : Nat) (l : List Char) : Cursor :=
  ⟨n, l.length, l.getLast? == some '-'⟩

private theorem Cursor.behind_concat_hyphen : behind n (l ++ ['-']) = ⟨n, l.length + 1, true⟩ := by
  simp [behind]

private theorem Cursor.behind_concat_of_ne (hc : c ≠ '-') :
    behind n (l ++ [c]) = ⟨n, l.length + 1, false⟩ := by
  simp [behind, hc]

private theorem Cursor.advance_behind_dot (h : Begins l) {k : Cursor} :
    (behind n l).advance '.' = some k ↔ IsLabel l ∧ behind (n + 1) [] = k := by
  have hend : ((behind n l).length = 0 ∨ (behind n l).hyphen = true) ↔ ¬IsLabel l := by
    constructor
    · rintro (hempty | hhyphen) hl
      · exact absurd hl.length_pos (by simp [show l.length = 0 from hempty])
      · exact hl.last (by simpa [behind] using hhyphen)
    · intro hl
      rcases Nat.eq_zero_or_pos l.length with hempty | hpos
      · exact .inl hempty
      · refine .inr (Decidable.byContradiction fun hlast => hl ⟨h, hpos, ?_⟩)
        simpa [behind] using hlast
  unfold Cursor.advance
  rw [if_pos rfl]
  by_cases hl : IsLabel l
  · rw [if_neg fun hbad => hend.mp hbad hl, Option.some.injEq, and_iff_right hl]
    exact Iff.rfl
  · rw [if_pos (hend.mpr hl)]
    exact ⟨nofun, fun hk => absurd hk.1 hl⟩

private theorem Cursor.advance_behind_of_ne (h : Begins l) (hdot : c ≠ '.') {k : Cursor} :
    (behind n l).advance c = some k ↔ Begins (l ++ [c]) ∧ behind n (l ++ [c]) = k := by
  unfold Cursor.advance
  rw [if_neg hdot, begins_concat_iff h]
  by_cases hroom : l.length = 63
  · rw [if_pos (show (behind n l).length = maxLabel from hroom)]
    exact ⟨nofun, fun hk => absurd hroom hk.1.1⟩
  rw [if_neg (show ¬(behind n l).length = maxLabel from hroom)]
  by_cases hchar : c.isAlphanum = true
  · have hhyphen : c ≠ '-' := by
      rintro rfl
      simp at hchar
    rw [if_pos hchar, behind_concat_of_ne hhyphen, Option.some.injEq]
    exact ⟨fun hk => ⟨⟨hroom, .inl hchar⟩, hk⟩, And.right⟩
  rw [if_neg hchar]
  by_cases hhyphen : c = '-' ∧ l.length ≠ 0
  · rw [if_pos (show c = '-' ∧ (behind n l).length ≠ 0 from hhyphen), Option.some.injEq]
    obtain ⟨rfl, hlength⟩ := hhyphen
    rw [behind_concat_hyphen]
    exact ⟨fun hk => ⟨⟨hroom, .inr ⟨rfl, hlength⟩⟩, hk⟩, And.right⟩
  · rw [if_neg (show ¬(c = '-' ∧ (behind n l).length ≠ 0) from hhyphen)]
    exact ⟨nofun, fun hk => absurd hk.1.2 (not_or.mpr ⟨hchar, hhyphen⟩)⟩

private theorem Cursor.mayEnd_iff (k : Cursor) :
    k.mayEnd = true ↔ k.labels ≠ 0 ∧ 2 ≤ k.length ∧ k.hyphen = false := by
  simp [mayEnd, and_assoc]

private theorem Cursor.mayEnd_behind_iff (h : Begins l) :
    (behind n l).mayEnd = true ↔ Completes n [l] := by
  have hhyphen : (behind n l).hyphen = false ↔ l.getLast? ≠ some '-' := by simp [behind]
  rw [mayEnd_iff, hhyphen]
  constructor
  · rintro ⟨hbefore, hlength, hlast⟩
    have hbefore : n ≠ 0 := hbefore
    have hlength : 2 ≤ l.length := hlength
    refine ⟨?_, ?_, ?_⟩
    · rw [List.length_singleton]
      omega
    · exact List.forall_mem_singleton.mpr ⟨h, by omega, hlast⟩
    · rintro p hp
      obtain rfl : l = p := Option.some.inj hp
      exact hlength
  · rintro ⟨hbefore, hlabels, hlast⟩
    rw [List.length_singleton] at hbefore
    have hbefore : n ≠ 0 := by omega
    exact ⟨hbefore, hlast l rfl, (hlabels l (List.mem_singleton_self l)).last⟩

def Cursor.Admits (k : Cursor) (cs : List Char) : Prop :=
  ∃ k', cs.foldlM Cursor.advance k = some k' ∧ k'.mayEnd = true

private theorem Cursor.admits_cons_iff {k : Cursor} :
    k.Admits (c :: cs) ↔ ∃ k', k.advance c = some k' ∧ k'.Admits cs := by
  simp only [Admits, List.foldlM_cons, Option.bind_eq_bind, Option.bind_eq_some_iff]
  constructor
  · rintro ⟨k'', ⟨k', hk', hrun⟩, hend⟩
    exact ⟨k', hk', k'', hrun, hend⟩
  · rintro ⟨k', hk', k'', hrun, hend⟩
    exact ⟨k'', ⟨k', hk', hrun⟩, hend⟩

private theorem completes_cons_iff {ls : List (List Char)} (hne : ls ≠ []) :
    Completes n (l :: ls) ↔ IsLabel l ∧ Completes (n + 1) ls := by
  have hlast : (l :: ls).getLast? = ls.getLast? := by
    rw [List.getLast?_cons, List.getLast?_eq_some_getLast hne]
    rfl
  have hcount : 2 ≤ n + (l :: ls).length ↔ 2 ≤ n + 1 + ls.length := by
    rw [List.length_cons]
    omega
  constructor
  · rintro ⟨htwo, hlabels, hlong⟩
    obtain ⟨hl, hls⟩ := List.forall_mem_cons.mp hlabels
    exact ⟨hl, hcount.mp htwo, hls, fun p hp => hlong p (hlast ▸ hp)⟩
  · rintro ⟨hl, htwo, hlabels, hlong⟩
    exact ⟨hcount.mpr htwo, List.forall_mem_cons.mpr ⟨hl, hlabels⟩,
      fun p hp => hlong p (hlast ▸ hp)⟩

private theorem splitOn_append_of_notMem (hl : '.' ∉ l) (cs : List Char) :
    (l ++ cs).splitOn '.' = (cs.splitOn '.').modifyHead (l ++ ·) := by
  induction l with
  | nil => exact (congrFun List.modifyHead_id _).symm
  | cons a as ih =>
    obtain ⟨ha, has⟩ := List.ne_and_not_mem_of_not_mem_cons hl
    rw [List.cons_append, List.splitOn_cons_eq_if_modifyHead, if_neg (by simpa using Ne.symm ha),
      ih has, List.modifyHead_modifyHead]
    rfl

/-- The reader admits what completes the label that it is in and puts well-formed ones behind. -/
private theorem Cursor.admits_behind_iff (h : Begins l) (cs : List Char) :
    (behind n l).Admits cs ↔ Completes n ((l ++ cs).splitOn '.') := by
  induction cs generalizing n l with
  | nil =>
    rw [List.append_nil, List.splitOn_eq_singleton h.dot_notMem, ← mayEnd_behind_iff h]
    simp [Admits]
  | cons c cs ih =>
    rw [admits_cons_iff]
    by_cases hdot : c = '.'
    · subst hdot
      rw [List.splitOn_append_cons_self, List.splitOn_eq_singleton h.dot_notMem,
        List.singleton_append, completes_cons_iff (List.splitOn_ne_nil '.' cs)]
      simp only [advance_behind_dot h, and_assoc, exists_and_left, exists_eq_left']
      rw [ih begins_nil, List.nil_append]
    · simp only [advance_behind_of_ne h hdot, and_assoc, exists_and_left, exists_eq_left']
      have hassoc : l ++ c :: cs = (l ++ [c]) ++ cs := by simp
      constructor
      · rintro ⟨hnext, hadmits⟩
        rwa [hassoc, ← ih hnext]
      · intro hcompletes
        rw [hassoc] at hcompletes
        have hnodot : '.' ∉ l ++ [c] := by
          simp [h.dot_notMem, Ne.symm hdot]
        obtain ⟨p, ps, hsplit⟩ := List.exists_cons_of_ne_nil (List.splitOn_ne_nil '.' cs)
        rw [splitOn_append_of_notMem hnodot, hsplit, List.modifyHead_cons] at hcompletes
        have hfirst : IsLabel ((l ++ [c]) ++ p) := hcompletes.labels _ List.mem_cons_self
        have hnext : Begins (l ++ [c]) := hfirst.toBegins.of_prefix (List.prefix_append _ _)
        refine ⟨hnext, (ih hnext).mpr ?_⟩
        rwa [splitOn_append_of_notMem hnodot, hsplit, List.modifyHead_cons]

theorem isValid_iff_completes (name : String) :
    isValid name = true ↔ name.utf8ByteSize ≤ 253 ∧ Completes 0 (labels name) := by
  have hadmits : (Cursor.behind 0 []).Admits name.toList ↔ Completes 0 (labels name) :=
    Cursor.admits_behind_iff begins_nil name.toList
  rw [← hadmits, isValid, Bool.and_eq_true, decide_eq_true_eq]
  refine and_congr_right fun _ => ?_
  change _ ↔ ∃ k, name.toList.foldlM Cursor.advance ⟨0, 0, false⟩ = some k ∧ k.mayEnd = true
  cases name.toList.foldlM Cursor.advance ⟨0, 0, false⟩ with
  | none => simp
  | some k => simp

end DmarcReports.HostName
