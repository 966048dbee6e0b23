import DmarcReports.Text.Ascii
import DmarcReports.Text.Lowercase

/-!
What lower-casing makes of a word of ASCII.

A capital letter of ASCII goes to its small letter, and no character of any other script goes to
ASCII alone, but for the Kelvin sign, which goes to `k`. Main statement: `lowercase_eq_iff`.
-/

set_option autoImplicit false
set_option relaxedAutoImplicit false

namespace DmarcReports.Text

/-- What one character comes to between its neighbours, the nearest one before it first. -/
def lowered (before : List Char) (c : Char) (after : List Char) : List Char :=
  if c = 'Σ' then [if meetsCased before && !meetsCased after then 'ς' else 'σ'] else lowerChar c

private theorem lowerFrom_cons (before : List Char) (c : Char) (after : List Char) :
    lowerFrom before (c :: after) = lowered before c after ++ lowerFrom (c :: before) after := rfl

private theorem lowerChar_ne_nil (c : Char) : lowerChar c ≠ [] := by
  unfold lowerChar
  split
  · exact List.cons_ne_nil _ _
  · split <;> exact List.cons_ne_nil _ _

private theorem lowered_ne_nil (before : List Char) (c : Char) (after : List Char) :
    lowered before c after ≠ [] := by
  unfold lowered
  split
  · exact List.cons_ne_nil _ _
  · exact lowerChar_ne_nil c

theorem lowercase_eq_empty_iff {s : String} : lowercase s = "" ↔ s = "" := by
  rw [lowercase, String.ofList_eq_empty_iff, ← String.toList_eq_nil_iff]
  cases s.toList with
  | nil => simp [lowerFrom]
  | cons c cs => simp [lowerFrom_cons, lowered_ne_nil]

/-- The characters of ASCII that come from no character outside of it. -/
def isUnmistakable (c : Char) : Bool :=
  c.toNat < 0x80 && c != 'k'

private theorem lowerChar_of_ascii {c : Char} (h : c.toNat < 0x80) : lowerChar c = [c.toLower] :=
  forall_ascii (p := fun c => lowerChar c = [c.toLower]) (by decide +kernel) h

private theorem spans_apart : ∀ s ∈ LowercaseTable.spans, s.last < 0x80 ∨
    (s.first = s.last ∧ s.target = 'k'.toNat) ∨
    (0x80 ≤ s.target ∧ (s.target + (s.last - s.first) < 0xD800 ∨
      (0xDFFF < s.target ∧ s.target + (s.last - s.first) < 0x110000))) := by
  decide +kernel

private theorem exists_of_lowerChar {c : Char} (h : 0x80 ≤ c.toNat) :
    ∃ d ∈ lowerChar c, isUnmistakable d = false := by
  unfold lowerChar
  split
  · exact ⟨Char.ofNat 0x307, List.mem_cons_of_mem _ List.mem_cons_self, by decide⟩
  · split
    · rename_i s hs
      refine ⟨_, List.mem_cons_self, ?_⟩
      have hholds := List.find?_some hs
      simp only [LowercaseTable.Span.holds, Bool.and_eq_true, decide_eq_true_eq] at hholds
      have hs' := List.mem_of_find?_eq_some hs
      rcases spans_apart s hs' with hlast | ⟨hone, hkelvin⟩ | ⟨hhigh, hvalid⟩
      · omega
      · have htarget : s.target + (c.toNat - s.first) = 'k'.toNat := by omega
        rw [htarget]
        rfl
      · have hchar : (s.target + (c.toNat - s.first)).isValidChar := by
          simp only [Nat.isValidChar]
          omega
        have hnumber : (Char.ofNat (s.target + (c.toNat - s.first))).toNat =
            s.target + (c.toNat - s.first) := by
          rw [Char.ofNat, dif_pos hchar]
          rfl
        simp only [isUnmistakable, hnumber, Bool.and_eq_false_iff, decide_eq_false_iff_not]
        omega
    · refine ⟨c, List.mem_cons_self, ?_⟩
      simp only [isUnmistakable, Bool.and_eq_false_iff, decide_eq_false_iff_not]
      omega

private theorem lowered_of_ascii {c : Char} (h : c.toNat < 0x80) (before after : List Char) :
    lowered before c after = [c.toLower] := by
  have hsigma : c ≠ 'Σ' := by
    rintro rfl
    exact absurd h (by decide)
  rw [lowered, if_neg hsigma, lowerChar_of_ascii h]

private theorem exists_of_lowered {c : Char} (h : 0x80 ≤ c.toNat) (before after : List Char) :
    ∃ d ∈ lowered before c after, isUnmistakable d = false := by
  unfold lowered
  split
  · refine ⟨_, List.mem_cons_self, ?_⟩
    split <;> rfl
  · exact exists_of_lowerChar h

theorem toLower_of_not_ascii {c : Char} (h : 0x80 ≤ c.toNat) : c.toLower = c := by
  have hupper : ¬(c.val ≥ 'A'.val ∧ c.val ≤ 'Z'.val) := by
    rintro ⟨-, hle⟩
    have hlow : c.toNat ≤ 'Z'.toNat := hle
    have hz : 'Z'.toNat = 0x5A := rfl
    omega
  exact dif_neg hupper

private theorem lowerFrom_eq_iff {ws : List Char} (hws : ∀ d ∈ ws, isUnmistakable d = true)
    (before cs : List Char) : lowerFrom before cs = ws ↔ asciiLower cs = ws := by
  induction cs generalizing before ws with
  | nil => rfl
  | cons c cs ih =>
    have hcons : asciiLower (c :: cs) = c.toLower :: asciiLower cs := rfl
    rw [lowerFrom_cons, hcons]
    by_cases hc : c.toNat < 0x80
    · rw [lowered_of_ascii hc, List.singleton_append]
      cases ws with
      | nil => simp
      | cons d ds =>
        rw [List.cons.injEq, List.cons.injEq, ih fun e he => hws e (List.mem_cons_of_mem d he)]
    · -- One of the characters that come from it does not fit into the word, nor does it itself.
      have hhigh : 0x80 ≤ c.toNat := Nat.le_of_not_lt hc
      constructor
      · rintro rfl
        obtain ⟨d, hd, hmistaken⟩ := exists_of_lowered hhigh before cs
        rw [hws d (List.mem_append_left _ hd)] at hmistaken
        cases hmistaken
      · rintro rfl
        have hself := hws _ List.mem_cons_self
        rw [toLower_of_not_ascii hhigh] at hself
        simp only [isUnmistakable, Bool.and_eq_true, decide_eq_true_eq] at hself
        exact absurd hself.1 hc

theorem lowercase_eq_iff {word : String} (hword : word.toList.all isUnmistakable = true)
    (hsmall : asciiLower word.toList = word.toList) (s : String) :
    lowercase s = word ↔ eqIgnoreCase s word = true := by
  rw [eqIgnoreCase, beq_iff_eq, hsmall, ← lowerFrom_eq_iff (List.all_eq_true.mp hword) [],
    lowercase, ← String.toList_inj, String.toList_ofList]

/-- The Kelvin sign comes to an ASCII letter, so no word with that letter is unmistakable. -/
example : lowercase "OK" = "ok" ∧ lowercase "O\u212a" = "ok" := by decide +kernel

end DmarcReports.Text
