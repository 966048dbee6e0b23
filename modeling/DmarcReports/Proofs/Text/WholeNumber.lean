import Mathlib.Data.List.Induction
import DmarcReports.Text.Numeral

/-!
How whole numbers are written in decimal, and that the readers take exactly these texts.
-/

set_option autoImplicit false
set_option relaxedAutoImplicit false

namespace DmarcReports.Text

/-- That the digits write this number. -/
inductive Digits : List Char → Nat → Prop where
  | one {c : Char} (digit : c.isDigit = true) : Digits [c] (digitValue c)
  | more {cs : List Char} {n : Nat} {c : Char} (front : Digits cs n) (digit : c.isDigit = true) :
      Digits (cs ++ [c]) (10 * n + digitValue c)

/-- That the text writes this number, which has no minus sign. -/
inductive Unsigned : List Char → Nat → Prop where
  | bare {cs : List Char} {n : Nat} (digits : Digits cs n) : Unsigned cs n
  | plus {cs : List Char} {n : Nat} (digits : Digits cs n) : Unsigned ('+' :: cs) n

inductive Signed : List Char → Int → Prop where
  | unsigned {cs : List Char} {n : Nat} (number : Unsigned cs n) : Signed cs n
  | minus {cs : List Char} {n : Nat} (digits : Digits cs n) : Signed ('-' :: cs) (-n)

private theorem Digits.ne_nil {cs : List Char} {n : Nat} (h : Digits cs n) : cs ≠ [] := by
  cases h with
  | one => exact List.cons_ne_nil _ _
  | more => exact List.append_ne_nil_of_right_ne_nil _ (List.cons_ne_nil _ _)

theorem Digits.isDigit {cs : List Char} {n : Nat} (h : Digits cs n) :
    ∀ c ∈ cs, c.isDigit = true := by
  induction h with
  | one digit => simpa using digit
  | more _ digit ih =>
    intro d hd
    rcases List.mem_append.mp hd with hd | hd
    · exact ih d hd
    · obtain rfl := List.mem_singleton.mp hd
      exact digit

private theorem Digits.foldl_eq {cs : List Char} {n : Nat} (h : Digits cs n) :
    cs.foldl (fun n c => 10 * n + digitValue c) 0 = n := by
  induction h with
  | one => simp
  | more _ _ ih => rw [List.foldl_append, ih, List.foldl_cons, List.foldl_nil]

private theorem digits_foldl {cs : List Char} (hne : cs ≠ []) (h : ∀ c ∈ cs, c.isDigit = true) :
    Digits cs (cs.foldl (fun n c => 10 * n + digitValue c) 0) := by
  -- The fold adds the last digit last, so the induction takes digits off the end.
  induction cs using List.reverseRecOn with
  | nil => exact absurd rfl hne
  | append_singleton cs c ih =>
    have hc : c.isDigit = true := h c (by simp)
    rw [List.foldl_append, List.foldl_cons, List.foldl_nil]
    by_cases hnil : cs = []
    · subst hnil
      simpa using Digits.one hc
    · exact .more (ih hnil fun d hd => h d (List.mem_append_left _ hd)) hc

private theorem digits?_eq_some_iff {cs : List Char} {n : Nat} :
    digits? cs = some n ↔ Digits cs n := by
  unfold digits?
  constructor
  · intro h
    split at h
    · rename_i hcs
      obtain rfl := Option.some.inj h
      exact digits_foldl hcs.1 (List.all_eq_true.mp hcs.2)
    · cases h
  · intro h
    rw [if_pos ⟨h.ne_nil, List.all_eq_true.mpr h.isDigit⟩, h.foldl_eq]

private theorem Digits.head_ne {cs : List Char} {c : Char} {n : Nat} (h : Digits (c :: cs) n) :
    c ≠ '+' ∧ c ≠ '-' := by
  have hdigit : c.isDigit = true := h.isDigit c List.mem_cons_self
  constructor
  · rintro rfl
    exact absurd hdigit (by decide)
  · rintro rfl
    exact absurd hdigit (by decide)

theorem digits?_dropPlus_iff {cs : List Char} {n : Nat} :
    digits? (dropPlus cs) = some n ↔ Unsigned cs n := by
  rw [digits?_eq_some_iff]
  constructor
  · intro h
    unfold dropPlus at h
    split at h
    · exact .plus h
    · exact .bare h
  · intro h
    cases h with
    | plus digits => exact digits
    | bare digits =>
      unfold dropPlus
      split
      · exact absurd rfl digits.head_ne.1
      · exact digits

private theorem unsigned?_eq_some_iff {bound n : Nat} {cs : List Char} :
    unsigned? bound cs = some n ↔ Unsigned cs n ∧ n < bound := by
  simp only [unsigned?, Option.filter_eq_some_iff, decide_eq_true_eq, digits?_dropPlus_iff]

theorem Unsigned.unique {cs : List Char} {m n : Nat} (hm : Unsigned cs m) (hn : Unsigned cs n) :
    m = n := by
  rw [← digits?_dropPlus_iff] at hm hn
  exact Option.some.inj (hm.symm.trans hn)

private theorem Unsigned.head_ne {cs : List Char} {c : Char} {n : Nat} (h : Unsigned (c :: cs) n) :
    c ≠ '-' := by
  cases h with
  | bare digits => exact digits.head_ne.2
  | plus => decide

private theorem signed?_minus_eq_some_iff {bound : Nat} {i : Int} {cs : List Char} :
    signed? bound ('-' :: cs) = some i ↔ ∃ n, (Digits cs n ∧ n ≤ bound) ∧ -(n : Int) = i := by
  simp only [signed?, Option.map_eq_some_iff, Option.bind_eq_bind, Option.pure_def,
    Option.bind_eq_some_iff, Option.filter_eq_some_iff, decide_eq_true_eq, digits?_eq_some_iff,
    Option.some.injEq]
  constructor
  · rintro ⟨_, ⟨n, hn, rfl⟩, rfl⟩
    exact ⟨n, hn, rfl⟩
  · rintro ⟨n, hn, rfl⟩
    exact ⟨n, ⟨n, hn, rfl⟩, rfl⟩

private theorem signed?_of_head?_ne {bound : Nat} {i : Int} {cs : List Char}
    (h : cs.head? ≠ some '-') :
    signed? bound cs = some i ↔ ∃ n, (Unsigned cs n ∧ n < bound) ∧ (n : Int) = i := by
  unfold signed?
  split
  · exact absurd rfl h
  · simp only [Option.map_id', Option.bind_eq_bind, Option.pure_def, Option.bind_eq_some_iff,
      unsigned?_eq_some_iff, Option.some.injEq]

private theorem signed?_eq_some_iff {bound : Nat} (hpos : 0 < bound) {i : Int} {cs : List Char} :
    signed? bound cs = some i ↔ Signed cs i ∧ -(bound : Int) ≤ i ∧ i < bound := by
  by_cases hminus : cs.head? = some '-'
  · obtain ⟨ds, rfl⟩ : ∃ ds, cs = '-' :: ds := List.head?_eq_some_iff.mp hminus
    rw [signed?_minus_eq_some_iff]
    constructor
    · rintro ⟨n, ⟨hn, hbound⟩, rfl⟩
      exact ⟨.minus hn, by omega, by omega⟩
    · rintro ⟨hi, hlow, -⟩
      cases hi with
      | minus hn => exact ⟨_, ⟨hn, by omega⟩, rfl⟩
      | unsigned hn => exact absurd rfl hn.head_ne
  · rw [signed?_of_head?_ne hminus]
    constructor
    · rintro ⟨n, ⟨hn, hbound⟩, rfl⟩
      exact ⟨.unsigned hn, by omega, by omega⟩
    · rintro ⟨hi, -, hhigh⟩
      cases hi with
      | minus => exact absurd rfl hminus
      | unsigned hn => exact ⟨_, ⟨hn, by omega⟩, rfl⟩

theorem uint64?_eq_some_iff {cs : List Char} {v : UInt64} :
    uint64? cs = some v ↔ Unsigned cs v.toNat := by
  simp only [uint64?, Option.map_eq_some_iff, unsigned?_eq_some_iff]
  constructor
  · rintro ⟨n, ⟨hn, hbound⟩, rfl⟩
    rwa [UInt64.toNat_ofNat_of_lt' hbound]
  · intro h
    exact ⟨v.toNat, ⟨h, v.toNat_lt⟩, UInt64.ofNat_toNat⟩

theorem uint32?_eq_some_iff {cs : List Char} {v : UInt32} :
    uint32? cs = some v ↔ Unsigned cs v.toNat := by
  simp only [uint32?, Option.map_eq_some_iff, unsigned?_eq_some_iff]
  constructor
  · rintro ⟨n, ⟨hn, hbound⟩, rfl⟩
    rwa [UInt32.toNat_ofNat_of_lt' hbound]
  · intro h
    exact ⟨v.toNat, ⟨h, v.toNat_lt⟩, UInt32.ofNat_toNat⟩

theorem int64?_eq_some_iff {cs : List Char} {v : Int64} :
    int64? cs = some v ↔ Signed cs v.toInt := by
  have hpos : 0 < int64Bound := by decide
  simp only [int64?, Option.map_eq_some_iff, signed?_eq_some_iff hpos]
  constructor
  · rintro ⟨i, ⟨hi, hlow, hhigh⟩, rfl⟩
    rwa [Int64.toInt_ofInt_of_le hlow hhigh]
  · intro h
    exact ⟨v.toInt, ⟨h, v.le_toInt, v.toInt_lt⟩, Int64.ofInt_toInt v⟩

end DmarcReports.Text
