import DmarcReports.Text.Blank
import DmarcReports.Text.Numeral

/-!
Numbers written in decimal are read back, and have no blank in them.
-/

set_option autoImplicit false
set_option relaxedAutoImplicit false

namespace DmarcReports.Text

def isNumeral (c : Char) : Bool :=
  c.isDigit || c == '-'

private theorem isDigit_of_mem_toDigits {n : Nat} {c : Char} (h : c ∈ Nat.toDigits 10 n) :
    c.isDigit = true :=
  Nat.isDigit_of_mem_toDigits (by decide) (by decide) h

private theorem digits?_toDigits (n : Nat) : digits? (Nat.toDigits 10 n) = some n := by
  have hall : (Nat.toDigits 10 n).all Char.isDigit = true :=
    List.all_eq_true.mpr fun _ hc => isDigit_of_mem_toDigits hc
  have hvalue : (Nat.toDigits 10 n).foldl (fun m c => 10 * m + digitValue c) 0 = n :=
    Nat.ofDigitChars_ten_toDigits
  rw [digits?, if_pos ⟨Nat.toDigits_ne_nil, hall⟩, hvalue]

private theorem toDigits_eq_cons (n : Nat) :
    ∃ c cs, Nat.toDigits 10 n = c :: cs ∧ c ≠ '+' ∧ c ≠ '-' := by
  obtain ⟨c, cs, hcs⟩ := List.exists_cons_of_ne_nil (Nat.toDigits_ne_nil (n := n) (b := 10))
  have hdigit : c.isDigit = true :=
    isDigit_of_mem_toDigits (n := n) (hcs ▸ List.mem_cons_self)
  refine ⟨c, cs, hcs, ?_, ?_⟩
  · rintro rfl
    exact absurd hdigit (by decide)
  · rintro rfl
    exact absurd hdigit (by decide)

private theorem unsigned?_toDigits {bound n : Nat} (h : n < bound) :
    unsigned? bound (Nat.toDigits 10 n) = some n := by
  obtain ⟨c, cs, hcs, hplus, _⟩ := toDigits_eq_cons n
  have hdrop : dropPlus (Nat.toDigits 10 n) = Nat.toDigits 10 n := by
    rw [hcs, dropPlus]
    intro _ heq
    exact hplus (List.cons.inj heq).1
  rw [unsigned?, hdrop, digits?_toDigits, Option.filter_some, if_pos (decide_eq_true h)]

private theorem signed?_toDigits {bound n : Nat} (h : n < bound) :
    signed? bound (Nat.toDigits 10 n) = some (n : Int) := by
  obtain ⟨c, cs, hcs, _, hminus⟩ := toDigits_eq_cons n
  have hunsigned := unsigned?_toDigits h
  rw [hcs] at hunsigned ⊢
  rw [signed?, hunsigned]
  · rfl
  · intro _ heq
    exact hminus (List.cons.inj heq).1

private theorem toList_toString_int (i : Int) :
    (toString i).toList =
      if 0 ≤ i then Nat.toDigits 10 i.toNat else '-' :: Nat.toDigits 10 (-i).toNat := by
  rw [Int.toString_eq_repr, Int.repr_eq_if]
  split
  · exact Nat.toList_repr
  · rw [String.toList_append, Nat.toList_repr]
    rfl

theorem uint64?_toString (n : UInt64) : uint64? (toString n.toNat).toList = some n := by
  have hbound : n.toNat < UInt64.size := n.toNat_lt
  have hlist : (toString n.toNat).toList = Nat.toDigits 10 n.toNat := Nat.toList_repr
  rw [uint64?, hlist, unsigned?_toDigits hbound, Option.map_some, UInt64.ofNat_toNat]

theorem int64?_toString {i : Int} (hlow : -(int64Bound : Int) ≤ i) (hhigh : i < int64Bound) :
    int64? (toString i).toList = some (Int64.ofInt i) := by
  rw [int64?, toList_toString_int]
  split
  · rename_i hpos
    have hlt : i.toNat < int64Bound := by omega
    rw [signed?_toDigits hlt, Option.map_some, Int.toNat_of_nonneg hpos]
  · rename_i hneg
    have hle : (-i).toNat ≤ int64Bound := by omega
    have hback : -((-i).toNat : Int) = i := by omega
    rw [signed?, digits?_toDigits, Option.filter_some, if_pos (decide_eq_true hle)]
    exact congrArg (fun j => some (Int64.ofInt j)) hback

theorem isNumeral_of_mem_toString_nat {n : Nat} {c : Char} (h : c ∈ (toString n).toList) :
    isNumeral c = true := by
  have hlist : (toString n).toList = Nat.toDigits 10 n := Nat.toList_repr
  rw [hlist] at h
  simp [isNumeral, isDigit_of_mem_toDigits h]

theorem isNumeral_of_mem_toString_int {i : Int} {c : Char} (h : c ∈ (toString i).toList) :
    isNumeral c = true := by
  rw [toList_toString_int] at h
  split at h
  · simp [isNumeral, isDigit_of_mem_toDigits h]
  · rcases List.mem_cons.mp h with rfl | hmem
    · rfl
    · simp [isNumeral, isDigit_of_mem_toDigits hmem]

theorem toNat_of_isNumeral {c : Char} (h : isNumeral c = true) : 45 ≤ c.toNat ∧ c.toNat ≤ 57 := by
  simp only [isNumeral, Bool.or_eq_true, beq_iff_eq, Char.isDigit, Bool.and_eq_true,
    decide_eq_true_eq, UInt32.le_iff_toNat_le] at h
  rcases h with ⟨hlow, hhigh⟩ | rfl
  · have hlow' : 48 ≤ c.toNat := hlow
    have hhigh' : c.toNat ≤ 57 := hhigh
    omega
  · decide

theorem isBlank_of_isNumeral {c : Char} (h : isNumeral c = true) : isBlank c = false := by
  obtain ⟨hlow, hhigh⟩ := toNat_of_isNumeral h
  have haway : ∀ r ∈ blankRanges, r.2 < 45 ∨ 57 < r.1 := by decide
  rw [isBlank, inRanges, List.any_eq_false]
  intro r hr
  have hr' := haway r hr
  simp only [Bool.and_eq_true, decide_eq_true_eq]
  omega

end DmarcReports.Text
