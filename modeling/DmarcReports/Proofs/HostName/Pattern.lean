import Mathlib.Computability.Language
import DmarcReports.Proofs.HostName.Labels
import DmarcReports.Text.Ascii
import DmarcReports.Text.Blank

/-!
The pattern of valid host names.

Taken apart at its dots a name of the pattern gives back its labels, so the pattern and the labels
say the same of a name. Main statement: `isValid_iff`.
-/

set_option autoImplicit false
set_option relaxedAutoImplicit false

namespace DmarcReports.HostName

open scoped Computability

def one (p : Char → Prop) : Language Char :=
  {w | ∃ c, p c ∧ w = [c]}

def edge : Language Char := one fun c => c.isAlphanum = true

def inner : Language Char := one fun c => c.isAlphanum = true ∨ c = '-'

/-- A label of two characters or more: up to 61 characters between its ends. -/
def longPattern : Language Char := edge * (1 + inner) ^ 61 * edge

/-- A label: its first character, which more may follow. -/
def labelPattern : Language Char := edge * (1 + (1 + inner) ^ 61 * edge)

/-- One label or more with a dot behind each, and a long one at the end. -/
def pattern : Language Char :=
  labelPattern * {['.']} * (labelPattern * {['.']})∗ * longPattern

variable {w t : List Char} {ls : List (List Char)} {c : Char}

private theorem mem_upTo_iff {p : Char → Prop} {k : Nat} :
    w ∈ (1 + one p) ^ k ↔ w.length ≤ k ∧ ∀ c ∈ w, p c := by
  induction k generalizing w with
  | zero =>
    rw [pow_zero, Language.mem_one, Nat.le_zero, List.length_eq_zero_iff]
    constructor
    · rintro rfl
      exact ⟨rfl, nofun⟩
    · exact And.left
  | succ k ih =>
    rw [pow_succ', add_mul, one_mul, Language.mem_add, Language.mem_mul, ih]
    constructor
    · rintro (⟨hlength, hp⟩ | ⟨-, ⟨c, hc, rfl⟩, v, hv, rfl⟩)
      · exact ⟨by omega, hp⟩
      · obtain ⟨hlength, hp⟩ := ih.mp hv
        exact ⟨by simpa using hlength, by simpa using ⟨hc, hp⟩⟩
    · rintro ⟨hlength, hp⟩
      cases w with
      | nil => exact .inl ⟨Nat.zero_le k, nofun⟩
      | cons c v =>
        obtain ⟨hc, hv⟩ := List.forall_mem_cons.mp hp
        exact .inr ⟨[c], ⟨c, hc, rfl⟩, v, ih.mpr ⟨by simpa using hlength, hv⟩, rfl⟩

private theorem isLabel_singleton_iff : IsLabel [c] ↔ c.isAlphanum = true := by
  constructor
  · intro h
    refine (h.chars c (List.mem_singleton_self c)).resolve_right ?_
    rintro rfl
    exact h.head rfl
  · intro hc
    have hhyphen : c ≠ '-' := by
      rintro rfl
      simp at hc
    exact ⟨⟨List.forall_mem_singleton.mpr (.inl hc), by simp, by simpa using hhyphen⟩,
      Nat.le_refl 1, by simpa using hhyphen⟩

private theorem isLabel_long_iff {a b : Char} {m : List Char} :
    IsLabel (a :: (m ++ [b])) ↔
      a.isAlphanum = true ∧ (m.length ≤ 61 ∧ ∀ c ∈ m, c.isAlphanum = true ∨ c = '-') ∧
        b.isAlphanum = true := by
  have hlength : (a :: (m ++ [b])).length = m.length + 2 := by
    rw [List.length_cons, List.length_append, List.length_singleton]
  have hlast : (a :: (m ++ [b])).getLast? = some b := by
    rw [← List.cons_append, List.getLast?_concat]
  constructor
  · intro h
    have hroom := h.length_le
    rw [hlength] at hroom
    refine ⟨(h.chars a (by simp)).resolve_right ?_,
      ⟨by omega, fun c hc => h.chars c (by simp [hc])⟩, (h.chars b (by simp)).resolve_right ?_⟩
    · rintro rfl
      exact h.head rfl
    · rintro rfl
      exact h.last hlast
  · rintro ⟨ha, ⟨hroom, hm⟩, hb⟩
    refine ⟨⟨?_, by omega, ?_⟩, by omega, ?_⟩
    · intro c hc
      rcases List.mem_cons.mp hc with rfl | hc
      · exact .inl ha
      rcases List.mem_append.mp hc with hc | hc
      · exact hm c hc
      · obtain rfl := List.mem_singleton.mp hc
        exact .inl hb
    · rintro hhyphen
      obtain rfl : a = '-' := Option.some.inj hhyphen
      simp at ha
    · rw [hlast]
      rintro hhyphen
      obtain rfl : b = '-' := Option.some.inj hhyphen
      simp at hb

private theorem mem_longPattern_iff : w ∈ longPattern ↔ IsLabel w ∧ 2 ≤ w.length := by
  constructor
  · rintro ⟨-, ⟨-, ⟨a, ha, rfl⟩, m, hm, rfl⟩, -, ⟨b, hb, rfl⟩, rfl⟩
    exact ⟨isLabel_long_iff.mpr ⟨ha, mem_upTo_iff.mp hm, hb⟩, by simp⟩
  · rintro ⟨h, hlength⟩
    obtain _ | ⟨a, rest⟩ := w
    · simp at hlength
    obtain rfl | ⟨m, b, rfl⟩ := List.eq_nil_or_concat' rest
    · simp at hlength
    obtain ⟨ha, hm, hb⟩ := isLabel_long_iff.mp h
    exact ⟨a :: m, ⟨[a], ⟨a, ha, rfl⟩, m, mem_upTo_iff.mpr hm, rfl⟩, [b], ⟨b, hb, rfl⟩, rfl⟩

private theorem mem_labelPattern_iff : w ∈ labelPattern ↔ IsLabel w := by
  have hsplit : labelPattern = edge + longPattern := by
    rw [labelPattern, longPattern, mul_add, mul_one, mul_assoc]
  rw [hsplit, Language.mem_add, mem_longPattern_iff]
  constructor
  · rintro (⟨c, hc, rfl⟩ | ⟨h, -⟩)
    · exact isLabel_singleton_iff.mpr hc
    · exact h
  · intro h
    have hpos := h.length_pos
    by_cases hlength : 2 ≤ w.length
    · exact .inr ⟨h, hlength⟩
    · obtain ⟨c, rfl⟩ := List.length_eq_one_iff.mp (show w.length = 1 by omega)
      exact .inl ⟨c, isLabel_singleton_iff.mp h, rfl⟩

def dotted (ls : List (List Char)) : List Char :=
  ls.flatMap (· ++ ['.'])

private theorem mem_dottedPattern_iff :
    w ∈ (labelPattern * {['.']})∗ ↔ ∃ ls, (∀ l ∈ ls, IsLabel l) ∧ dotted ls = w := by
  rw [Language.mem_kstar]
  constructor
  · rintro ⟨parts, rfl, hparts⟩
    induction parts with
    | nil => exact ⟨[], nofun, rfl⟩
    | cons part parts ih =>
      obtain ⟨⟨l, hl, -, rfl, rfl⟩, hrest⟩ := List.forall_mem_cons.mp hparts
      obtain ⟨ls, hls, hdotted⟩ := ih hrest
      exact ⟨l :: ls, List.forall_mem_cons.mpr ⟨mem_labelPattern_iff.mp hl, hls⟩,
        congrArg (l ++ ['.'] ++ ·) hdotted⟩
  · rintro ⟨ls, hls, rfl⟩
    refine ⟨ls.map (· ++ ['.']), rfl, ?_⟩
    rintro y hy
    obtain ⟨l, hl, rfl⟩ := List.mem_map.mp hy
    exact Language.append_mem_mul (mem_labelPattern_iff.mpr (hls l hl)) rfl

private theorem splitOn_dotted_append (hls : ∀ l ∈ ls, IsLabel l) (ht : '.' ∉ t) :
    (dotted ls ++ t).splitOn '.' = ls ++ [t] := by
  induction ls with
  | nil => exact List.splitOn_eq_singleton ht
  | cons l ls ih =>
    obtain ⟨hl, hls⟩ := List.forall_mem_cons.mp hls
    have hassoc : dotted (l :: ls) ++ t = l ++ '.' :: (dotted ls ++ t) := by simp [dotted]
    rw [hassoc, List.splitOn_append_cons_self_of_not_mem hl.toBegins.dot_notMem, ih hls,
      List.cons_append]

private theorem intercalate_concat (ls : List (List Char)) (t : List Char) :
    ['.'].intercalate (ls ++ [t]) = dotted ls ++ t := by
  induction ls with
  | nil => simp [dotted]
  | cons l ls ih =>
    rw [List.cons_append, List.intercalate_cons_of_ne_nil (by simp), ih]
    simp [dotted]

private theorem exists_dotted_append (w : List Char) :
    ∃ ls t, w.splitOn '.' = ls ++ [t] ∧ dotted ls ++ t = w := by
  obtain hnil | ⟨ls, t, hsplit⟩ := List.eq_nil_or_concat' (w.splitOn '.')
  · exact absurd hnil (List.splitOn_ne_nil '.' w)
  · exact ⟨ls, t, hsplit, by rw [← intercalate_concat, ← hsplit, List.intercalate_splitOn]⟩

private theorem completes_concat_iff :
    Completes 0 (ls ++ [t]) ↔ ls ≠ [] ∧ (∀ l ∈ ls, IsLabel l) ∧ IsLabel t ∧ 2 ≤ t.length := by
  have htwo : 2 ≤ 0 + (ls ++ [t]).length ↔ ls ≠ [] := by
    rw [List.length_append, List.length_singleton, ← List.length_pos_iff]
    omega
  constructor
  · rintro ⟨hcount, hlabels, hlast⟩
    obtain ⟨hls, ht⟩ := List.forall_mem_append.mp hlabels
    exact ⟨htwo.mp hcount, hls, ht t (List.mem_singleton_self t), hlast t List.getLast?_concat⟩
  · rintro ⟨hne, hls, ht, hlength⟩
    refine ⟨htwo.mpr hne, List.forall_mem_append.mpr ⟨hls, List.forall_mem_singleton.mpr ht⟩, ?_⟩
    intro l hl
    rw [List.getLast?_concat] at hl
    obtain rfl := Option.some.inj hl
    exact hlength

/-- The names of the pattern are those with well-formed labels. -/
private theorem mem_pattern_iff : w ∈ pattern ↔ Completes 0 (w.splitOn '.') := by
  constructor
  · rintro ⟨-, ⟨-, ⟨l, hl, -, rfl, rfl⟩, v, hv, rfl⟩, t, ht, rfl⟩
    obtain ⟨ls, hls, rfl⟩ := mem_dottedPattern_iff.mp hv
    have hall : ∀ p ∈ l :: ls, IsLabel p :=
      List.forall_mem_cons.mpr ⟨mem_labelPattern_iff.mp hl, hls⟩
    have hlong := mem_longPattern_iff.mp ht
    change Completes 0 ((dotted (l :: ls) ++ t).splitOn '.')
    rw [splitOn_dotted_append hall hlong.1.toBegins.dot_notMem]
    exact completes_concat_iff.mpr ⟨List.cons_ne_nil l ls, hall, hlong⟩
  · intro h
    obtain ⟨ls, t, hsplit, hw⟩ := exists_dotted_append w
    rw [hsplit] at h
    obtain ⟨hne, hls, hlong⟩ := completes_concat_iff.mp h
    obtain ⟨l, ls, rfl⟩ := List.exists_cons_of_ne_nil hne
    obtain ⟨hl, hls⟩ := List.forall_mem_cons.mp hls
    have hfirst := Language.append_mem_mul (mem_labelPattern_iff.mpr hl)
      (show ['.'] ∈ ({['.']} : Language Char) from rfl)
    have hrest := mem_dottedPattern_iff.mpr ⟨ls, hls, rfl⟩
    exact ⟨_, Language.append_mem_mul hfirst hrest, t, mem_longPattern_iff.mpr hlong, hw⟩

private theorem chars_of_completes (h : Completes 0 (w.splitOn '.')) (hc : c ∈ w) :
    (c.isAlphanum = true ∨ c = '-') ∨ c = '.' := by
  obtain ⟨ls, t, hsplit, rfl⟩ := exists_dotted_append w
  rw [hsplit] at h
  obtain ⟨-, hls, ht, -⟩ := completes_concat_iff.mp h
  rcases List.mem_append.mp hc with hc | hc
  · obtain ⟨l, hl, hc⟩ := List.mem_flatMap.mp hc
    rcases List.mem_append.mp hc with hc | hc
    · exact .inl ((hls l hl).chars c hc)
    · exact .inr (List.mem_singleton.mp hc)
  · exact .inl (ht.chars c hc)

private theorem getLast?_ne_dot_of_completes (h : Completes 0 (w.splitOn '.')) :
    w.getLast? ≠ some '.' := by
  obtain ⟨ls, t, hsplit, rfl⟩ := exists_dotted_append w
  rw [hsplit] at h
  obtain ⟨-, -, ht, -⟩ := completes_concat_iff.mp h
  intro hlast
  have hne : t ≠ [] := List.ne_nil_of_length_pos ht.length_pos
  rw [List.getLast?_append_of_ne_nil _ hne] at hlast
  exact ht.toBegins.dot_notMem (List.mem_of_getLast? hlast)

private theorem toNat_lt_of_isAlphanum (h : c.isAlphanum = true) : c.toNat < 0x80 := by
  have hbounds : c.isAlphanum =
      (decide (c.val ≥ 'A'.val ∧ c.val ≤ 'Z'.val) || (c.val ≥ 'a'.val && c.val ≤ 'z'.val) ||
        (c.val ≥ '0'.val && c.val ≤ '9'.val)) := rfl
  simp only [hbounds, Bool.or_eq_true, Bool.and_eq_true, decide_eq_true_eq,
    UInt32.le_iff_toNat_le, ge_iff_le] at h
  have hz : 'z'.val.toNat = 0x7A := rfl
  have hZ : 'Z'.val.toNat = 0x5A := rfl
  have h9 : '9'.val.toNat = 0x39 := rfl
  have hc : c.toNat = c.val.toNat := rfl
  omega

/-- No character of a name is outside of ASCII, and none is a line break or another blank. -/
private theorem plain_of_completes (h : Completes 0 (w.splitOn '.')) (hc : c ∈ w) :
    c.toNat < 0x80 ∧ Text.isBlank c = false := by
  rcases chars_of_completes h hc with (hchar | rfl) | rfl
  · have hsmall := toNat_lt_of_isAlphanum hchar
    refine ⟨hsmall, ?_⟩
    revert hchar
    exact Text.forall_ascii (p := fun c => c.isAlphanum = true → Text.isBlank c = false)
      (by decide +kernel) hsmall
  · exact ⟨by decide, by decide⟩
  · exact ⟨by decide, by decide⟩

/-- A name is valid just when it has at most 253 bytes and its parts between the dots are two labels
or more, the last of which has two characters or more; so just when it is one of the pattern. No part
of it is empty, it does not end in a dot, and it has neither line breaks nor characters outside of
ASCII. -/
theorem isValid_iff (name : String) :
    (isValid name = true ↔
      name.utf8ByteSize ≤ 253 ∧ 2 ≤ (labels name).length ∧ (∀ l ∈ labels name, IsLabel l) ∧
        ∀ l, (labels name).getLast? = some l → 2 ≤ l.length) ∧
      (isValid name = true ↔ name.utf8ByteSize ≤ 253 ∧ name.toList ∈ pattern) ∧
      (isValid name = true → [] ∉ labels name ∧ name.toList.getLast? ≠ some '.' ∧
        ∀ c ∈ name.toList, c.toNat < 0x80 ∧ Text.isBlank c = false) := by
  rw [mem_pattern_iff, isValid_iff_completes]
  refine ⟨and_congr_right fun _ => ?_, Iff.rfl, ?_⟩
  · constructor
    · rintro ⟨htwo, hlabels, hlast⟩
      exact ⟨by omega, hlabels, hlast⟩
    · rintro ⟨htwo, hlabels, hlast⟩
      exact ⟨by omega, hlabels, hlast⟩
  · rintro ⟨-, h⟩
    refine ⟨fun hempty => ?_, getLast?_ne_dot_of_completes h, fun c hc => plain_of_completes h hc⟩
    exact absurd (h.labels [] hempty).length_pos (by simp)

/-- A label may have 63 characters, and hyphens between its ends; with one more it may not. -/
theorem isValid_iff_longest_label :
    isValid (String.ofList ('x' :: List.replicate 61 '-' ++ "y.z0".toList)) = true ∧
      (labels (String.ofList ('x' :: List.replicate 61 '-' ++ "y.z0".toList))).map List.length =
        [63, 2] ∧
      [] ∉ labels (String.ofList ('x' :: List.replicate 61 '-' ++ "y.z0".toList)) ∧
      isValid (String.ofList ('x' :: List.replicate 62 '-' ++ "y.z0".toList)) = false := by
  have hvalid : isValid (String.ofList ('x' :: List.replicate 61 '-' ++ "y.z0".toList)) = true := by
    decide +kernel
  exact ⟨hvalid, by decide +kernel, ((isValid_iff _).2.2 hvalid).1, by decide +kernel⟩

end DmarcReports.HostName
