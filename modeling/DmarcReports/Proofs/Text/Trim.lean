import Mathlib.Data.List.DropRight
import DmarcReports.Text.Blank

/-!
What trimming does to a text.

Trimming takes blanks off the two ends and leaves the rest, so it changes nothing where neither end
is blank. It leaves no blank end behind, and a trimmed text is its own trim.
-/

set_option autoImplicit false
set_option relaxedAutoImplicit false

namespace DmarcReports.Text

variable {cs ds : List Char}

private theorem trimChars_eq_rdropWhile (cs : List Char) :
    trimChars cs = (cs.dropWhile isBlank).rdropWhile isBlank := rfl

private theorem dropWhile_eq_self_of_head? (h : ∀ c, cs.head? = some c → isBlank c = false) :
    cs.dropWhile isBlank = cs := by
  cases cs with
  | nil => rfl
  | cons c cs => rw [List.dropWhile_cons, h c rfl, if_neg Bool.false_ne_true]

private theorem head?_trimChars (cs : List Char) :
    (trimChars cs).head? = (cs.dropWhile isBlank).head? := by
  rw [trimChars]
  cases hrest : cs.dropWhile isBlank with
  | nil => rfl
  | cons d ds =>
    -- The first character is not blank, so what is dropped at the end stops at the latest there.
    have hd : ¬isBlank d = true := by
      rw [head?_dropWhile_isBlank cs d (by rw [hrest]; rfl)]
      exact Bool.false_ne_true
    rw [List.reverse_cons, List.dropWhile_append]
    split
    · rw [List.dropWhile_cons_of_neg hd]
      rfl
    · rw [List.reverse_append]
      rfl

theorem trim_trim (s : String) : trim (trim s) = trim s := by
  have hhead : (trimChars s.toList).dropWhile isBlank = trimChars s.toList := by
    apply dropWhile_eq_self_of_head?
    intro c hc
    rw [head?_trimChars] at hc
    exact head?_dropWhile_isBlank s.toList c hc
  rw [trim, trim, String.toList_ofList, trimChars_eq_rdropWhile (trimChars s.toList), hhead,
    trimChars_eq_rdropWhile s.toList, List.rdropWhile_idempotent]

theorem trim_eq_self {s : String} (h : ∀ c ∈ s.toList, isBlank c = false) : trim s = s := by
  rw [trim, trimChars, dropWhile_eq_self_of_head? fun c hc => h c (List.mem_of_head? hc),
    dropWhile_eq_self_of_head? fun c hc => h c (List.mem_reverse.mp (List.mem_of_head? hc)),
    List.reverse_reverse, String.ofList_toList]

private theorem filter_trimChars (cs : List Char) :
    (trimChars cs).filter (fun c => !isBlank c) = cs.filter fun c => !isBlank c := by
  have hdrop (ds : List Char) :
      (ds.dropWhile isBlank).filter (fun c => !isBlank c) = ds.filter fun c => !isBlank c := by
    induction ds with
    | nil => rfl
    | cons d ds ih =>
      rw [List.dropWhile_cons]
      split
      · rename_i hd
        rw [ih, List.filter_cons, hd]
        rfl
      · rfl
  rw [trimChars, List.filter_reverse, hdrop, List.filter_reverse, List.reverse_reverse, hdrop]

theorem trimChars_append_of_blank (h : ds.all isBlank = true) :
    trimChars (cs ++ ds) = trimChars cs := by
  have hreverse : (ds.reverse).all isBlank = true := by rwa [List.all_reverse]
  have hdrop {es : List Char} (hes : es.all isBlank = true) (fs : List Char) :
      (es ++ fs).dropWhile isBlank = fs.dropWhile isBlank :=
    List.dropWhile_append_of_pos (List.all_eq_true.mp hes)
  rw [trimChars, trimChars, List.dropWhile_append]
  split
  · rename_i hcs
    have hblank : ds.dropWhile isBlank = [] := by
      rw [← List.append_nil ds, hdrop h, List.dropWhile_nil]
    rw [hblank, List.isEmpty_iff.mp hcs]
  · rw [List.reverse_append, hdrop hreverse]

theorem trimChars_blank_append (h : ds.all isBlank = true) :
    trimChars (ds ++ cs) = trimChars cs := by
  rw [trimChars, trimChars, List.dropWhile_append_of_pos (List.all_eq_true.mp h)]

/-- Blanks at the end are all that a text can be followed by without a change of its trim. -/
theorem trim_append_eq_iff {s t : String} :
    trim (s ++ t) = trim s ↔ t.toList.all isBlank = true := by
  rw [trim, trim, String.ofList_inj, String.toList_append]
  constructor
  · intro h
    have hfilter := congrArg (List.filter fun c => !isBlank c) h
    rw [filter_trimChars, filter_trimChars, List.filter_append, List.append_right_eq_self,
      List.filter_eq_nil_iff] at hfilter
    simpa using hfilter
  · exact trimChars_append_of_blank

end DmarcReports.Text
