import DmarcReports.Report.Decode
import DmarcReports.Proofs.Xml.Outline

/-!
Values looked up in the elements of an outline.

A lookup passes every element of another name and stays at the first of its own, whose text is the
value. Together the lemmas evaluate the lookups in any outline whose names are given.
-/

set_option autoImplicit false
set_option relaxedAutoImplicit false

namespace DmarcReports.Report

open Xml (Node Name Outline)
open Xml.Outline (textNodes)

def elementOf (name : String) (d : Outline) : Node :=
  .element (Name.plain name) [] d.nodes

variable {parent name base content : String} {inner rest : Outline}

private theorem isNamed_element (children : List Node) :
    Node.isNamed base (.element (Name.plain name) [] children) = (name == base) := rfl

@[simp] theorem child?_none : (elementOf parent .none).child? base = none := rfl

@[simp] theorem child?_leaf :
    (elementOf parent (.leaf name content rest)).child? base =
      if name = base then some (.element (Name.plain name) [] (textNodes content))
      else (elementOf parent rest).child? base := by
  simp only [elementOf, Node.child?, Node.children, Outline.nodes, List.find?_cons,
    isNamed_element]
  by_cases h : name = base
  · simp [h]
  · simp [h, beq_eq_false_iff_ne.mpr h]

@[simp] theorem child?_branch :
    (elementOf parent (.branch name inner rest)).child? base =
      if name = base then some (elementOf name inner)
      else (elementOf parent rest).child? base := by
  simp only [elementOf, Node.child?, Node.children, Outline.nodes, List.find?_cons,
    isNamed_element]
  by_cases h : name = base
  · simp [h]
  · simp [h, beq_eq_false_iff_ne.mpr h]

private theorem leadingText_textNodes :
    (Node.element (Name.plain name) [] (textNodes content)).leadingText = content := by
  rw [textNodes]
  split
  · rename_i h
    exact h.symm
  · rfl

@[simp] theorem textOf_none : textOf (some (elementOf parent .none)) base = "" := rfl

@[simp] theorem textOf_leaf :
    textOf (some (elementOf parent (.leaf name content rest))) base =
      if name = base then Text.trim content else textOf (some (elementOf parent rest)) base := by
  simp only [textOf, Option.bind_some, child?_leaf]
  split
  · rw [Option.map_some, leadingText_textNodes, Option.getD_some]
  · rfl

theorem named_branch :
    (elementOf parent (.branch name inner rest)).named base =
      if name = base then elementOf name inner :: (elementOf parent rest).named base
      else (elementOf parent rest).named base := by
  simp only [elementOf, Node.named, Node.children, Outline.nodes, List.filter_cons,
    isNamed_element, beq_iff_eq]

theorem numberOf_of_text {α : Type} {read? : List Char → Option α} {n : Option Node}
    {default a : α} {text : String} (htext : textOf n base = text)
    (hread : read? text.toList = some a) (hnil : read? [] = none) :
    numberOf read? n base default = .ok a := by
  have hne : text ≠ "" := by
    rintro rfl
    have hsome : read? [] = some a := hread
    rw [hnil] at hsome
    cases hsome
  rw [numberOf, htext, if_neg hne, hread]

theorem mapM_ok {α β : Type} {f : α → Except Rejection β} {g : α → β} {as : List α}
    (h : ∀ a ∈ as, f a = .ok (g a)) : as.mapM f = .ok (as.map g) := by
  induction as with
  | nil => rfl
  | cons a as ih =>
    rw [List.mapM_cons, h a List.mem_cons_self, ih fun b hb => h b (List.mem_cons_of_mem a hb)]
    rfl

end DmarcReports.Report
