import DmarcReports.Xml.Document

/-!
Elements written out, and the parts that a document of them is cut into.

An outline is a row of elements without attributes, each around text or around a row of further
elements. Main statement: `split_write`, by which cutting finds the very tags and texts that were
written.
-/

set_option autoImplicit false
set_option relaxedAutoImplicit false

namespace DmarcReports.Xml

def isPlain (c : Char) : Bool :=
  isLegal c && c != '<' && c != '>' && c != '&' && c != '\r'

theorem isPlain_iff (c : Char) :
    isPlain c = true ↔ isLegal c = true ∧ c ≠ '<' ∧ c ≠ '>' ∧ c ≠ '&' ∧ c ≠ '\r' := by
  simp only [isPlain, Bool.and_eq_true, bne_iff_ne, and_assoc]

inductive Outline where
  | none
  | leaf (name content : String) (rest : Outline)
  | branch (name : String) (inner rest : Outline)
deriving DecidableEq, Repr

namespace Outline

def startTag (name : String) : List Char :=
  '<' :: (name.toList ++ ['>'])

def endTag (name : String) : List Char :=
  '<' :: ('/' :: name.toList ++ ['>'])

def write : Outline → List Char
  | none => []
  | leaf name content rest => startTag name ++ (content.toList ++ (endTag name ++ rest.write))
  | branch name inner rest => startTag name ++ (inner.write ++ (endTag name ++ rest.write))

/-- The child that a text makes; an empty one makes none. -/
def textNodes (content : String) : List Node :=
  if content = "" then [] else [.text content]

def nodes : Outline → List Node
  | none => []
  | leaf name content rest => .element (Name.plain name) [] (textNodes content) :: rest.nodes
  | branch name inner rest => .element (Name.plain name) [] inner.nodes :: rest.nodes

/-- How many elements and texts there are at all depths. -/
def size : Outline → Nat
  | none => 0
  | leaf _ content rest => 1 + (if content = "" then 0 else 1) + rest.size
  | branch _ inner rest => 1 + inner.size + rest.size

/-- Whether all names are names and all texts stand for themselves. -/
def isWritable : Outline → Bool
  | none => true
  | leaf name content rest =>
    isNamePart name.toList && content.toList.all isPlain && rest.isWritable
  | branch name inner rest => isNamePart name.toList && inner.isWritable && rest.isWritable

def textParts (content : List Char) : List Markup :=
  if content = [] then [] else [.text content]

def parts : Outline → List Markup
  | none => []
  | leaf name content rest =>
    .tag name.toList :: (textParts content.toList ++ .tag ('/' :: name.toList) :: rest.parts)
  | branch name inner rest =>
    .tag name.toList :: (inner.parts ++ .tag ('/' :: name.toList) :: rest.parts)

end Outline

theorem isNameChar_of_isNamePart {cs : List Char} (h : isNamePart cs = true) {c : Char}
    (hc : c ∈ cs) : isNameChar c = true ∧ c ≠ ':' := by
  cases cs with
  | nil => cases hc
  | cons d ds =>
    simp only [isNamePart, Bool.and_eq_true, decide_eq_true_eq, List.all_eq_true] at h
    obtain ⟨⟨hstart, hcolon⟩, hrest⟩ := h
    rcases List.mem_cons.mp hc with rfl | hmem
    · exact ⟨by rw [isNameChar, hstart]; rfl, hcolon⟩
    · exact hrest c hmem

private theorem ne_of_isNameChar {c : Char} (h : isNameChar c = true) :
    c ≠ '<' ∧ c ≠ '>' ∧ c ≠ '"' ∧ c ≠ '\'' ∧ c ≠ '/' ∧ c ≠ '!' ∧ c ≠ '?' := by
  refine ⟨?_, ?_, ?_, ?_, ?_, ?_, ?_⟩
  all_goals
    rintro rfl
    exact absurd h (by decide)

namespace Markup.Cutter

theorem foldl_step_text {cs : List Char} (h : ∀ c ∈ cs, c ≠ '<') (pending : List Char)
    (found : List Markup) :
    cs.foldl step ⟨.text pending, found⟩ = ⟨.text (cs.reverse ++ pending), found⟩ := by
  induction cs generalizing pending with
  | nil => rfl
  | cons c cs ih =>
    have hc : c ≠ '<' := h c List.mem_cons_self
    have hstep : step ⟨.text pending, found⟩ c = ⟨.text (c :: pending), found⟩ := if_neg hc
    rw [List.foldl_cons, hstep, ih fun d hd => h d (List.mem_cons_of_mem c hd),
      List.reverse_cons, List.append_assoc]
    rfl

private theorem foldl_step_tag {cs : List Char} (h : ∀ c ∈ cs, c ≠ '>' ∧ c ≠ '"' ∧ c ≠ '\'')
    (raw : List Char) (found : List Markup) :
    cs.foldl step ⟨.tag none raw, found⟩ = ⟨.tag none (cs.reverse ++ raw), found⟩ := by
  induction cs generalizing raw with
  | nil => rfl
  | cons c cs ih =>
    obtain ⟨hclose, hdouble, hsingle⟩ := h c List.mem_cons_self
    have hstep : step ⟨.tag none raw, found⟩ c = ⟨.tag none (c :: raw), found⟩ := by
      simp only [step, hclose, hdouble, hsingle, or_self, if_false]
    rw [List.foldl_cons, hstep, ih fun d hd => h d (List.mem_cons_of_mem c hd),
      List.reverse_cons, List.append_assoc]
    rfl

theorem foldl_step_wholeTag {c : Char} {cs : List Char} (hc : c ≠ '!' ∧ c ≠ '?')
    (h : ∀ d ∈ c :: cs, d ≠ '>' ∧ d ≠ '"' ∧ d ≠ '\'') (pending : List Char)
    (found : List Markup) :
    ('<' :: (c :: cs ++ ['>'])).foldl step ⟨.text pending, found⟩ =
      ⟨.text [], .tag (c :: cs) :: withText found pending⟩ := by
  obtain ⟨hclose, hdouble, hsingle⟩ := h c List.mem_cons_self
  have hopen : step ⟨.text pending, found⟩ '<' = ⟨.opening [], withText found pending⟩ := rfl
  have hkind : (Kind.all.find? fun k => ([] ++ [c]).isPrefixOf k.opener) = none := by
    simp [Kind.all, Kind.opener, List.isPrefixOf, hc.1, hc.2]
  have hfirst : step ⟨.opening [], withText found pending⟩ c =
      ⟨.tag none [c], withText found pending⟩ := by
    simp only [step, stepOpening, hkind, enterTag, hclose, hdouble, hsingle, or_self, if_true,
      if_false]
  have hrest : ∀ d ∈ cs, d ≠ '>' ∧ d ≠ '"' ∧ d ≠ '\'' :=
    fun d hd => h d (List.mem_cons_of_mem c hd)
  rw [List.foldl_cons, hopen, List.cons_append, List.foldl_cons, hfirst, List.foldl_append,
    foldl_step_tag hrest]
  simp [step]

end Markup.Cutter

namespace Outline

open Markup (Cutter)

private theorem foldl_step_startTag {name : String} (h : isNamePart name.toList = true)
    (pending : List Char) (found : List Markup) :
    (startTag name).foldl Cutter.step ⟨.text pending, found⟩ =
      ⟨.text [], .tag name.toList :: Cutter.withText found pending⟩ := by
  have hchars (c : Char) (hc : c ∈ name.toList) := ne_of_isNameChar (isNameChar_of_isNamePart h hc).1
  rw [startTag]
  cases hname : name.toList with
  | nil =>
    rw [hname] at h
    cases h
  | cons c cs =>
    rw [hname] at hchars
    apply Cutter.foldl_step_wholeTag
    · obtain ⟨-, -, -, -, -, hbang, hquestion⟩ := hchars c List.mem_cons_self
      exact ⟨hbang, hquestion⟩
    · intro d hd
      obtain ⟨-, hclose, hdouble, hsingle, -⟩ := hchars d hd
      exact ⟨hclose, hdouble, hsingle⟩

private theorem foldl_step_endTag {name : String} (h : isNamePart name.toList = true)
    (pending : List Char) (found : List Markup) :
    (endTag name).foldl Cutter.step ⟨.text pending, found⟩ =
      ⟨.text [], .tag ('/' :: name.toList) :: Cutter.withText found pending⟩ := by
  apply Cutter.foldl_step_wholeTag
  · decide
  · intro d hd
    rcases List.mem_cons.mp hd with rfl | hmem
    · decide
    · obtain ⟨-, hclose, hdouble, hsingle, -⟩ :=
        ne_of_isNameChar (isNameChar_of_isNamePart h hmem).1
      exact ⟨hclose, hdouble, hsingle⟩

private theorem withText_reverse (found : List Markup) (cs : List Char) :
    Cutter.withText found cs.reverse = (textParts cs).reverse ++ found := by
  rw [textParts]
  split
  · rename_i hcs
    rw [hcs]
    rfl
  · rename_i hcs
    obtain ⟨d, ds, hds⟩ := List.exists_cons_of_ne_nil (mt List.reverse_eq_nil_iff.mp hcs)
    rw [hds, Cutter.withText, ← hds, List.reverse_reverse]
    · rfl
    · simp

/-- Cutting a written outline adds its parts to those found before. -/
private theorem foldl_step_write {d : Outline} (h : d.isWritable = true) (found : List Markup) :
    d.write.foldl Cutter.step ⟨.text [], found⟩ = ⟨.text [], d.parts.reverse ++ found⟩ := by
  -- Whatever was found before: between two elements the cutter is in no part.
  induction d generalizing found with
  | none => rfl
  | leaf name content rest ih =>
    simp only [isWritable, Bool.and_eq_true] at h
    obtain ⟨⟨hname, hcontent⟩, hrest⟩ := h
    have hplain : ∀ c ∈ content.toList, c ≠ '<' := by
      intro c hc
      exact ((isPlain_iff c).mp (List.all_eq_true.mp hcontent c hc)).2.1
    rw [write, List.foldl_append, foldl_step_startTag hname, List.foldl_append,
      Cutter.foldl_step_text hplain, List.append_nil, List.foldl_append, foldl_step_endTag hname,
      withText_reverse, ih hrest]
    simp [parts, Cutter.withText]
  | branch name inner rest ihInner ihRest =>
    simp only [isWritable, Bool.and_eq_true] at h
    obtain ⟨⟨hname, hinner⟩, hrest⟩ := h
    rw [write, List.foldl_append, foldl_step_startTag hname, List.foldl_append, ihInner hinner,
      List.foldl_append, foldl_step_endTag hname, ihRest hrest]
    simp [parts, Cutter.withText]

theorem split_write {d : Outline} (h : d.isWritable = true) : Markup.split d.write = d.parts := by
  rw [Markup.split, foldl_step_write h]
  simp [Cutter.finish, Cutter.withText]

end Outline

end DmarcReports.Xml
