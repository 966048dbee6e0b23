import Mathlib.Data.List.Infix
import DmarcReports.Proofs.Xml.Reading

/-!
Spaces, comments and instructions before the root.

The induction carries one invariant, `BeforeRoot`: the cutter is in no part but a text of spaces,
and the parts found so far leave the document without a root. Main statements: `BeforeRoot.run` and
`BeforeRoot.doctype`.
-/

set_option autoImplicit false
set_option relaxedAutoImplicit false

namespace DmarcReports.Xml

inductive Misc where
  | space (c : Char)
  | comment (content : List Char)
  /-- The content starts with the space behind the target. -/
  | instruction (target content : List Char)

namespace Misc

def write : Misc → List Char
  | space c => [c]
  | comment content => "<!--".toList ++ (content ++ "-->".toList)
  | instruction target content => "<?".toList ++ (target ++ (content ++ "?>".toList))

def nodes : Misc → Nat
  | space _ => 0
  | comment _ | instruction _ _ => 1

def nodesIn : List Misc → Nat
  | [] => 0
  | m :: ms => m.nodes + nodesIn ms

/-- What is asked of it, with this rule for the target and the content of an instruction. -/
def Meets (named : List Char → List Char → Prop) : Misc → Prop
  | space c => isSpace c = true
  | comment content =>
    (∀ c ∈ content, isLegal c = true) ∧ ¬"--".toList <:+: content ∧ content.getLast? ≠ some '-'
  | instruction target content =>
    (∃ c ∈ target.head?, isNameStart c = true) ∧ (∀ c ∈ target, isNameChar c = true) ∧
      named target content ∧ (∀ c ∈ content.head?, isSpace c = true) ∧
      (∀ c ∈ content, isLegal c = true) ∧ ¬"?>".toList <:+: content

/-- The rule of the standard: no target is `xml`, in small letters or large. -/
def WellFormed (m : Misc) : Prop :=
  m.Meets fun target _ => target.map Char.toLower ≠ "xml".toList

/-- The rule of the reader, which asks less: `xml` is taken where no blank follows. -/
def Readable (m : Misc) : Prop :=
  m.Meets fun target content => ¬"xml ".toList <+: target ++ content

end Misc

section Infix

variable {α : Type} {c : α} {part xs ys : List α}

private theorem infix_left_of_not_mem (h : part ++ [c] <:+: xs ++ ys) (hc : c ∉ ys) :
    part ++ [c] <:+: xs := by
  rcases List.infix_append_iff_ne_nil.mp h with hxs | hys | ⟨l₁, l₂, -, hl₂, heq, -, hstarts⟩
  · exact hxs
  · exact absurd (hys.subset (List.mem_append_right part List.mem_cons_self)) hc
  · have hlast : l₂.getLast? = some c := by
      rw [← List.getLast?_append_of_ne_nil l₁ hl₂, ← heq, List.getLast?_concat]
    exact absurd (hstarts.subset (List.mem_of_getLast? hlast)) hc

private theorem infix_right_of_not_mem (h : c :: part <:+: xs ++ ys) (hc : c ∉ xs) :
    c :: part <:+: ys := by
  rcases List.infix_append_iff_ne_nil.mp h with hxs | hys | ⟨l₁, l₂, hl₁, -, heq, hends, -⟩
  · exact absurd (hxs.subset List.mem_cons_self) hc
  · exact hys
  · obtain ⟨d, ds, rfl⟩ := List.exists_cons_of_ne_nil hl₁
    obtain ⟨rfl, -⟩ := List.cons.inj heq
    exact absurd (hends.subset List.mem_cons_self) hc

theorem prefix_left_of_not_mem (h : part <+: xs ++ c :: ys) (hc : c ∉ part) : part <+: xs := by
  rcases List.prefix_or_prefix_of_prefix h (List.prefix_append xs (c :: ys)) with hpart | hxs
  · exact hpart
  · obtain ⟨zs, rfl⟩ := hxs
    cases zs with
    | nil => rw [List.append_nil]
    | cons d zs =>
      have hzs : d :: zs <+: c :: ys := (List.prefix_append_right_inj xs).mp h
      obtain ⟨rfl, -⟩ := List.cons_prefix_cons.mp hzs
      exact absurd (List.mem_append_right xs List.mem_cons_self) hc

theorem isPrefixOf_eq_false [BEq α] [LawfulBEq α] (h : ¬xs <+: ys) : xs.isPrefixOf ys = false := by
  rwa [Bool.eq_false_iff, ne_eq, List.isPrefixOf_iff_prefix]

end Infix

private theorem hasDoubleDash_eq_false {cs : List Char} (h : ¬"--".toList <:+: cs) :
    isComment.hasDoubleDash cs = false := by
  induction cs using isComment.hasDoubleDash.induct with
  | case1 cs => exact absurd ⟨[], cs, rfl⟩ h
  | case2 c cs hno ih =>
    rw [isComment.hasDoubleDash]
    · exact ih fun hfound => h (hfound.trans (List.suffix_cons c cs).isInfix)
    · exact hno
  | case3 => rfl

private theorem isComment_eq_true {content : List Char} (h : (Misc.comment content).Readable) :
    isComment content = true := by
  obtain ⟨hlegal, hdash, hlast⟩ := h
  simp [isComment, List.all_eq_true.mpr hlegal, hlast, hasDoubleDash_eq_false hdash]

private theorem isSome_instruction? {target content : List Char}
    (h : (Misc.instruction target content).Readable) :
    (instruction? (target ++ content)).isSome = true := by
  obtain ⟨⟨c, hhead, hstart⟩, htarget, hname, hspace, hlegal, -⟩ := h
  have hspan : (target ++ content).span isNameChar = (target, content) :=
    span_append htarget fun c hc => isNameChar_of_isSpace (hspace c hc)
  have hother : "xml ".toList.isPrefixOf (target ++ content) = false := isPrefixOf_eq_false hname
  have hany : target.head?.any isNameStart = true := by
    rw [Option.mem_def.mp hhead]
    exact hstart
  rw [instruction?, hspan]
  simp only [hother, hany, List.all_eq_true.mpr hlegal, Bool.not_false, Bool.and_self, if_true,
    Option.isSome_some]

namespace Markup.Cutter

private theorem foldl_step_inside {kind : Kind} {cs raw : List Char}
    (h : ¬kind.closer.reverse <:+: raw.reverse ++ cs) (found : List Markup) :
    cs.foldl step ⟨.inside kind raw, found⟩ = ⟨.inside kind (cs.reverse ++ raw), found⟩ := by
  induction cs generalizing raw with
  | nil => rfl
  | cons c cs ih =>
    have hopen : kind.closer.isPrefixOf (c :: raw) = false := by
      apply isPrefixOf_eq_false
      intro hstarts
      have hends : kind.closer.reverse <:+ (c :: raw).reverse := List.reverse_suffix.mpr hstarts
      apply h
      rw [List.append_cons, ← List.reverse_cons]
      exact hends.isInfix.trans (List.prefix_append _ _).isInfix
    have hstep : step ⟨.inside kind raw, found⟩ c = ⟨.inside kind (c :: raw), found⟩ := by
      simp only [step, hopen, Bool.false_eq_true, if_false]
    rw [List.foldl_cons, hstep, ih]
    · rw [List.reverse_cons, List.append_assoc]
      rfl
    · rwa [List.reverse_cons, List.append_assoc]

private theorem foldl_step_part (kind : Kind) {cs before : List Char} {c : Char}
    (hcloser : kind.closer.reverse = before ++ [c]) (h : ¬kind.closer.reverse <:+: cs ++ before)
    (found : List Markup) :
    (cs ++ kind.closer.reverse).foldl step ⟨.inside kind [], found⟩ =
      ⟨.text [], kind.part cs :: found⟩ := by
  have hclose : kind.closer = c :: before.reverse := by
    rw [← List.reverse_reverse kind.closer, hcloser, List.reverse_append]
    rfl
  have hinside : (cs ++ before).foldl step ⟨.inside kind [], found⟩ =
      ⟨.inside kind ((cs ++ before).reverse ++ []), found⟩ := foldl_step_inside h found
  rw [hcloser, ← List.append_assoc, List.foldl_append, hinside, List.foldl_cons, List.foldl_nil,
    List.append_nil, List.reverse_append]
  have hstarts : kind.closer.isPrefixOf (c :: (before.reverse ++ cs.reverse)) = true := by
    rw [hclose, List.isPrefixOf_iff_prefix, ← List.cons_append]
    exact List.prefix_append _ _
  have hdrop : (c :: (before.reverse ++ cs.reverse)).drop kind.closer.length = cs.reverse := by
    rw [hclose, ← List.cons_append, List.drop_left]
  simp only [step, hstarts, if_true, hdrop, List.reverse_reverse]

theorem foldl_step_comment {content : List Char} (h : (Misc.comment content).Readable)
    (raw : List Char) (found : List Markup) :
    (Misc.comment content).write.foldl step ⟨.text raw, found⟩ =
      ⟨.text [], .comment content :: withText found raw⟩ := by
  obtain ⟨-, hdash, -⟩ := h
  have hopen : "<!--".toList.foldl step ⟨.text raw, found⟩ =
      ⟨.inside .comment [], withText found raw⟩ := rfl
  -- The end of a comment cannot reach into the dashes behind the content: its last character is none.
  have hcloser : ¬Kind.comment.closer.reverse <:+: content ++ "--".toList := by
    intro hfound
    have hleft : "--".toList ++ ['>'] <:+: content := infix_left_of_not_mem hfound (by decide)
    exact hdash ((List.prefix_append _ _).isInfix.trans hleft)
  rw [Misc.write, List.foldl_append, hopen]
  exact foldl_step_part .comment rfl hcloser (withText found raw)

theorem foldl_step_instruction {target content : List Char}
    (h : (Misc.instruction target content).Readable) (raw : List Char) (found : List Markup) :
    (Misc.instruction target content).write.foldl step ⟨.text raw, found⟩ =
      ⟨.text [], .instruction (target ++ content) :: withText found raw⟩ := by
  obtain ⟨-, htarget, -, -, -, hend⟩ := h
  have hopen : "<?".toList.foldl step ⟨.text raw, found⟩ =
      ⟨.inside .instruction [], withText found raw⟩ := rfl
  have hquestion : '?' ∉ target := by
    intro hmem
    exact absurd (htarget '?' hmem) (by decide)
  have hcloser : ¬Kind.instruction.closer.reverse <:+: (target ++ content) ++ ['?'] := by
    intro hfound
    have hleft : ['?'] ++ ['>'] <:+: target ++ content := infix_left_of_not_mem hfound (by decide)
    exact hend (infix_right_of_not_mem hleft hquestion)
  rw [Misc.write, List.foldl_append, hopen, ← List.append_assoc]
  exact foldl_step_part .instruction rfl hcloser (withText found raw)

private theorem foldl_step_ended (cs : List Char) (found : List Markup) :
    cs.foldl step ⟨.ended, found⟩ = ⟨.ended, found⟩ := by
  induction cs with
  | nil => rfl
  | cons c cs ih => exact ih

/-- What stands behind the start of a document type is not cut. -/
theorem foldl_step_doctype (raw : List Char) (found : List Markup) (rest : List Char) :
    ("<!DOCTYPE".toList ++ rest).foldl step ⟨.text raw, found⟩ =
      ⟨.ended, .doctype :: withText found raw⟩ := by
  have hopen : "<!DOCTYPE".toList.foldl step ⟨.text raw, found⟩ =
      ⟨.ended, .doctype :: withText found raw⟩ := rfl
  rw [List.foldl_append, hopen, foldl_step_ended]

end Markup.Cutter

open Markup (Cutter)

/-- That the cutter is in a text of spaces, given with the last one in front, and that the parts it
has found make so many nodes and no root. -/
structure BeforeRoot (maxNodes : Nat) (raw : List Char) (found : List Markup) (nodes : Nat) :
    Prop where
  spaces : ∀ c ∈ raw, isSpace c = true
  assembled : found.reverse.foldlM (Assembly.step maxNodes) {} = .ok ⟨.prolog, nodes, ∅⟩
  room : nodes ≤ maxNodes

namespace BeforeRoot

variable {maxNodes nodes : Nat} {raw : List Char} {found : List Markup}

theorem start (h : 1 ≤ maxNodes) : BeforeRoot maxNodes [] [] 1 where
  spaces _ hc := absurd hc List.not_mem_nil
  assembled := rfl
  room := h

private theorem assembled_withText (h : BeforeRoot maxNodes raw found nodes) :
    (Cutter.withText found raw).reverse.foldlM (Assembly.step maxNodes) {} =
      .ok ⟨.prolog, nodes, ∅⟩ := by
  cases hraw : raw with
  | nil => exact h.assembled
  | cons c cs =>
    have hspaces : (c :: cs).reverse.all isSpace = true := by
      rw [List.all_reverse, List.all_eq_true, ← hraw]
      exact h.spaces
    have hbuild : Builder.prolog.step (.text (c :: cs).reverse) = .ok .prolog := if_pos hspaces
    have hstep : Assembly.step maxNodes ⟨.prolog, nodes, ∅⟩ (.text (c :: cs).reverse) =
        .ok ⟨.prolog, nodes, ∅⟩ := Assembly.step_ok hbuild rfl rfl h.room
    rw [Cutter.withText, List.reverse_cons, Assembly.foldlM_append_ok h.assembled,
      Assembly.foldlM_cons_ok hstep]
    · rfl
    · intro hnil
      cases hnil

theorem add (h : BeforeRoot maxNodes raw found nodes) {m : Markup}
    (hm : Builder.prolog.step m = .ok .prolog) (hspaces : declaredSpaces m = [])
    (hcount : Builder.prolog.newNodes m = 1) (hroom : nodes + 1 ≤ maxNodes) :
    BeforeRoot maxNodes [] (m :: Cutter.withText found raw) (nodes + 1) where
  spaces _ hc := absurd hc List.not_mem_nil
  room := hroom
  assembled := by
    have hstep : Assembly.step maxNodes ⟨.prolog, nodes, ∅⟩ m = .ok ⟨.prolog, nodes + 1, ∅⟩ :=
      Assembly.step_ok hm hspaces (by rw [hcount]) hroom
    rw [List.reverse_cons, Assembly.foldlM_append_ok h.assembled_withText,
      Assembly.foldlM_cons_ok hstep]
    rfl

theorem step (h : BeforeRoot maxNodes raw found nodes) {m : Misc} (hm : m.Readable)
    (hroom : nodes + m.nodes ≤ maxNodes) :
    ∃ raw' found', m.write.foldl Cutter.step ⟨.text raw, found⟩ = ⟨.text raw', found'⟩ ∧
      BeforeRoot maxNodes raw' found' (nodes + m.nodes) := by
  cases m with
  | space c =>
    have hc : c ≠ '<' := by
      rintro rfl
      cases hm
    have hstep : Cutter.step ⟨.text raw, found⟩ c = ⟨.text (c :: raw), found⟩ := if_neg hc
    refine ⟨c :: raw, found, hstep, ?_, h.assembled, h.room⟩
    intro d hd
    rcases List.mem_cons.mp hd with rfl | hmem
    · exact hm
    · exact h.spaces d hmem
  | comment content =>
    refine ⟨[], _, Cutter.foldl_step_comment hm raw found, h.add ?_ rfl rfl hroom⟩
    exact if_pos (isComment_eq_true hm)
  | instruction target content =>
    refine ⟨[], _, Cutter.foldl_step_instruction hm raw found, h.add ?_ rfl rfl hroom⟩
    obtain ⟨i, hi⟩ := Option.isSome_iff_exists.mp (isSome_instruction? hm)
    simp only [Builder.step, hi, Option.map_some, Builder.orMalformed, Builder.addMisc]

theorem run (h : BeforeRoot maxNodes raw found nodes) {ms : List Misc}
    (hms : ∀ m ∈ ms, m.Readable) (hroom : nodes + Misc.nodesIn ms ≤ maxNodes) :
    ∃ raw' found', (ms.flatMap Misc.write).foldl Cutter.step ⟨.text raw, found⟩ =
      ⟨.text raw', found'⟩ ∧ BeforeRoot maxNodes raw' found' (nodes + Misc.nodesIn ms) := by
  -- From any point before the root, since the rest of the items starts where the first one ends.
  induction ms generalizing raw found nodes with
  | nil => exact ⟨raw, found, rfl, h⟩
  | cons m ms ih =>
    rw [Misc.nodesIn, ← Nat.add_assoc] at hroom ⊢
    obtain ⟨raw₁, found₁, hfirst, h₁⟩ := h.step (hms m List.mem_cons_self) (by omega)
    obtain ⟨raw₂, found₂, hrest, h₂⟩ :=
      ih h₁ (fun m' hm' => hms m' (List.mem_cons_of_mem m hm')) hroom
    refine ⟨raw₂, found₂, ?_, h₂⟩
    rw [List.flatMap_cons, List.foldl_append, hfirst, hrest]

theorem doctype (h : BeforeRoot maxNodes raw found nodes) (rest : List Char) :
    (("<!DOCTYPE".toList ++ rest).foldl Cutter.step ⟨.text raw, found⟩).finish.foldlM
      (Assembly.step maxNodes) {} = .error .doctype := by
  rw [Cutter.foldl_step_doctype, Cutter.finish, List.reverse_cons,
    Assembly.foldlM_append_ok h.assembled_withText]
  rfl

end BeforeRoot

end DmarcReports.Xml
