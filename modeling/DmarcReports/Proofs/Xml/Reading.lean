import Mathlib.Data.List.TakeDrop
import Mathlib.Data.List.TakeWhile
import DmarcReports.Proofs.Xml.Outline

/-!
Outlines read back as documents.

Each tag and text of a written outline stands for itself, and put together they make the elements of
the outline again, as long as there is room for so many nodes. Main statement: `document_write`.
-/

set_option autoImplicit false
set_option relaxedAutoImplicit false

namespace DmarcReports.Xml

private theorem span_eq_self {p : Char → Bool} {cs : List Char} (h : ∀ c ∈ cs, p c = true) :
    cs.span p = (cs, []) := by
  rw [List.span_eq_takeWhile_dropWhile, List.takeWhile_eq_self_iff.mpr h,
    List.dropWhile_eq_nil_iff.mpr h]

theorem forall_mem_head?_cons (P : Char → Prop) {c : Char} (hc : P c) (cs : List Char) :
    ∀ d ∈ (c :: cs).head?, P d := by
  intro d hd
  obtain rfl := Option.some.inj hd
  exact hc

theorem span_append {p : Char → Bool} {xs ys : List Char} (hxs : ∀ c ∈ xs, p c = true)
    (hys : ∀ c ∈ ys.head?, p c = false) : (xs ++ ys).span p = (xs, ys) := by
  rw [List.span_eq_takeWhile_dropWhile, List.takeWhile_append_of_pos hxs,
    List.dropWhile_append_of_pos hxs]
  cases ys with
  | nil => simp
  | cons c ys => simp [hys c rfl]

theorem Name.ofChars?_toList {name : String} (h : isNamePart name.toList = true) :
    Name.ofChars? name.toList = some (Name.plain name) := by
  have hcolon (c : Char) (hc : c ∈ name.toList) : decide (c ≠ ':') = true :=
    decide_eq_true (isNameChar_of_isNamePart h hc).2
  rw [ofChars?, span_eq_self hcolon]
  simp only [h, if_true, String.ofList_toList, plain]

namespace Tag

private theorem foldlM_step_elementName {cs : List Char} (h : ∀ c ∈ cs, isNameChar c = true)
    (text : List Char) :
    cs.foldlM Reader.step ⟨.elementName text, none, []⟩ =
      some ⟨.elementName (cs.reverse ++ text), none, []⟩ := by
  induction cs generalizing text with
  | nil => rfl
  | cons c cs ih =>
    have hstep : Reader.step ⟨.elementName text, none, []⟩ c =
        some ⟨.elementName (c :: text), none, []⟩ := if_pos (h c List.mem_cons_self)
    rw [List.foldlM_cons, hstep, Option.bind_eq_bind, Option.bind_some,
      ih fun d hd => h d (List.mem_cons_of_mem c hd), List.reverse_cons, List.append_assoc]
    rfl

theorem ofChars?_toList {name : String} (h : isNamePart name.toList = true) :
    ofChars? name.toList = some (.opening (Name.plain name) [] false) := by
  have hchars : ∀ c ∈ name.toList, isNameChar c = true :=
    fun c hc => (isNameChar_of_isNamePart h hc).1
  have hread : (name.toList.foldlM Reader.step ⟨.elementName [], none, []⟩).bind Reader.finish =
      some (.opening (Name.plain name) [] false) := by
    rw [foldlM_step_elementName hchars, Option.bind_some, List.append_nil]
    simp only [Reader.finish, List.reverse_reverse, Name.ofChars?_toList h, Option.map_some]
  unfold ofChars?
  split
  · rename_i cs heq
    have hslash : isNameChar '/' = true := hchars '/' (heq ▸ List.mem_cons_self)
    exact absurd hslash (by decide)
  · exact hread

private theorem ofChars?_slash {name : String} (h : isNamePart name.toList = true) :
    ofChars? ('/' :: name.toList) = some (.closing (Name.plain name)) := by
  have hall : ∀ c ∈ name.toList, isNameChar c = true :=
    fun c hc => (isNameChar_of_isNamePart h hc).1
  rw [ofChars?, span_eq_self hall]
  simp only [List.all_nil, if_true, Name.ofChars?_toList h, Option.map_some]

end Tag

namespace Content

private theorem foldlM_step_plain {cs : List Char} (h : ∀ c ∈ cs, c ≠ '&') (out : List Piece) :
    cs.foldlM step (.plain, out) = some (.plain, (cs.map Piece.plain).reverse ++ out) := by
  induction cs generalizing out with
  | nil => rfl
  | cons c cs ih =>
    have hstep : step (.plain, out) c = some (.plain, .plain c :: out) :=
      if_neg (h c List.mem_cons_self)
    rw [List.foldlM_cons, hstep, Option.bind_eq_bind, Option.bind_some,
      ih fun d hd => h d (List.mem_cons_of_mem c hd), List.map_cons, List.reverse_cons,
      List.append_assoc]
    rfl

private theorem join_plain {cs text : List Char} (h : ∀ c ∈ cs, c ≠ '\r')
    (ht : text.head? ≠ some '\r') :
    join text false (cs.map Piece.plain) = text.reverse ++ cs := by
  induction cs generalizing text with
  | nil => rw [List.map_nil, join, List.append_nil]
  | cons c cs ih =>
    have hc : c ≠ '\r' := h c List.mem_cons_self
    have hpush (last : Bool) : push text c last = c :: text := by
      unfold push
      split
      · exact absurd rfl ht
      · simp only [hc, decide_false, Bool.and_false, Bool.false_eq_true, if_false]
    have hhead : (c :: text).head? ≠ some '\r' := fun heq => hc (Option.some.inj heq)
    rw [List.map_cons, join, hpush, ih (fun d hd => h d (List.mem_cons_of_mem c hd)) hhead,
      List.reverse_cons, List.append_assoc]
    rfl

private theorem hasSectionEnd_eq_false {cs : List Char} (h : ∀ c ∈ cs, c ≠ '>') :
    hasSectionEnd cs = false := by
  induction cs with
  | nil => rfl
  | cons c cs ih =>
    have hno : [']', '>'].isPrefixOf cs = false := by
      rw [Bool.eq_false_iff, ne_eq, List.isPrefixOf_iff_prefix]
      intro hprefix
      have hmem : '>' ∈ cs := hprefix.subset (by decide)
      exact h '>' (List.mem_cons_of_mem c hmem) rfl
    rw [hasSectionEnd, hno, Bool.and_false, Bool.false_or,
      ih fun d hd => h d (List.mem_cons_of_mem c hd)]

private theorem text?_plain {cs : List Char} (h : cs.all isPlain = true) : text? cs = some cs := by
  have hplain (c : Char) (hc : c ∈ cs) := (isPlain_iff c).mp (List.all_eq_true.mp h c hc)
  have hlegal : cs.all isLegal = true := List.all_eq_true.mpr fun c hc => (hplain c hc).1
  have hend : hasSectionEnd cs = false := hasSectionEnd_eq_false fun c hc => (hplain c hc).2.2.1
  have hpieces : pieces? cs = some (cs.map Piece.plain) := by
    rw [pieces?, foldlM_step_plain fun c hc => (hplain c hc).2.2.2.1]
    simp only [List.append_nil, List.reverse_reverse]
  have hnone : ([] : List Char).head? ≠ some '\r' := by decide
  rw [text?, hlegal, hend, hpieces, Bool.not_false, Bool.and_true, if_pos rfl, Option.map_some,
    join_plain (fun c hc => (hplain c hc).2.2.2.2) hnone]
  rfl

end Content

namespace Assembly

variable {maxNodes : Nat}

theorem step_ok {b b' : Builder} {m : Markup} (hstep : b.step m = .ok b')
    (hspaces : declaredSpaces m = []) {j k : Nat} (hcount : j + b.newNodes m = k)
    (hroom : k ≤ maxNodes) : step maxNodes ⟨b, j, ∅⟩ m = .ok ⟨b', k, ∅⟩ := by
  simp only [step, hstep, hspaces, hcount, bind, Except.bind, List.foldl_nil,
    if_neg (Nat.not_lt.mpr hroom)]
  rfl

theorem foldlM_cons_ok {a b : Assembly} {m : Markup} {ms : List Markup}
    (h : step maxNodes a m = .ok b) :
    (m :: ms).foldlM (step maxNodes) a = ms.foldlM (step maxNodes) b := by
  rw [List.foldlM_cons, h]
  rfl

theorem foldlM_append_ok {a b : Assembly} {ms rest : List Markup}
    (h : ms.foldlM (step maxNodes) a = .ok b) :
    (ms ++ rest).foldlM (step maxNodes) a = rest.foldlM (step maxNodes) b := by
  rw [List.foldlM_append, h]
  rfl

private theorem step_startTag {name : String} (h : isNamePart name.toList = true) {b : Builder}
    (hopen : ∀ root, b ≠ .epilog root) {k : Nat} (hroom : k + 1 ≤ maxNodes) :
    step maxNodes ⟨b, k, ∅⟩ (.tag name.toList) =
      .ok ⟨.inside ⟨Name.plain name, [], b.scope, []⟩ b.frames, k + 1, ∅⟩ := by
  have hbuild : b.step (.tag name.toList) =
      .ok (.inside ⟨Name.plain name, [], b.scope, []⟩ b.frames) := by
    simp only [Builder.step, Tag.ofChars?_toList h]
    cases b with
    | epilog root => exact absurd rfl (hopen root)
    | prolog => rfl
    | inside f outer => rfl
  have hslash : name.toList.head? ≠ some '/' := by
    intro heq
    have hname : isNameChar '/' = true :=
      (isNameChar_of_isNamePart h (List.mem_of_mem_head? heq)).1
    exact absurd hname (by decide)
  have hcount : b.newNodes (.tag name.toList) = 1 := if_neg hslash
  have hspaces : declaredSpaces (.tag name.toList) = [] := by
    simp only [declaredSpaces, Tag.ofChars?_toList h, List.filterMap_nil]
  exact step_ok hbuild hspaces (by rw [hcount]) hroom

private theorem step_endTag {name : String} (h : isNamePart name.toList = true) {f : Frame}
    (hf : f.name = Name.plain name) (outer : List Frame) {k : Nat} (hroom : k ≤ maxNodes) :
    step maxNodes ⟨.inside f outer, k, ∅⟩ (.tag ('/' :: name.toList)) =
      .ok ⟨Builder.addElement f.toNode outer, k, ∅⟩ := by
  have hbuild : (Builder.inside f outer).step (.tag ('/' :: name.toList)) =
      .ok (Builder.addElement f.toNode outer) := by
    simp only [Builder.step, Tag.ofChars?_slash h, Builder.closeElement, hf, if_true,
      Builder.orMalformed]
  have hspaces : declaredSpaces (.tag ('/' :: name.toList)) = [] := by
    simp only [declaredSpaces, Tag.ofChars?_slash h]
  exact step_ok hbuild hspaces rfl hroom

private theorem step_text {content : String} (h : content.toList.all isPlain = true) (name : Name)
    (scope : Scope) (outer : List Frame) {k : Nat} (hroom : k + 1 ≤ maxNodes) :
    step maxNodes ⟨.inside ⟨name, [], scope, []⟩ outer, k, ∅⟩ (.text content.toList) =
      .ok ⟨.inside ⟨name, [], scope, [.text content]⟩ outer, k + 1, ∅⟩ := by
  have hbuild : (Builder.inside ⟨name, [], scope, []⟩ outer).step (.text content.toList) =
      .ok (.inside ⟨name, [], scope, [.text content]⟩ outer) := by
    simp only [Builder.step, Content.text?_plain h, Builder.addText, String.ofList_toList,
      Builder.orMalformed]
    rfl
  exact step_ok hbuild rfl rfl hroom

open Outline (textParts textNodes)

private theorem foldlM_textParts {content : String} (h : content.toList.all isPlain = true)
    (name : Name) (scope : Scope) (outer : List Frame) {k : Nat}
    (hroom : k + (if content = "" then 0 else 1) ≤ maxNodes) :
    (textParts content.toList).foldlM (step maxNodes)
        ⟨.inside ⟨name, [], scope, []⟩ outer, k, ∅⟩ =
      .ok ⟨.inside ⟨name, [], scope, (textNodes content).reverse⟩ outer,
        k + (if content = "" then 0 else 1), ∅⟩ := by
  by_cases hempty : content = ""
  · subst hempty
    rfl
  · have hlist : content.toList ≠ [] := fun heq => hempty (String.toList_eq_nil_iff.mp heq)
    rw [if_neg hempty] at hroom ⊢
    rw [textParts, if_neg hlist, textNodes, if_neg hempty,
      foldlM_cons_ok (step_text h name scope outer hroom)]
    rfl

private theorem foldlM_element {name : String} (h : isNamePart name.toList = true) {b : Builder}
    (hopen : ∀ root, b ≠ .epilog root) {k k' : Nat} (hroom : k + 1 ≤ maxNodes)
    (hroom' : k' ≤ maxNodes) {ms rest : List Markup} {children : List Node}
    (hinner : ms.foldlM (step maxNodes)
        ⟨.inside ⟨Name.plain name, [], b.scope, []⟩ b.frames, k + 1, ∅⟩ =
      .ok ⟨.inside ⟨Name.plain name, [], b.scope, children.reverse⟩ b.frames, k', ∅⟩) :
    (.tag name.toList :: (ms ++ .tag ('/' :: name.toList) :: rest)).foldlM (step maxNodes)
        ⟨b, k, ∅⟩ =
      rest.foldlM (step maxNodes)
        ⟨Builder.addElement (.element (Name.plain name) [] children) b.frames, k', ∅⟩ := by
  have hclose := step_endTag h (f := ⟨Name.plain name, [], b.scope, children.reverse⟩) rfl
    b.frames hroom'
  rw [foldlM_cons_ok (step_startTag h hopen hroom), foldlM_append_ok hinner, foldlM_cons_ok hclose,
    Frame.toNode, List.reverse_reverse]

private theorem foldlM_child {name : String} (h : isNamePart name.toList = true) (f : Frame)
    (outer : List Frame) {k k' : Nat} (hroom : k + 1 ≤ maxNodes) (hroom' : k' ≤ maxNodes)
    {ms rest : List Markup} {children : List Node}
    (hinner : ms.foldlM (step maxNodes)
        ⟨.inside ⟨Name.plain name, [], f.scope, []⟩ (f :: outer), k + 1, ∅⟩ =
      .ok ⟨.inside ⟨Name.plain name, [], f.scope, children.reverse⟩ (f :: outer), k', ∅⟩) :
    (.tag name.toList :: (ms ++ .tag ('/' :: name.toList) :: rest)).foldlM (step maxNodes)
        ⟨.inside f outer, k, ∅⟩ =
      rest.foldlM (step maxNodes)
        ⟨.inside { f with children := .element (Name.plain name) [] children :: f.children } outer,
          k', ∅⟩ :=
  foldlM_element (b := .inside f outer) h (fun _ => nofun) hroom hroom' hinner

private theorem foldlM_parts {d : Outline} (h : d.isWritable = true) (f : Frame)
    (outer : List Frame) {k : Nat} (hroom : k + d.size ≤ maxNodes) :
    d.parts.foldlM (step maxNodes) ⟨.inside f outer, k, ∅⟩ =
      .ok ⟨.inside { f with children := d.nodes.reverse ++ f.children } outer, k + d.size, ∅⟩ := by
  -- For any open element, since the ones inside are put together in frames of their own first.
  induction d generalizing f outer k with
  | none => rfl
  | leaf name content rest ih =>
    simp only [Outline.isWritable, Bool.and_eq_true] at h
    obtain ⟨⟨hname, hcontent⟩, hrest⟩ := h
    simp only [Outline.size] at hroom ⊢
    have hroomText : k + 1 + (if content = "" then 0 else 1) ≤ maxNodes := by omega
    have htext := foldlM_textParts hcontent (Name.plain name) f.scope (f :: outer) hroomText
    rw [Outline.parts, foldlM_child hname f outer (by omega) (by omega) htext,
      ih hrest _ _ (by omega)]
    simp only [Outline.nodes, List.reverse_cons, List.append_assoc, List.singleton_append,
      Nat.add_assoc]
  | branch name inner rest ihInner ihRest =>
    simp only [Outline.isWritable, Bool.and_eq_true] at h
    obtain ⟨⟨hname, hinner⟩, hrest⟩ := h
    simp only [Outline.size] at hroom ⊢
    have hroomInner : k + 1 + inner.size ≤ maxNodes := by omega
    have hchildren := ihInner hinner ⟨Name.plain name, [], f.scope, []⟩ (f :: outer) hroomInner
    rw [List.append_nil] at hchildren
    rw [Outline.parts, foldlM_child hname f outer (by omega) (by omega) hchildren,
      ihRest hrest _ _ (by omega)]
    simp only [Outline.nodes, List.reverse_cons, List.append_assoc, List.singleton_append,
      Nat.add_assoc]

end Assembly

def header : List Char :=
  "<?xml version=\"1.0\" encoding=\"UTF-8\"?>".toList

private theorem skip?_header (cs : List Char) : Declaration.skip? (header ++ cs) = some cs := rfl

private theorem Builder.prolog_ne_epilog (root : Node) : prolog ≠ epilog root := by
  intro h
  cases h

/-- Behind the declaration a written element reads back as the root of the document. -/
theorem document_write {maxNodes : Nat} {name : String} {inner : Outline}
    (hname : isNamePart name.toList = true) (hinner : inner.isWritable = true)
    (hroom : 2 + inner.size ≤ maxNodes) :
    document maxNodes (header ++ (Outline.branch name inner .none).write) =
      .ok (.element (Name.plain name) [] inner.nodes) := by
  have hdoc : (Outline.branch name inner .none).isWritable = true := by
    simp only [Outline.isWritable, hname, hinner, Bool.and_self]
  have hchildren := Assembly.foldlM_parts hinner ⟨Name.plain name, [], [], []⟩ [] hroom
  rw [List.append_nil] at hchildren
  have hroomRoot : 1 + 1 ≤ maxNodes := by omega
  have hroot : ((Markup.tag name.toList :: (inner.parts ++ [.tag ('/' :: name.toList)])).foldlM
        (Assembly.step maxNodes) {}) =
      .ok ⟨.epilog (.element (Name.plain name) [] inner.nodes), 2 + inner.size, ∅⟩ :=
    Assembly.foldlM_element (b := .prolog) hname Builder.prolog_ne_epilog hroomRoot hroom hchildren
  have hmark : dropMark (header ++ (Outline.branch name inner .none).write) =
      header ++ (Outline.branch name inner .none).write := rfl
  rw [document, hmark, skip?_header]
  simp only [Builder.orMalformed, bind, Except.bind, Outline.split_write hdoc, Outline.parts, hroot]
  rfl

end DmarcReports.Xml
