import DmarcReports.Proofs.Xml.Declaration
import DmarcReports.Proofs.Xml.Misc

/-!
Prologs: what may stand before a document type.

A prolog is an optional byte-order mark, an optional declaration, and then spaces, comments and
instructions. Main statement: `document_doctype`.
-/

set_option autoImplicit false
set_option relaxedAutoImplicit false

namespace DmarcReports.Xml

structure Prolog where
  mark : Bool := false
  declaration : Option Declaration.Written := none
  misc : List Misc := []

namespace Prolog

def body (p : Prolog) : List Char :=
  (p.declaration.map Declaration.Written.write).getD [] ++ p.misc.flatMap Misc.write

def write (p : Prolog) : List Char :=
  (if p.mark then [byteOrderMark] else []) ++ p.body

structure WellFormed (p : Prolog) : Prop where
  declaration : ∀ d ∈ p.declaration, d.WellFormed
  misc : ∀ m ∈ p.misc, m.WellFormed

/-- The parts that a prolog is read as. Only a blank behind its name makes a declaration; one with
another space there is read as an instruction. -/
def items (p : Prolog) : List Misc :=
  match p.declaration with
  | some d =>
    if d.version.gap.head? = some ' ' then p.misc
    else .instruction "xml".toList d.content :: p.misc
  | none => p.misc

def nodes (p : Prolog) : Nat :=
  Misc.nodesIn p.items

end Prolog

theorem Misc.WellFormed.readable {m : Misc} (h : m.WellFormed) : m.Readable := by
  cases m with
  | space c => exact h
  | comment content => exact h
  | instruction target content =>
    obtain ⟨hstart, htarget, hname, hspace, hlegal, hend⟩ := h
    refine ⟨hstart, htarget, ?_, hspace, hlegal, hend⟩
    rintro ⟨cs, hcs⟩
    -- The target ends where the first space is, so in `xml` and a blank it could only be `xml`.
    have hread : (target ++ content).span isNameChar = (target, content) :=
      span_append htarget fun c hc => isNameChar_of_isSpace (hspace c hc)
    have hblank : ∀ c ∈ (' ' :: cs).head?, isNameChar c = false :=
      forall_mem_head?_cons (isNameChar · = false) rfl cs
    have hletters : ∀ c ∈ "xml".toList, isNameChar c = true := List.all_eq_true.mp rfl
    have hxml : (target ++ content).span isNameChar = ("xml".toList, ' ' :: cs) := by
      rw [← hcs]
      exact span_append hletters hblank
    obtain ⟨rfl, -⟩ := Prod.mk.inj (hread.symm.trans hxml)
    exact hname rfl

namespace Declaration

private theorem isLegal_and_ne_of_isSpace {c : Char} (h : isSpace c = true) :
    isLegal c = true ∧ c ≠ '?' := by
  simp only [isSpace, Bool.or_eq_true, decide_eq_true_eq] at h
  rcases h with ((rfl | rfl) | rfl) | rfl <;> decide

private theorem Setting.WellFormed.isLegal_write {t : Setting} (h : t.WellFormed) {name : String}
    (hname : name.toList.all (fun c => isLegal c && c != '?') = true) :
    ∀ c ∈ t.write name, isLegal c = true ∧ c ≠ '?' := by
  have hquote : isLegal t.quote = true ∧ t.quote ≠ '?' := by
    rcases h.quote_mark with hq | hq <;> rw [hq] <;> decide
  intro c hc
  simp only [Setting.write, Setting.body, List.mem_append, List.mem_cons, List.not_mem_nil,
    or_false] at hc
  rcases hc with hgap | hchar | hbefore | rfl | hafter | rfl | hvalue | rfl
  · exact isLegal_and_ne_of_isSpace (h.gap_space c hgap)
  · simpa using List.all_eq_true.mp hname c hchar
  · exact isLegal_and_ne_of_isSpace (h.before_space c hbefore)
  · decide
  · exact isLegal_and_ne_of_isSpace (h.after_space c hafter)
  · exact hquote
  · obtain ⟨hlegal, -, -, hquestion⟩ := h.value_plain c hvalue
    exact ⟨hlegal, hquestion⟩
  · exact hquote

private theorem Setting.isLegal_writeOptional {o : Option Setting} (h : ∀ t ∈ o, t.WellFormed)
    {name : String} (hname : name.toList.all (fun c => isLegal c && c != '?') = true) :
    ∀ c ∈ Setting.writeOptional name o, isLegal c = true ∧ c ≠ '?' := by
  cases o with
  | none => exact fun c hc => absurd hc List.not_mem_nil
  | some t => exact (h t rfl).isLegal_write hname

private theorem Written.WellFormed.isLegal_content {d : Written} (h : d.WellFormed) :
    ∀ c ∈ d.content, isLegal c = true ∧ c ≠ '?' := by
  intro c hc
  simp only [Written.content, List.mem_append] at hc
  rcases hc with hversion | hencoding | hstandalone | htrailing
  · exact h.version.isLegal_write rfl c hversion
  · exact Setting.isLegal_writeOptional h.encoding rfl c hencoding
  · exact Setting.isLegal_writeOptional h.standalone rfl c hstandalone
  · exact isLegal_and_ne_of_isSpace (h.trailing c htrailing)

/-- Without a blank behind its name a declaration passes for an instruction. -/
theorem Written.WellFormed.readable {d : Written} (h : d.WellFormed)
    (hblank : d.version.gap.head? ≠ some ' ') :
    (Misc.instruction "xml".toList d.content).Readable := by
  obtain ⟨c, gap, hgap⟩ := List.exists_cons_of_ne_nil h.version.gap_ne_nil
  have hhead : d.content.head? = some c := by
    simp [Written.content, Setting.write, hgap]
  refine ⟨⟨'x', rfl, rfl⟩, List.all_eq_true.mp rfl, ?_, ?_, fun e he => (h.isLegal_content e he).1, ?_⟩
  · intro hstarts
    have hfirst : [' '] <+: d.content := (List.prefix_append_right_inj "xml".toList).mp hstarts
    obtain ⟨cs, hcs⟩ := hfirst
    rw [← hcs] at hhead
    rw [hgap] at hblank
    exact hblank hhead.symm
  · intro e he
    obtain rfl := Option.some.inj (hhead.symm.trans he)
    exact h.version.gap_space _ (hgap ▸ List.mem_cons_self)
  · intro hfound
    exact (h.isLegal_content '?' (hfound.subset (by decide))).2 rfl

private theorem skip?_of_not_prefix {cs : List Char} (h : ¬"<?xml ".toList <+: cs) :
    skip? cs = some cs := by
  rw [skip?, behind?, isPrefixOf_eq_false h]
  rfl

end Declaration

theorem Misc.skip?_write {ms : List Misc} (h : ∀ m ∈ ms, m.Readable) (rest : List Char) :
    Declaration.skip? (ms.flatMap Misc.write ++ ("<!DOCTYPE".toList ++ rest)) =
      some (ms.flatMap Misc.write ++ ("<!DOCTYPE".toList ++ rest)) := by
  apply Declaration.skip?_of_not_prefix
  cases ms with
  | nil => simp
  | cons m ms =>
    have hm := h m List.mem_cons_self
    rw [List.flatMap_cons]
    cases m with
    | space c =>
      rintro ⟨cs, hcs⟩
      obtain ⟨rfl, -⟩ := List.cons.inj hcs
      cases hm
    | comment content => simp [Misc.write]
    | instruction target content =>
      obtain ⟨-, -, hname, -⟩ := hm
      intro hstarts
      -- A short instruction ends before the blank, and `?` is not in what is looked for.
      have htext : (Misc.instruction target content).write ++ ms.flatMap Misc.write ++
          ("<!DOCTYPE".toList ++ rest) = "<?".toList ++ ((target ++ content) ++
            '?' :: ('>' :: (ms.flatMap Misc.write ++ ("<!DOCTYPE".toList ++ rest)))) := by
        simp [Misc.write]
      rw [htext] at hstarts
      have hinner := (List.prefix_append_right_inj "<?".toList).mp hstarts
      exact hname (prefix_left_of_not_mem hinner (by decide))

namespace Prolog

variable {p : Prolog}

private theorem WellFormed.readable_items (h : p.WellFormed) : ∀ m ∈ p.items, m.Readable := by
  have hmisc : ∀ m ∈ p.misc, m.Readable := fun m hm => (h.misc m hm).readable
  unfold items
  split
  · rename_i d hd
    split
    · exact hmisc
    · rename_i hblank
      intro m hm
      rcases List.mem_cons.mp hm with rfl | hmem
      · exact (h.declaration d hd).readable hblank
      · exact hmisc m hmem
  · exact hmisc

private theorem WellFormed.skip?_body (h : p.WellFormed) (rest : List Char) :
    Declaration.skip? (p.body ++ ("<!DOCTYPE".toList ++ rest)) =
      some (p.items.flatMap Misc.write ++ ("<!DOCTYPE".toList ++ rest)) := by
  have hitems := Misc.skip?_write h.readable_items rest
  cases hd : p.declaration with
  | none =>
    simp only [items, hd] at hitems ⊢
    simp only [body, hd, Option.map_none, Option.getD_none, List.nil_append]
    exact hitems
  | some d =>
    by_cases hblank : d.version.gap.head? = some ' '
    · simp only [items, hd, if_pos hblank, body, Option.map_some, Option.getD_some,
        List.append_assoc]
      exact Declaration.skip?_write (h.declaration d hd) hblank _
    · simp only [items, hd, if_neg hblank] at hitems ⊢
      have hinstruction : (Misc.instruction "xml".toList d.content).write = d.write := by
        simp [Misc.write, Declaration.Written.write]
      rw [List.flatMap_cons, hinstruction] at hitems ⊢
      simp only [body, hd, Option.map_some, Option.getD_some]
      exact hitems

private theorem WellFormed.head?_body (h : p.WellFormed) (rest : List Char) :
    ∀ c ∈ (p.body ++ ("<!DOCTYPE".toList ++ rest)).head?, c ≠ byteOrderMark := by
  have hopen (cs : List Char) : ∀ c ∈ ('<' :: cs).head?, c ≠ byteOrderMark :=
    forall_mem_head?_cons (· ≠ byteOrderMark) (by decide) cs
  cases hd : p.declaration with
  | some d =>
    rw [body, hd]
    exact hopen _
  | none =>
    rw [body, hd]
    cases hmisc : p.misc with
    | nil => exact hopen _
    | cons m ms =>
      have hm : m.WellFormed := h.misc m (hmisc ▸ List.mem_cons_self)
      cases m with
      | space d =>
        have hd : d ≠ byteOrderMark := by
          rintro rfl
          cases hm
        exact forall_mem_head?_cons (· ≠ byteOrderMark) hd _
      | comment content => exact hopen _
      | instruction target content => exact hopen _

private theorem dropMark_of_head? {cs : List Char} (h : ∀ c ∈ cs.head?, c ≠ byteOrderMark) :
    dropMark cs = cs := by
  cases cs with
  | nil => rfl
  | cons c cs => exact if_neg (h c rfl)

private theorem WellFormed.dropMark_write (h : p.WellFormed) (rest : List Char) :
    dropMark (p.write ++ ("<!DOCTYPE".toList ++ rest)) =
      p.body ++ ("<!DOCTYPE".toList ++ rest) := by
  cases hmark : p.mark with
  | false => simpa [write, hmark] using dropMark_of_head? (h.head?_body rest)
  | true => simp [write, hmark, dropMark]

theorem WellFormed.document_doctype (h : p.WellFormed) {maxNodes : Nat} (hroom : p.nodes < maxNodes)
    (rest : List Char) :
    document maxNodes (dropMark (p.write ++ ("<!DOCTYPE".toList ++ rest))) = .error .doctype := by
  have hstart : BeforeRoot maxNodes [] [] 1 := BeforeRoot.start (by omega)
  have hitems : 1 + Misc.nodesIn p.items ≤ maxNodes := by
    unfold nodes at hroom
    omega
  obtain ⟨raw, found, hread, hbefore⟩ := hstart.run h.readable_items hitems
  have hsplit : (Markup.split (p.items.flatMap Misc.write ++ ("<!DOCTYPE".toList ++ rest))).foldlM
      (Assembly.step maxNodes) {} = .error .doctype := by
    rw [Markup.split, List.foldl_append]
    exact hread ▸ hbefore.doctype rest
  rw [h.dropMark_write, document, dropMark_of_head? (h.head?_body rest), h.skip?_body]
  simp only [Builder.orMalformed, bind, Except.bind, hsplit]

end Prolog

end DmarcReports.Xml
