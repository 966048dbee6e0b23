import DmarcReports.Proofs.Stages
import DmarcReports.Proofs.Xml.Reference

/-!
The parts of a document that is accepted.

Cutting a document into parts loses nothing: unless it stops at a document type or at what is no
part, the parts written one after the other are the document. Main statement:
`resolved_of_document`.
-/

set_option autoImplicit false
set_option relaxedAutoImplicit false

namespace DmarcReports.Xml

namespace Markup

/-- A part with its delimiters. What ends the list of parts has none behind it. -/
def write : Markup → List Char
  | text raw => raw
  | comment raw => '<' :: (Kind.comment.opener ++ (raw ++ Kind.comment.closer.reverse))
  | cdata raw => '<' :: (Kind.cdata.opener ++ (raw ++ Kind.cdata.closer.reverse))
  | instruction raw => '<' :: (Kind.instruction.opener ++ (raw ++ Kind.instruction.closer.reverse))
  | tag raw => '<' :: (raw ++ ['>'])
  | doctype | broken => []

def IsLast (m : Markup) : Prop :=
  m = .doctype ∨ m = .broken

namespace Cutter

def pending : Mode → List Char
  | .text raw => raw.reverse
  | .opening seen => '<' :: seen
  | .inside kind raw => '<' :: (kind.opener ++ raw.reverse)
  | .tag _ raw => '<' :: raw.reverse
  | .ended => []

/-- Whether characters are still cut. A document type is not entered, since it ends the list. -/
def isCutting : Mode → Bool
  | .ended => false
  | .inside kind _ => kind != .doctype
  | _ => true

/-- That what was read is in the parts and in the one that the cutter is in, unless it has stopped. -/
def HasRead (read : List Char) (k : Cutter) : Prop :=
  (k.mode = .ended ∧ ∃ m ∈ k.found, m.IsLast) ∨
    isCutting k.mode = true ∧ k.found.reverse.flatMap write ++ pending k.mode = read

private theorem flatMap_withText (found : List Markup) (raw : List Char) :
    (withText found raw).reverse.flatMap write = found.reverse.flatMap write ++ raw.reverse := by
  cases raw with
  | nil => simp [withText]
  | cons c cs => simp [withText, write]

private theorem write_part {kind : Kind} (h : kind ≠ .doctype) (raw : List Char) :
    (kind.part raw).write = '<' :: (kind.opener ++ (raw ++ kind.closer.reverse)) := by
  cases kind with
  | doctype => exact absurd rfl h
  | comment | cdata | instruction => rfl

private theorem hasRead_stepOpening (found : List Markup) (seen : List Char) (c : Char) :
    (stepOpening found seen c).HasRead (found.reverse.flatMap write ++ '<' :: (seen ++ [c])) := by
  unfold stepOpening
  split
  · rename_i kind _
    split
    · rename_i hopener
      cases kind with
      | doctype => exact .inl ⟨rfl, .doctype, List.mem_cons_self, .inl rfl⟩
      | comment | cdata | instruction => exact .inr ⟨rfl, by simp [enter, pending, ← hopener]⟩
    · exact .inr ⟨rfl, rfl⟩
  · split
    · rename_i hseen
      unfold enterTag
      split
      · rename_i hc
        exact .inr ⟨rfl, by simp [pending, write, hseen, hc]⟩
      · exact .inr ⟨rfl, by simp [pending, hseen]⟩
    · exact .inl ⟨rfl, .broken, List.mem_cons_self, .inr rfl⟩

theorem hasRead_step {read : List Char} {k : Cutter} (h : k.HasRead read) (c : Char) :
    (k.step c).HasRead (read ++ [c]) := by
  obtain ⟨mode, found⟩ := k
  rcases h with ⟨hended, hlast⟩ | ⟨hcutting, rfl⟩
  · obtain rfl : mode = .ended := hended
    exact .inl ⟨rfl, hlast⟩
  cases mode with
  | text raw =>
    by_cases hc : c = '<'
    · have hstep : step ⟨.text raw, found⟩ c = ⟨.opening [], withText found raw⟩ := if_pos hc
      rw [hstep]
      exact .inr ⟨rfl, by simp [flatMap_withText, pending, hc]⟩
    · have hstep : step ⟨.text raw, found⟩ c = ⟨.text (c :: raw), found⟩ := if_neg hc
      rw [hstep]
      exact .inr ⟨rfl, by simp [pending]⟩
  | opening seen =>
    have hread := hasRead_stepOpening found seen c
    rw [pending, List.append_assoc, List.cons_append]
    exact hread
  | inside kind raw =>
    have hkind : kind ≠ .doctype := bne_iff_ne.mp hcutting
    by_cases hclose : kind.closer.isPrefixOf (c :: raw) = true
    · obtain ⟨rest, hrest⟩ := List.isPrefixOf_iff_prefix.mp hclose
      have hstep : step ⟨.inside kind raw, found⟩ c = ⟨.text [], kind.part rest.reverse :: found⟩ := by
        simp only [step, if_pos hclose]
        rw [← hrest, List.drop_left]
      rw [hstep]
      have hchars : rest.reverse ++ kind.closer.reverse = raw.reverse ++ [c] := by
        rw [← List.reverse_append, hrest, List.reverse_cons]
      exact .inr ⟨rfl, by simp [pending, write_part hkind, hchars]⟩
    · have hstep : step ⟨.inside kind raw, found⟩ c = ⟨.inside kind (c :: raw), found⟩ := if_neg hclose
      rw [hstep]
      exact .inr ⟨hcutting, by simp [pending]⟩
  | tag quote raw =>
    cases quote with
    | some q => exact .inr ⟨rfl, by simp [step, pending]⟩
    | none =>
      by_cases hc : c = '>'
      · have hstep : step ⟨.tag none raw, found⟩ c = ⟨.text [], .tag raw.reverse :: found⟩ := if_pos hc
        rw [hstep]
        exact .inr ⟨rfl, by simp [pending, write, hc]⟩
      · have hstep : step ⟨.tag none raw, found⟩ c =
            ⟨.tag (if c = '"' ∨ c = '\'' then some c else none) (c :: raw), found⟩ := if_neg hc
        rw [hstep]
        exact .inr ⟨rfl, by simp [pending]⟩
  | ended => cases hcutting

private theorem hasRead_foldl {read : List Char} {k : Cutter} (h : k.HasRead read)
    (cs : List Char) :
    (cs.foldl step k).HasRead (read ++ cs) := by
  induction cs generalizing read k with
  | nil => rwa [List.append_nil]
  | cons c cs ih =>
    rw [List.append_cons]
    exact ih (hasRead_step h c)

end Cutter

/-- Nothing is lost in cutting, unless the list of parts stops before the end. -/
private theorem flatMap_write_split {cs : List Char} (h : ∀ m ∈ split cs, ¬m.IsLast) :
    (split cs).flatMap write = cs := by
  have hstart : Cutter.HasRead [] {} := .inr ⟨rfl, rfl⟩
  have hread : (cs.foldl Cutter.step {}).HasRead ([] ++ cs) := Cutter.hasRead_foldl hstart cs
  rw [List.nil_append] at hread
  -- The cutter has stopped, which the hypothesis rules out, or it ends in a text, or in a broken part.
  unfold split at h ⊢
  generalize cs.foldl Cutter.step {} = k at h hread ⊢
  obtain ⟨mode, found⟩ := k
  rcases hread with ⟨hended, m, hm, hlast⟩ | ⟨hcutting, hchars⟩
  · obtain rfl : mode = .ended := hended
    exact absurd hlast (h m (List.mem_reverse.mpr hm))
  · cases mode with
    | text raw =>
      rw [Cutter.finish, Cutter.flatMap_withText]
      exact hchars
    | ended => cases hcutting
    | opening seen | inside kind raw | tag quote raw =>
      have hbroken : Markup.broken ∈ (.broken :: found).reverse :=
        List.mem_reverse.mpr List.mem_cons_self
      exact absurd (.inr rfl) (h .broken hbroken)

/-- That a part refers to no declared entity. Only in texts and tags are references read. -/
def Resolved : Markup → Prop
  | text raw | tag raw => Referenced raw
  | comment _ | cdata _ | instruction _ => True
  | doctype | broken => False

private theorem referenced_of_spaces {b b' : Builder} {raw : List Char}
    (h : (if raw.all isSpace then .ok b else .error .malformed : Except Fault Builder) = .ok b') :
    Referenced raw := by
  split at h
  · rename_i hspaces
    exact .of_ne fun c hc => ne_amp_of_isSpace (List.all_eq_true.mp hspaces c hc)
  · cases h

private theorem resolved_of_step {b b' : Builder} {m : Markup} (h : b.step m = .ok b') :
    m.Resolved := by
  cases m with
  | text raw =>
    cases b with
    | inside frame outer =>
      cases htext : Content.text? raw with
      | none =>
        simp only [Builder.step, htext] at h
        cases h
      | some cs => exact Content.referenced_of_text? htext
    | prolog | epilog root => exact referenced_of_spaces h
  | comment raw | cdata raw | instruction raw => trivial
  | tag raw =>
    cases htag : Tag.ofChars? raw with
    | none =>
      simp only [Builder.step, htag] at h
      cases h
    | some tag => exact Tag.referenced_of_ofChars? htag
  | doctype => cases b <;> cases h
  | broken => cases b <;> cases h

end Markup

private theorem exists_step_of_foldlM {maxNodes : Nat} {ms : List Markup} {a a' : Assembly}
    (h : ms.foldlM (Assembly.step maxNodes) a = .ok a') :
    ∀ m ∈ ms, ∃ b b' : Builder, b.step m = .ok b' := by
  induction ms generalizing a with
  | nil => exact fun m hm => absurd hm List.not_mem_nil
  | cons m ms ih =>
    rw [List.foldlM_cons, bind_eq_ok_iff] at h
    obtain ⟨a₁, hfirst, hrest⟩ := h
    unfold Assembly.step at hfirst
    rw [bind_eq_ok_iff] at hfirst
    obtain ⟨b, hb, -⟩ := hfirst
    intro n hn
    rcases List.mem_cons.mp hn with rfl | hmem
    · exact ⟨a.builder, b, hb⟩
    · exact ih hrest n hmem

theorem resolved_of_document {maxNodes : Nat} {cs : List Char} {root : Node}
    (h : document maxNodes cs = .ok root) :
    ∃ body, Declaration.skip? (dropMark cs) = some body ∧
      (Markup.split body).flatMap Markup.write = body ∧ ∀ m ∈ Markup.split body, m.Resolved := by
  unfold document at h
  rw [bind_eq_ok_iff] at h
  obtain ⟨body, hbody, hrest⟩ := h
  rw [bind_eq_ok_iff] at hrest
  obtain ⟨a, hparts, -⟩ := hrest
  have hskip : Declaration.skip? (dropMark cs) = some body := by
    cases hcases : Declaration.skip? (dropMark cs) with
    | none =>
      rw [hcases] at hbody
      cases hbody
    | some body' =>
      rw [hcases] at hbody
      obtain rfl := Except.ok.inj hbody
      rfl
  have hresolved : ∀ m ∈ Markup.split body, m.Resolved := by
    intro m hm
    obtain ⟨b, b', hstep⟩ := exists_step_of_foldlM hparts m hm
    exact Markup.resolved_of_step hstep
  refine ⟨body, hskip, Markup.flatMap_write_split ?_, hresolved⟩
  rintro m hm (rfl | rfl)
  · exact hresolved _ hm
  · exact hresolved _ hm

end DmarcReports.Xml
