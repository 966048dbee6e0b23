import Mathlib.Data.List.TakeDrop
import Mathlib.Data.List.TakeWhile
import DmarcReports.Proofs.Xml.Outline

/-!
References in what is accepted.
-/

set_option autoImplicit false
set_option relaxedAutoImplicit false

namespace DmarcReports.Xml

/-- The body of a reference that stands for a character without any declaration. -/
def IsPredefined (body : List Char) : Prop :=
  body ∈ ["quot", "amp", "apos", "lt", "gt"].map String.toList ∨
    (∃ digits, body = '#' :: digits ∧ digits ≠ [] ∧ ∀ d ∈ digits, d.isDigit = true) ∨
    ∃ digits, body = '#' :: 'x' :: digits ∧ digits ≠ [] ∧ ∀ d ∈ digits, Reference.isHex d = true

/-- That every `&` starts a reference of this kind. -/
inductive Referenced : List Char → Prop
  | nil : Referenced []
  | plain {c : Char} {cs : List Char} (hc : c ≠ '&') (hcs : Referenced cs) : Referenced (c :: cs)
  | reference {body cs : List Char} (hbody : IsPredefined body) (hcs : Referenced cs) :
    Referenced ('&' :: (body ++ ';' :: cs))

theorem Referenced.append {cs ds : List Char} (hcs : Referenced cs) (hds : Referenced ds) :
    Referenced (cs ++ ds) := by
  induction hcs with
  | nil => exact hds
  | plain hc _ ih => exact .plain hc ih
  | reference hbody _ ih =>
    rw [List.cons_append, List.append_assoc, List.cons_append]
    exact .reference hbody ih

theorem Referenced.of_ne {cs : List Char} (h : ∀ c ∈ cs, c ≠ '&') : Referenced cs := by
  induction cs with
  | nil => exact .nil
  | cons c cs ih =>
    exact .plain (h c List.mem_cons_self) (ih fun d hd => h d (List.mem_cons_of_mem c hd))

private theorem Referenced.concat {cs : List Char} {c : Char} (hcs : Referenced cs) (hc : c ≠ '&') :
    Referenced (cs ++ [c]) :=
  hcs.append (.plain hc .nil)

private theorem foldlM_invariant {σ : Type} {step : σ → Char → Option σ} (P : List Char → σ → Prop)
    (hstep : ∀ read s c s', P read s → step s c = some s' → P (read ++ [c]) s')
    {cs read : List Char} {s s' : σ} (hs : P read s) (h : cs.foldlM step s = some s') :
    P (read ++ cs) s' := by
  induction cs generalizing read s with
  | nil =>
    obtain rfl := Option.some.inj h
    rwa [List.append_nil]
  | cons c cs ih =>
    rw [List.foldlM_cons, Option.bind_eq_bind, Option.bind_eq_some_iff] at h
    obtain ⟨t, ht, hrest⟩ := h
    rw [List.append_cons]
    exact ih (hstep read s c t hs ht) hrest

namespace Reference

private theorem digits_of_scalar? {base : Nat} {isDigit : Char → Bool} {cs : List Char} {c : Char}
    (h : ((number? base isDigit cs).map scalar).filter isLegal = some c) :
    cs ≠ [] ∧ ∀ d ∈ cs, isDigit d = true := by
  obtain ⟨hsome, -⟩ := Option.filter_eq_some_iff.mp h
  obtain ⟨n, hn, -⟩ := Option.map_eq_some_iff.mp hsome
  unfold number? at hn
  split at hn
  · cases hn
  · rename_i hcs
    simpa using hcs

private theorem isPredefined_of_target? {body : List Char} {c : Char} (h : target? body = some c) :
    IsPredefined body := by
  unfold target? at h
  split at h
  · rename_i cs
    exact .inr (.inr ⟨cs, rfl, digits_of_scalar? h⟩)
  · rename_i cs _
    exact .inr (.inl ⟨cs, rfl, digits_of_scalar? h⟩)
  · obtain ⟨e, he, -⟩ := Option.map_eq_some_iff.mp h
    have hname : decide (e.1.toList = body) = true :=
      List.find?_some (p := fun e : String × Char => decide (e.1.toList = body)) he
    have hmem : e.1 ∈ named.map Prod.fst := List.mem_map_of_mem (List.mem_of_find?_eq_some he)
    exact .inl (of_decide_eq_true hname ▸ List.mem_map_of_mem hmem)

end Reference

namespace Content

/-- That these characters are read up to here: all references in them are complete, except for the
one that the reader is in. -/
def Mode.HasRead (read : List Char) : Mode → Prop
  | .plain => Referenced read
  | .reference body => ∃ before, read = before ++ '&' :: body.reverse ∧ Referenced before

theorem hasRead_step {read : List Char} {s s' : Mode × List Piece} {c : Char}
    (hs : s.1.HasRead read) (h : step s c = some s') : s'.1.HasRead (read ++ [c]) := by
  obtain ⟨mode, out⟩ := s
  cases mode with
  | plain =>
    by_cases hc : c = '&'
    · simp only [step, if_pos hc] at h
      obtain rfl := Option.some.inj h
      exact ⟨read, by rw [hc]; rfl, hs⟩
    · simp only [step, if_neg hc] at h
      obtain rfl := Option.some.inj h
      exact hs.concat hc
  | reference body =>
    obtain ⟨before, rfl, hbefore⟩ := hs
    by_cases hc : c = ';'
    · simp only [step, if_pos hc] at h
      obtain ⟨d, hd, rfl⟩ := Option.map_eq_some_iff.mp h
      have hbody : IsPredefined body.reverse := Reference.isPredefined_of_target? hd
      have hwhole : Referenced ('&' :: (body.reverse ++ ';' :: [])) := .reference hbody .nil
      rw [hc, List.append_assoc]
      exact hbefore.append hwhole
    · simp only [step, if_neg hc] at h
      obtain rfl := Option.some.inj h
      exact ⟨before, by simp, hbefore⟩

private theorem referenced_of_pieces? {cs : List Char} {ps : List Piece}
    (h : pieces? cs = some ps) :
    Referenced cs := by
  unfold pieces? at h
  split at h
  · rename_i out hread
    have hstart : Mode.plain.HasRead [] := Referenced.nil
    exact foldlM_invariant (fun read (s : Mode × List Piece) => s.1.HasRead read)
      (fun _ _ _ _ => hasRead_step) hstart hread
  · cases h

private theorem referenced_of_guarded {cs ds : List Char} {p : Prop} [Decidable p]
    {f : List Piece → List Char} (h : (if p then (pieces? cs).map f else none) = some ds) :
    Referenced cs := by
  split at h
  · obtain ⟨ps, hps, -⟩ := Option.map_eq_some_iff.mp h
    exact referenced_of_pieces? hps
  · cases h

theorem referenced_of_text? {cs ds : List Char} (h : text? cs = some ds) : Referenced cs :=
  referenced_of_guarded h

private theorem referenced_of_value? {cs ds : List Char} (h : value? cs = some ds) :
    Referenced cs :=
  referenced_of_guarded h

end Content

theorem ne_amp_of_isSpace {c : Char} (h : isSpace c = true) : c ≠ '&' := by
  rintro rfl
  cases h

private theorem ne_amp_of_isNamePart {cs : List Char} (h : isNamePart cs = true) :
    ∀ c ∈ cs, c ≠ '&' := by
  rintro c hc rfl
  exact absurd (isNameChar_of_isNamePart h hc).1 (by decide)

private theorem span_eq_append {p : Char → Bool} {cs xs ys : List Char} (h : cs.span p = (xs, ys)) :
    cs = xs ++ ys ∧ ∀ c ∈ ys.head?, p c = false := by
  rw [List.span_eq_takeWhile_dropWhile] at h
  obtain ⟨rfl, rfl⟩ := Prod.mk.inj h
  refine ⟨List.takeWhile_append_dropWhile.symm, ?_⟩
  intro c hc
  have hhead := List.head?_dropWhile_not p cs
  rw [Option.mem_def.mp hc] at hhead
  exact hhead

private theorem Name.ne_amp_of_ofChars? {cs : List Char} {name : Name}
    (h : ofChars? cs = some name) :
    ∀ c ∈ cs, c ≠ '&' := by
  unfold ofChars? at h
  split at h
  · rename_i base hspan
    obtain ⟨rfl, -⟩ := span_eq_append hspan
    split at h
    · rename_i hbase
      rw [List.append_nil]
      exact ne_amp_of_isNamePart hbase
    · cases h
  · rename_i qualifier colon base hspan
    obtain ⟨rfl, hcolon⟩ := span_eq_append hspan
    have hc : colon = ':' := by simpa using hcolon colon rfl
    split at h
    · rename_i hparts
      obtain ⟨hqualifier, hbase⟩ := Bool.and_eq_true_iff.mp hparts
      intro c hmem
      rcases List.mem_append.mp hmem with hleft | hright
      · rcases Bool.or_eq_true_iff.mp hqualifier with hempty | hpart
        · rw [List.isEmpty_iff.mp hempty] at hleft
          cases hleft
        · exact ne_amp_of_isNamePart hpart c hleft
      · rcases List.mem_cons.mp hright with rfl | hrest
        · rw [hc]
          decide
        · exact ne_amp_of_isNamePart hbase c hrest
    · cases h

namespace Tag

/-- That these characters of a start tag are read up to here: all references in them are complete,
but what a name or a value holds so far is not looked into. -/
def Mode.HasRead (read : List Char) : Mode → Prop
  | .elementName text | .attributeName text =>
    ∃ before, read = before ++ text.reverse ∧ Referenced before
  | .value _ quote text =>
    quote ≠ '&' ∧ ∃ before, read = before ++ text.reverse ∧ Referenced before
  | _ => Referenced read

namespace Reader

variable {r r' : Reader} {read : List Char} {c : Char}

private theorem hasRead_stepBetween (hread : Referenced read) {spaced : Bool}
    (h : r.stepBetween spaced c = some r') : r'.mode.HasRead (read ++ [c]) := by
  unfold stepBetween at h
  split at h
  · rename_i hspace
    obtain rfl := Option.some.inj h
    exact hread.concat (ne_amp_of_isSpace hspace)
  · split at h
    · rename_i hslash
      obtain rfl := Option.some.inj h
      exact hread.concat (hslash ▸ by decide)
    · split at h
      · obtain rfl := Option.some.inj h
        exact ⟨read, rfl, hread⟩
      · cases h

private theorem hasRead_stepBeforeEquals (hread : Referenced read) {name : Name}
    (h : r.stepBeforeEquals name c = some r') : r'.mode.HasRead (read ++ [c]) := by
  unfold stepBeforeEquals at h
  split at h
  · rename_i hspace
    obtain rfl := Option.some.inj h
    exact hread.concat (ne_amp_of_isSpace hspace)
  · split at h
    · rename_i hequals
      obtain rfl := Option.some.inj h
      exact hread.concat (hequals ▸ by decide)
    · cases h

theorem hasRead_step (hread : r.mode.HasRead read) (h : r.step c = some r') :
    r'.mode.HasRead (read ++ [c]) := by
  unfold step at h
  -- A name and a value are looked into where they end; all other characters are no `&` by themselves.
  cases hmode : r.mode with
  | elementName text =>
    rw [hmode] at hread
    obtain ⟨before, rfl, hbefore⟩ := hread
    simp only [hmode] at h
    split at h
    · obtain rfl := Option.some.inj h
      exact ⟨before, by simp, hbefore⟩
    · obtain ⟨name, hname, hstep⟩ := Option.bind_eq_some_iff.mp h
      have hchars : Referenced text.reverse := .of_ne (Name.ne_amp_of_ofChars? hname)
      exact hasRead_stepBetween (hbefore.append hchars) hstep
  | between spaced =>
    rw [hmode] at hread
    simp only [hmode] at h
    exact hasRead_stepBetween hread h
  | attributeName text =>
    rw [hmode] at hread
    obtain ⟨before, rfl, hbefore⟩ := hread
    simp only [hmode] at h
    split at h
    · obtain rfl := Option.some.inj h
      exact ⟨before, by simp, hbefore⟩
    · obtain ⟨name, hname, hstep⟩ := Option.bind_eq_some_iff.mp h
      have hchars : Referenced text.reverse := .of_ne (Name.ne_amp_of_ofChars? hname)
      exact hasRead_stepBeforeEquals (hbefore.append hchars) hstep
  | beforeEquals name =>
    rw [hmode] at hread
    simp only [hmode] at h
    exact hasRead_stepBeforeEquals hread h
  | beforeValue name =>
    rw [hmode] at hread
    simp only [hmode] at h
    split at h
    · rename_i hspace
      obtain rfl := Option.some.inj h
      rw [hmode]
      exact Referenced.concat hread (ne_amp_of_isSpace hspace)
    · split at h
      · rename_i hquote
        obtain rfl := Option.some.inj h
        have hc : c ≠ '&' := by rcases hquote with rfl | rfl <;> decide
        exact ⟨hc, read ++ [c], (List.append_nil _).symm, Referenced.concat hread hc⟩
      · cases h
  | value name quote text =>
    rw [hmode] at hread
    obtain ⟨hquote, before, rfl, hbefore⟩ := hread
    simp only [hmode] at h
    split at h
    · rename_i hc
      obtain ⟨value, hvalue, rfl⟩ := Option.map_eq_some_iff.mp h
      have hchars : Referenced text.reverse := Content.referenced_of_value? hvalue
      exact (hbefore.append hchars).concat (hc ▸ hquote)
    · split at h
      · cases h
      · obtain rfl := Option.some.inj h
        exact ⟨hquote, before, by simp, hbefore⟩
  | slash =>
    simp only [hmode] at h
    cases h

private theorem referenced_of_finish {tag : Tag} (hread : r.mode.HasRead read)
    (h : r.finish = some tag) : Referenced read := by
  unfold finish at h
  split at h
  · rename_i text hmode
    rw [hmode] at hread
    obtain ⟨before, rfl, hbefore⟩ := hread
    obtain ⟨name, hname, -⟩ := Option.map_eq_some_iff.mp h
    exact hbefore.append (.of_ne (Name.ne_amp_of_ofChars? hname))
  · rename_i spaced name hmode _
    rw [hmode] at hread
    exact hread
  · rename_i name hmode _
    rw [hmode] at hread
    exact hread
  · cases h

end Reader

theorem referenced_of_ofChars? {cs : List Char} {tag : Tag} (h : ofChars? cs = some tag) :
    Referenced cs := by
  unfold ofChars? at h
  split at h
  · split at h
    rename_i name rest hspan
    obtain ⟨rfl, -⟩ := span_eq_append hspan
    split at h
    · rename_i hspaces
      obtain ⟨name, hname, -⟩ := Option.map_eq_some_iff.mp h
      refine .plain (by decide) (.append (.of_ne (Name.ne_amp_of_ofChars? hname)) (.of_ne ?_))
      exact fun c hc => ne_amp_of_isSpace (List.all_eq_true.mp hspaces c hc)
    · cases h
  · obtain ⟨r, hr, hfinish⟩ := Option.bind_eq_some_iff.mp h
    have hstart : (Mode.elementName []).HasRead [] := ⟨[], rfl, .nil⟩
    have hread : r.mode.HasRead ([] ++ cs) :=
      foldlM_invariant (fun read (r : Reader) => r.mode.HasRead read)
        (fun _ _ _ _ => Reader.hasRead_step) hstart hr
    exact Reader.referenced_of_finish hread hfinish

end Tag

end DmarcReports.Xml
