import DmarcReports.Proofs.Xml.Reading

/-!
Declarations as they are written.

A declaration gives a version and may give an encoding and whether the document stands alone, each
behind some space. Main statement: `skip?_write`.
-/

set_option autoImplicit false
set_option relaxedAutoImplicit false

namespace DmarcReports.Xml.Declaration

/-- How a setting is written: the space before its name and around the equals sign, and the value
between quotes. -/
structure Setting where
  gap : List Char
  beforeEquals : List Char
  afterEquals : List Char
  quote : Char
  value : List Char

namespace Setting

def body (name : String) (t : Setting) : List Char :=
  name.toList ++ (t.beforeEquals ++ '=' :: (t.afterEquals ++ t.quote :: (t.value ++ [t.quote])))

def write (name : String) (t : Setting) : List Char :=
  t.gap ++ t.body name

def writeOptional (name : String) : Option Setting → List Char
  | some t => t.write name
  | none => []

@[simp] theorem writeOptional_some (name : String) (t : Setting) :
    writeOptional name (some t) = t.write name :=
  rfl

@[simp] theorem writeOptional_none (name : String) : writeOptional name none = [] :=
  rfl

/-- What the standard asks of a setting. Of values it asks more: the number of a version, the name of
an encoding and the words of a choice are free of all markup. -/
structure WellFormed (t : Setting) : Prop where
  gap_ne_nil : t.gap ≠ []
  gap_space : ∀ c ∈ t.gap, isSpace c = true
  before_space : ∀ c ∈ t.beforeEquals, isSpace c = true
  after_space : ∀ c ∈ t.afterEquals, isSpace c = true
  quote_mark : t.quote = '"' ∨ t.quote = '\''
  value_plain : ∀ c ∈ t.value, isLegal c = true ∧ c ≠ t.quote ∧ c ≠ '<' ∧ c ≠ '?'

end Setting

structure Written where
  version : Setting
  encoding : Option Setting := none
  standalone : Option Setting := none
  /-- The space before its end. -/
  trailing : List Char := []

namespace Written

def content (d : Written) : List Char :=
  d.version.write "version" ++ (Setting.writeOptional "encoding" d.encoding ++
    (Setting.writeOptional "standalone" d.standalone ++ d.trailing))

def write (d : Written) : List Char :=
  "<?xml".toList ++ (d.content ++ "?>".toList)

structure WellFormed (d : Written) : Prop where
  version : d.version.WellFormed
  encoding : ∀ t ∈ d.encoding, t.WellFormed
  standalone : ∀ t ∈ d.standalone, t.WellFormed
  trailing : ∀ c ∈ d.trailing, isSpace c = true

end Written

private theorem behind?_append (start : String) (cs : List Char) :
    behind? start (start.toList ++ cs) = some cs := by
  have hprefix : start.toList.isPrefixOf (start.toList ++ cs) = true :=
    List.isPrefixOf_iff_prefix.mpr (List.prefix_append _ _)
  rw [behind?, if_pos hprefix, List.drop_left]

private theorem skipSpaces_append {gap cs : List Char} (hgap : ∀ c ∈ gap, isSpace c = true)
    (hcs : ∀ c ∈ cs.head?, isSpace c = false) : skipSpaces (gap ++ cs) = cs := by
  rw [skipSpaces, List.dropWhile_append_of_pos hgap]
  cases cs with
  | nil => rfl
  | cons c cs => exact List.dropWhile_cons_of_neg (by simp [hcs c rfl])

private theorem head?_append_cons {gap cs : List Char} {c : Char} {P : Char → Prop}
    (hgap : ∀ d ∈ gap, P d) (hc : P c) : ∀ d ∈ (gap ++ c :: cs).head?, P d := by
  cases gap with
  | nil => exact forall_mem_head?_cons P hc cs
  | cons e gap => exact forall_mem_head?_cons P (hgap e List.mem_cons_self) (gap ++ c :: cs)

private theorem behindSetting?_body {t : Setting} (h : t.WellFormed) {name : String}
    (hname : isNamePart name.toList = true) (cs : List Char) :
    behindSetting? (t.body name ++ cs) = some cs := by
  have hnameChars : ∀ c ∈ name.toList, isNameChar c = true :=
    fun c hc => (isNameChar_of_isNamePart hname hc).1
  have hquote : isSpace t.quote = false := by rcases h.quote_mark with hq | hq <;> rw [hq] <;> rfl
  have hvalue : ∀ c ∈ t.value, (c ≠ t.quote && c ≠ '<') = true := by
    intro c hc
    obtain ⟨-, hq, hopen, -⟩ := h.value_plain c hc
    simp [hq, hopen]
  have hlegal : t.value.all isLegal = true :=
    List.all_eq_true.mpr fun c hc => (h.value_plain c hc).1
  have htext : t.body name ++ cs = name.toList ++ (t.beforeEquals ++
      '=' :: (t.afterEquals ++ t.quote :: (t.value ++ t.quote :: cs))) := by
    simp [Setting.body]
  have hnameEnd : ∀ c ∈ (t.beforeEquals ++
      '=' :: (t.afterEquals ++ t.quote :: (t.value ++ t.quote :: cs))).head?,
      isNameChar c = false :=
    head?_append_cons (fun c hc => isNameChar_of_isSpace (h.before_space c hc)) rfl
  have hequals : behind? "=" ('=' :: (t.afterEquals ++ t.quote :: (t.value ++ t.quote :: cs))) =
      some (t.afterEquals ++ t.quote :: (t.value ++ t.quote :: cs)) :=
    behind?_append "=" _
  have hend : behind? (String.singleton t.quote) (t.quote :: cs) = some cs := by
    rcases h.quote_mark with hq | hq
    · rw [hq]
      exact behind?_append "\"" cs
    · rw [hq]
      exact behind?_append "'" cs
  have hmark : ¬(t.quote ≠ '"' ∧ t.quote ≠ '\'') := by
    rcases h.quote_mark with hq | hq <;> simp [hq]
  rw [behindSetting?, htext, span_append hnameChars hnameEnd]
  simp only [Name.ofChars?_toList hname, Option.bind_eq_bind, Option.bind_some]
  rw [skipSpaces_append h.before_space (by simp [isSpace]), hequals, Option.bind_some,
    skipSpaces_append h.after_space (by simp [hquote])]
  simp only [if_neg hmark]
  rw [span_append hvalue (by simp)]
  simp only [hlegal, if_true]
  exact hend

private theorem behindGap?_append {gap cs : List Char} (hgap : ∀ c ∈ gap, isSpace c = true)
    (hcs : ∀ c ∈ cs.head?, isSpace c = false) (hend : gap = [] → "?>".toList.isPrefixOf cs = true) :
    behindGap? (gap ++ cs) = some cs := by
  have hskip : skipSpaces (gap ++ cs) = cs := skipSpaces_append hgap hcs
  cases hg : gap with
  | nil =>
    have hprefix := hend hg
    cases cs with
    | nil => cases hprefix
    | cons c cs =>
      rw [hg, List.nil_append] at hskip
      rw [List.nil_append, behindGap?, hprefix, Bool.or_true, if_pos rfl, hskip]
  | cons c gap' =>
    have hc : isSpace c = true := hgap c (hg ▸ List.mem_cons_self)
    rw [hg] at hskip
    rw [List.cons_append] at hskip ⊢
    rw [behindGap?, hc, Bool.true_or, if_pos rfl, hskip]

private theorem isSpace_head?_body (t : Setting) {name : String}
    (hname : isNamePart name.toList = true) (cs : List Char) :
    ∀ c ∈ (t.body name ++ cs).head?, isSpace c = false := by
  rw [Setting.body]
  cases hlist : name.toList with
  | nil =>
    rw [hlist] at hname
    cases hname
  | cons d ds =>
    have hd : isNameChar d = true :=
      (isNameChar_of_isNamePart hname (hlist ▸ List.mem_cons_self)).1
    have hspace : isSpace d = false := by
      by_contra hspace
      rw [isNameChar_of_isSpace (eq_true_of_ne_false hspace)] at hd
      cases hd
    exact forall_mem_head?_cons (isSpace · = false) hspace _

private theorem behindGap?_write {t : Setting} (h : t.WellFormed) {name : String}
    (hname : isNamePart name.toList = true) (cs : List Char) :
    behindGap? (t.write name ++ cs) = some (t.body name ++ cs) := by
  rw [Setting.write, List.append_assoc]
  exact behindGap?_append h.gap_space (isSpace_head?_body t hname cs)
    fun hnil => absurd hnil h.gap_ne_nil

section Tail

variable (trailing rest : List Char)

/-- What is left of a declaration and the document behind the space before the third setting, or
before the end where there is none. -/
def tail : Option Setting → List Char
  | some t => t.body "standalone" ++ (trailing ++ ("?>".toList ++ rest))
  | none => "?>".toList ++ rest

private theorem isSpace_head?_end : ∀ c ∈ ("?>".toList ++ rest).head?, isSpace c = false :=
  forall_mem_head?_cons (isSpace · = false) rfl _

variable {trailing} in
private theorem behindGap?_tail (htrailing : ∀ c ∈ trailing, isSpace c = true) {o : Option Setting}
    (ho : ∀ t ∈ o, t.WellFormed) :
    behindGap? (Setting.writeOptional "standalone" o ++ (trailing ++ ("?>".toList ++ rest))) =
      some (tail trailing rest o) := by
  cases o with
  | none => exact behindGap?_append htrailing (isSpace_head?_end rest) fun _ => rfl
  | some t => exact behindGap?_write (ho t rfl) rfl _

variable {trailing} in
private theorem behindOptional?_tail (htrailing : ∀ c ∈ trailing, isSpace c = true)
    {o : Option Setting} (ho : ∀ t ∈ o, t.WellFormed) :
    (behindOptional? "standalone" (tail trailing rest o)).bind
      (fun cs => behind? "?>" (skipSpaces cs)) = some rest := by
  have hend : skipSpaces ("?>".toList ++ rest) = "?>".toList ++ rest :=
    List.dropWhile_cons_of_neg Bool.false_ne_true
  cases o with
  | none =>
    have hno : "standalone".toList.isPrefixOf (tail trailing rest none) = false := rfl
    rw [behindOptional?, hno, if_neg Bool.false_ne_true, Option.bind_some, tail, hend,
      behind?_append]
  | some t =>
    have hyes : "standalone".toList.isPrefixOf (tail trailing rest (some t)) = true := rfl
    rw [behindOptional?, hyes, if_pos rfl, tail, behindSetting?_body (ho t rfl) rfl,
      Option.bind_some, skipSpaces_append htrailing (isSpace_head?_end rest), behind?_append]

private theorem isPrefixOf_encoding_tail (o : Option Setting) :
    "encoding".toList.isPrefixOf (tail trailing rest o) = false := by
  cases o <;> rfl

end Tail

theorem skip?_write {d : Written} (h : d.WellFormed) (hblank : d.version.gap.head? = some ' ')
    (rest : List Char) : skip? (d.write ++ rest) = some rest := by
  obtain ⟨gap, hgap⟩ : ∃ gap, d.version.gap = ' ' :: gap := by
    cases hcases : d.version.gap with
    | nil => simp [hcases] at hblank
    | cons c gap => exact ⟨gap, by simpa [hcases] using hblank⟩
  have hspace : ∀ c ∈ gap, isSpace c = true :=
    fun c hc => h.version.gap_space c (hgap ▸ List.mem_cons_of_mem ' ' hc)
  let behindVersion := Setting.writeOptional "encoding" d.encoding ++
    (Setting.writeOptional "standalone" d.standalone ++ (d.trailing ++ ("?>".toList ++ rest)))
  have htext : d.write ++ rest =
      "<?xml ".toList ++ (gap ++ (d.version.body "version" ++ behindVersion)) := by
    simp [Written.write, Written.content, Setting.write, hgap, behindVersion]
  have hname : behind? "version" (d.version.body "version" ++ behindVersion) = some
      (d.version.beforeEquals ++ '=' :: (d.version.afterEquals ++
        d.version.quote :: (d.version.value ++ d.version.quote :: behindVersion))) := by
    rw [Setting.body, List.append_assoc, behind?_append]
    simp
  have hhead : ∀ c ∈ (d.version.body "version" ++ behindVersion).head?, isSpace c = false :=
    isSpace_head?_body d.version rfl behindVersion
  have hversion : behindSetting? (d.version.body "version" ++ behindVersion) = some behindVersion :=
    behindSetting?_body h.version rfl behindVersion
  have htail := behindGap?_tail rest h.trailing h.standalone
  have hlast := behindOptional?_tail rest h.trailing h.standalone
  have hother := isPrefixOf_encoding_tail d.trailing rest d.standalone
  rw [skip?, htext, behind?_append]
  simp only [skipSpaces_append hspace hhead, hname, hversion, Option.bind_eq_bind,
    Option.bind_some, behindVersion]
  cases hencoding : d.encoding with
  | none =>
    simp only [Setting.writeOptional_none, List.nil_append, htail, Option.bind_some, hother,
      Bool.false_eq_true, if_false]
    exact hlast
  | some t =>
    have ht : t.WellFormed := h.encoding t hencoding
    have hyes (cs : List Char) : "encoding".toList.isPrefixOf (t.body "encoding" ++ cs) = true := rfl
    have hgap (cs : List Char) :
        behindGap? (t.write "encoding" ++ cs) = some (t.body "encoding" ++ cs) :=
      behindGap?_write ht rfl cs
    have hbody (cs : List Char) : behindSetting? (t.body "encoding" ++ cs) = some cs :=
      behindSetting?_body ht rfl cs
    simp only [Setting.writeOptional_some, hgap, Option.bind_some, hyes, if_true, hbody, htail]
    exact hlast

end DmarcReports.Xml.Declaration
