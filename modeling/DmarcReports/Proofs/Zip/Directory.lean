import Mathlib.Data.List.Dedup
import Mathlib.Data.List.Induction
import DmarcReports.Zip.Archive

/-!
What the directory of an archive can say, and what is left of it where names are repeated.

Every header takes up some of the file, and the sizes that it states fit into a word. Of headers
with one name the archive shows the last one alone.
-/

set_option autoImplicit false
set_option relaxedAutoImplicit false

namespace DmarcReports

namespace LittleEndian

private theorem ofBytes_lt (bs : List UInt8) : ofBytes bs < Nat.pow 256 bs.length := by
  induction bs with
  | nil => decide
  | cons b bs ih =>
    have hb := b.toNat_lt
    show b.toNat + 256 * ofBytes bs < Nat.pow 256 bs.length * 256
    omega

private theorem number?_lt {b : ByteArray} {start size n : Nat}
    (h : number? b start size = some n) :
    n < Nat.pow 256 size := by
  induction size generalizing start n with
  | zero =>
    cases h
    decide
  | succ size ih =>
    rw [number?] at h
    split at h
    · cases h
    · rename_i low _
      obtain ⟨high, hhigh, rfl⟩ := Option.map_eq_some_iff.mp h
      have hlow := low.toNat_lt
      have hlt := ih hhigh
      show low.toNat + 256 * high < Nat.pow 256 size * 256
      omega

end LittleEndian

namespace Zip

def Header.SizeFits (h : Header) : Prop := h.size < UInt64.size

namespace Extra

def Outcome.SizeFits : Outcome → Prop
  | read h _ | cutShort h => h.SizeFits
  | damaged => True

variable {h : Header}

private theorem sizeFits_skip (hfits : h.SizeFits) (size : Nat) (bs : List UInt8) :
    (skip h size bs).SizeFits := by
  unfold skip
  split <;> exact hfits

private theorem number?_lt {size n : Nat} {bs rest : List UInt8}
    (hn : number? size bs = some (n, rest)) :
    n < Nat.pow 256 size := by
  unfold number? at hn
  split at hn
  · rename_i hlength
    obtain ⟨rfl, -⟩ := Prod.mk.inj (Option.some.inj hn)
    have hlt := LittleEndian.ofBytes_lt (bs.take size)
    rwa [List.length_take, Nat.min_eq_left hlength] at hlt
  · cases hn

private theorem sizeFits_takeLarge (length : Nat)
    (sizes : List ((Header → Nat) × (Header → Nat → Header)))
    (hset : ∀ s ∈ sizes, ∀ (h : Header) (n : Nat), h.SizeFits → n < UInt64.size →
      (s.2 h n).SizeFits)
    (hfits : h.SizeFits) (used : Nat) (bs : List UInt8) :
    (takeLarge length sizes h used bs).SizeFits := by
  induction sizes generalizing h used bs with
  | nil =>
    unfold takeLarge
    split
    · trivial
    · exact sizeFits_skip hfits _ _
  | cons s sizes ih =>
    obtain ⟨get, set⟩ := s
    have htail := fun s hs => hset s (List.mem_cons_of_mem _ hs)
    unfold takeLarge
    split
    · split
      · exact hfits
      · rename_i n rest hn
        have hword : n < UInt64.size := number?_lt hn
        exact ih htail (hset _ List.mem_cons_self h n hfits hword) _ _
    · exact ih htail hfits _ _

private theorem sizeFits_largeSizes :
    ∀ s ∈ largeSizes, ∀ (h : Header) (n : Nat), h.SizeFits → n < UInt64.size →
      (s.2 h n).SizeFits := by
  intro s hs h n hfits hn
  simp only [largeSizes, List.mem_cons, List.not_mem_nil, or_false] at hs
  rcases hs with rfl | rfl | rfl
  · exact hn
  · exact hfits
  · exact hfits

private theorem sizeFits_fileTimes (hfits : h.SizeFits) (length : Nat) (bs : List UInt8) :
    (fileTimes h length bs).SizeFits := by
  unfold fileTimes
  split
  · trivial
  split
  · exact hfits
  split
  · exact hfits
  split
  · trivial
  split
  · exact hfits
  split
  · trivial
  · exact sizeFits_skip hfits _ _

private theorem sizeFits_unixTimes (hfits : h.SizeFits) (length : Nat) (bs : List UInt8) :
    (unixTimes h length bs).SizeFits := by
  unfold unixTimes
  split
  · exact hfits
  dsimp only
  split
  · trivial
  · exact sizeFits_skip hfits _ _

private theorem sizeFits_replacement (hfits : h.SizeFits) (length : Nat) (stored : List UInt8)
    {set : List UInt8 → String → Header} (hset : ∀ raw s, (set raw s).SizeFits)
    (bs : List UInt8) : (replacement h length stored set bs).SizeFits := by
  unfold replacement
  split
  · exact hfits
  split
  · trivial
  split
  · exact hfits
  dsimp only
  split
  · split
    · exact hset _ _
    · trivial
  · trivial

private theorem sizeFits_aes (hfits : h.SizeFits) (length : Nat) (bs : List UInt8) :
    (aes h length bs).SizeFits := by
  unfold aes
  split
  · trivial
  split
  · exact hfits
  dsimp only
  split
  · exact hfits
  · trivial

private theorem sizeFits_field (hfits : h.SizeFits) (bs : List UInt8) : (field h bs).SizeFits := by
  unfold field
  split
  · exact hfits
  dsimp only
  split
  · exact sizeFits_takeLarge _ _ sizeFits_largeSizes hfits _ _
  · exact sizeFits_fileTimes hfits _ _
  · exact sizeFits_unixTimes hfits _ _
  · apply sizeFits_replacement hfits
    exact fun _ _ => hfits
  · apply sizeFits_replacement hfits
    exact fun _ _ => hfits
  · exact sizeFits_aes hfits _ _
  · exact sizeFits_skip hfits _ _

private theorem sizeFits_fields {rounds : Nat} {bs : List UInt8} {h' : Header} (hfits : h.SizeFits)
    (hread : fields rounds h bs = some h') : h'.SizeFits := by
  fun_induction fields rounds h bs with
  | case1 h =>
    cases hread
    exact hfits
  | case2 h =>
    cases hread
    exact hfits
  | case3 rounds h bs _ next rest hfield ih =>
    have hnext := sizeFits_field hfits bs
    rw [hfield] at hnext
    exact ih hnext hread
  | case4 rounds h bs _ next hfield =>
    have hnext := sizeFits_field hfits bs
    rw [hfield] at hnext
    cases hread
    exact hnext
  | case5 => cases hread

end Extra

/-- The bytes of a header in front of its name. -/
def Header.fixedSize : Nat := 46

variable {b : ByteArray}

private theorem Header.of_read? {shift position behind : Nat} {h : Header}
    (hread : Header.read? b shift position = some (h, behind)) :
    h.SizeFits ∧ position + fixedSize ≤ behind ∧ behind ≤ b.size := by
  -- One field at a time; the statement about all of them together is too large for `simp`.
  obtain ⟨_, -, hread⟩ := Option.bind_eq_some_iff.mp hread
  obtain ⟨_, -, hread⟩ := Option.bind_eq_some_iff.mp hread
  obtain ⟨flags, -, hread⟩ := Option.bind_eq_some_iff.mp hread
  obtain ⟨method, -, hread⟩ := Option.bind_eq_some_iff.mp hread
  obtain ⟨crc, -, hread⟩ := Option.bind_eq_some_iff.mp hread
  obtain ⟨compressedSize, -, hread⟩ := Option.bind_eq_some_iff.mp hread
  obtain ⟨size, hsize, hread⟩ := Option.bind_eq_some_iff.mp hread
  obtain ⟨nameLength, -, hread⟩ := Option.bind_eq_some_iff.mp hread
  obtain ⟨extraLength, -, hread⟩ := Option.bind_eq_some_iff.mp hread
  obtain ⟨commentLength, -, hread⟩ := Option.bind_eq_some_iff.mp hread
  obtain ⟨start, -, hread⟩ := Option.bind_eq_some_iff.mp hread
  obtain ⟨name, -, hread⟩ := Option.bind_eq_some_iff.mp hread
  obtain ⟨extra, -, hread⟩ := Option.bind_eq_some_iff.mp hread
  obtain ⟨comment, hcomment, hread⟩ := Option.bind_eq_some_iff.mp hread
  obtain ⟨h', hfields, hread⟩ := Option.bind_eq_some_iff.mp hread
  obtain ⟨_, -, hread⟩ := Option.bind_eq_some_iff.mp hread
  obtain ⟨_, -, hread⟩ := Option.bind_eq_some_iff.mp hread
  obtain ⟨rfl, rfl⟩ := Prod.mk.inj (Option.some.inj hread)
  have hword : size < UInt64.size := by
    have hlt : size < 0x100000000 := LittleEndian.number?_lt hsize
    simp only [UInt64.size]
    omega
  have hfits : h'.SizeFits := by
    refine Extra.sizeFits_fields ?_ hfields
    exact hword
  have hwithin : position + 46 + nameLength + extraLength + commentLength ≤ b.size := by
    unfold LittleEndian.range? at hcomment
    split at hcomment
    · assumption
    · cases hcomment
  refine ⟨hfits, ?_, hwithin⟩
  simp only [fixedSize]
  omega

/-- That headers are what a directory can list in a file of this size. -/
structure Listable (size : Nat) (hs : List Header) : Prop where
  sizeFits : ∀ h ∈ hs, h.SizeFits
  length_le : Header.fixedSize * hs.length ≤ size

private theorem headersFrom?_eq_append {shift count position : Nat} {found hs : List Header}
    (hread : headersFrom? b shift count position found = some hs) :
    ∃ listed, hs = found.reverse ++ listed ∧ (∀ h ∈ listed, h.SizeFits) ∧
      (listed ≠ [] → position + Header.fixedSize * listed.length ≤ b.size) := by
  induction count generalizing position found with
  | zero =>
    cases hread
    exact ⟨[], (List.append_nil _).symm, nofun, fun h => absurd rfl h⟩
  | succ count ih =>
    rw [headersFrom?] at hread
    split at hread
    · cases hread
    · rename_i h behind hheader
      obtain ⟨hfits, hstep, hwithin⟩ := Header.of_read? hheader
      obtain ⟨listed, rfl, hsizes, hbound⟩ := ih hread
      refine ⟨h :: listed, by simp, ?_, ?_⟩
      · exact List.forall_mem_cons.mpr ⟨hfits, hsizes⟩
      · intro _
        rw [List.length_cons, Nat.mul_add]
        -- The last header ends within the file, and every other one in front of the next.
        by_cases hlast : listed = []
        · subst hlast
          simp only [List.length_nil]
          omega
        · have hle := hbound hlast
          omega

private theorem listable_headersFrom? {shift count position : Nat} {hs : List Header}
    (hread : headersFrom? b shift count position [] = some hs) : Listable b.size hs := by
  obtain ⟨listed, heq, hsizes, hbound⟩ := headersFrom?_eq_append hread
  obtain rfl : hs = listed := heq
  refine ⟨hsizes, ?_⟩
  by_cases hempty : hs = []
  · simp [hempty]
  · have hle := hbound hempty
    omega

private theorem listable_headersAt? {position : Nat} {hs : List Header}
    (hread : headersAt? b position = some hs) : Listable b.size hs := by
  obtain ⟨r, -, hread⟩ := Option.bind_eq_some_iff.mp hread
  dsimp only at hread
  -- Whichever record locates the directory, its headers are read in the same way.
  split at hread
  · obtain ⟨l, -, hread⟩ := Option.bind_eq_some_iff.mp hread
    obtain ⟨_, -, hread⟩ := Option.bind_eq_some_iff.mp hread
    exact listable_headersFrom? hread
  · obtain ⟨l, -, hread⟩ := Option.bind_eq_some_iff.mp hread
    obtain ⟨_, -, hread⟩ := Option.bind_eq_some_iff.mp hread
    exact listable_headersFrom? hread

theorem listable_headers? {hs : List Header} (hread : headers? b = some hs) :
    Listable b.size hs := by
  have hbelow (position : Nat) (hread : headersBelow? b position = some hs) :
      Listable b.size hs := by
    induction position with
    | zero => cases hread
    | succ position ih =>
      rw [headersBelow?] at hread
      split at hread
      · rename_i hs' hat
        cases hread
        exact listable_headersAt? hat
      · exact ih hread
  exact hbelow b.size hread

/-! ### Repeated names -/

def lastListed (hs : List Header) : List Header :=
  hs.pwFilter fun x y => x.name ≠ y.name

def IsLast (hs : List Header) (h : Header) : Prop :=
  ∃ before after, hs = before ++ h :: after ∧ ∀ x ∈ after, h.name ≠ x.name

variable {h k : Header} {hs : List Header}

private theorem isLast_concat_iff :
    IsLast (hs ++ [k]) h ↔ h = k ∨ IsLast hs h ∧ h.name ≠ k.name := by
  constructor
  · rintro ⟨before, after, heq, hafter⟩
    rcases List.eq_nil_or_concat after with rfl | ⟨after, k', rfl⟩
    · obtain ⟨-, hlast⟩ := List.append_inj' heq rfl
      exact .inl (List.singleton_inj.mp hlast).symm
    · rw [List.concat_eq_append, ← List.cons_append, ← List.append_assoc] at heq
      obtain ⟨rfl, hlast⟩ := List.append_inj' heq rfl
      obtain rfl := List.singleton_inj.mp hlast
      rw [List.concat_eq_append] at hafter
      have hname : h.name ≠ k.name := hafter k (by simp)
      exact .inr ⟨⟨before, after, rfl, fun x hx => hafter x (by simp [hx])⟩, hname⟩
  · rintro (rfl | ⟨⟨before, after, rfl, hafter⟩, hname⟩)
    · exact ⟨hs, [], rfl, nofun⟩
    · refine ⟨before, after ++ [k], by simp, ?_⟩
      exact List.forall_mem_append.mpr ⟨hafter, List.forall_mem_singleton.mpr hname⟩

private theorem isLast_cons_iff :
    IsLast (k :: hs) h ↔ (h = k ∧ ∀ x ∈ hs, k.name ≠ x.name) ∨ IsLast hs h := by
  constructor
  · rintro ⟨before, after, heq, hafter⟩
    cases before with
    | nil =>
      obtain ⟨rfl, rfl⟩ := List.cons.inj heq
      exact .inl ⟨rfl, hafter⟩
    | cons k' before =>
      obtain ⟨-, rfl⟩ := List.cons.inj heq
      exact .inr ⟨before, after, rfl, hafter⟩
  · rintro (⟨rfl, hafter⟩ | ⟨before, after, rfl, hafter⟩)
    · exact ⟨[], hs, rfl, hafter⟩
    · exact ⟨k :: before, after, rfl, hafter⟩

private theorem forall_mem_lastListed_iff :
    (∀ x ∈ lastListed hs, k.name ≠ x.name) ↔ ∀ x ∈ hs, k.name ≠ x.name := by
  have hapart : ∀ {x y z : Header}, x.name ≠ z.name → x.name ≠ y.name ∨ y.name ≠ z.name := by
    intro x y z hxz
    by_contra hboth
    rw [not_or, not_not, not_not] at hboth
    exact hxz (hboth.1.trans hboth.2)
  exact List.forall_mem_pwFilter (R := fun x y : Header => x.name ≠ y.name) hapart k hs

private theorem mem_lastListed_iff : h ∈ lastListed hs ↔ IsLast hs h := by
  induction hs with
  | nil =>
    constructor
    · intro hmem
      cases hmem
    · rintro ⟨before, after, heq, -⟩
      cases before <;> cases heq
  | cons k hs ih =>
    rw [isLast_cons_iff, ← ih]
    by_cases hlast : ∀ x ∈ hs, k.name ≠ x.name
    · have hkept := forall_mem_lastListed_iff.mpr hlast
      have hcons : lastListed (k :: hs) = k :: lastListed hs := List.pwFilter_cons_of_pos hkept
      rw [hcons, List.mem_cons, and_iff_left hlast]
    · have hdropped := mt forall_mem_lastListed_iff.mp hlast
      have hcons : lastListed (k :: hs) = lastListed hs := List.pwFilter_cons_of_neg hdropped
      rw [hcons, or_iff_right fun hfirst => hlast hfirst.2]

private theorem map_name_file :
    (file h hs).map Header.name =
      if h.name ∈ hs.map Header.name then hs.map Header.name
      else hs.map Header.name ++ [h.name] := by
  induction hs with
  | nil => rfl
  | cons k hs ih =>
    rw [file]
    by_cases hname : k.name = h.name
    · simp [hname]
    · rw [if_neg hname, List.map_cons, ih]
      simp only [List.map_cons, List.mem_cons, Ne.symm hname, false_or]
      split <;> rfl

private theorem nodup_names_file (hnodup : (hs.map Header.name).Nodup) :
    ((file h hs).map Header.name).Nodup := by
  rw [map_name_file]
  split
  · exact hnodup
  · rename_i hnew
    exact List.nodup_append.mpr ⟨hnodup, List.nodup_singleton _, by simpa using hnew⟩

private theorem mem_file_iff (hnodup : (hs.map Header.name).Nodup) :
    k ∈ file h hs ↔ k = h ∨ k ∈ hs ∧ k.name ≠ h.name := by
  induction hs with
  | nil => simp [file]
  | cons x hs ih =>
    obtain ⟨hx, hrest⟩ := List.nodup_cons.mp hnodup
    rw [file]
    by_cases hname : x.name = h.name
    · rw [if_pos hname, List.mem_cons]
      -- The name does not come again behind the place of its header.
      have hothers : k ∈ hs → k.name ≠ h.name := by
        intro hk heq
        exact hx (List.mem_map.mpr ⟨k, hk, heq.trans hname.symm⟩)
      grind
    · rw [if_neg hname, List.mem_cons, ih hrest]
      grind

private theorem collapse_concat : collapse (hs ++ [h]) = file h (collapse hs) :=
  List.foldl_concat ..

private theorem nodup_names_collapse (hs : List Header) :
    ((collapse hs).map Header.name).Nodup := by
  induction hs using List.reverseRecOn with
  | nil => exact List.nodup_nil
  | append_singleton hs h ih =>
    rw [collapse_concat]
    exact nodup_names_file ih

private theorem mem_collapse_iff : h ∈ collapse hs ↔ IsLast hs h := by
  induction hs using List.reverseRecOn with
  | nil =>
    constructor
    · intro hmem
      cases hmem
    · rintro ⟨before, after, heq, -⟩
      cases before <;> cases heq
  | append_singleton hs k ih =>
    rw [collapse_concat, mem_file_iff (nodup_names_collapse hs), isLast_concat_iff, ih]

/-- One entry for each name has the last header of the name. -/
theorem collapse_perm_lastListed (hs : List Header) : (collapse hs).Perm (lastListed hs) := by
  have hcollapse : (collapse hs).Nodup := (nodup_names_collapse hs).of_map _
  have hlast : (lastListed hs).Nodup := by
    have hpairwise := List.pairwise_pwFilter (R := fun x y : Header => x.name ≠ y.name) hs
    refine hpairwise.imp ?_
    intro x y hname heq
    exact hname (congrArg Header.name heq)
  rw [List.perm_ext_iff_of_nodup hcollapse hlast]
  intro h
  rw [mem_collapse_iff, mem_lastListed_iff]

theorem lastListed_eq_self (hnodup : (hs.map Header.name).Nodup) : lastListed hs = hs :=
  List.pwFilter_eq_self.mpr (List.pairwise_map.mp hnodup)

/-- An archive has no more entries than the file has room for. -/
theorem length_le_of_entries? {entries : List Entry} (hread : entries? b = some entries) :
    entries.length ≤ b.size := by
  obtain ⟨hs, hlisted, rfl⟩ := Option.map_eq_some_iff.mp hread
  have hroom := (listable_headers? hlisted).length_le
  have hle : (lastListed hs).length ≤ hs.length := (List.pwFilter_sublist hs).length_le
  have hperm := collapse_perm_lastListed hs
  rw [List.length_map, hperm.length_eq]
  simp only [Header.fixedSize] at hroom
  omega

end Zip

end DmarcReports
