import DmarcReports.Proofs.Extraction.Success
import DmarcReports.Proofs.Settings.Check

/-!
Tighter ceilings.

Every check against a ceiling comes before what it protects, so a tighter ceiling can only put a
security rejection in the place of a result.
-/

set_option autoImplicit false
set_option relaxedAutoImplicit false

namespace DmarcReports

namespace Extraction

/-- How a result may differ from the one under looser ceilings: not at all, unless it is a security
rejection. -/
def OnlyTightens (tight loose : Except Rejection ByteArray) : Prop :=
  (∃ e, tight = .error e ∧ e.category = .security) ∨ tight = loose

theorem OnlyTightens.refl (result : Except Rejection ByteArray) : OnlyTightens result result :=
  Or.inr rfl

private theorem OnlyTightens.of_security {e : Rejection} (he : e.category = .security)
    (loose : Except Rejection ByteArray) : OnlyTightens (.error e) loose :=
  Or.inl ⟨e, rfl, he⟩

private theorem OnlyTightens.guarded {strict lax : Prop} [Decidable strict] [Decidable lax]
    {e e' : Rejection} {tight loose : Except Rejection ByteArray} (hlax : lax → strict)
    (he : e.category = .security) (h : OnlyTightens tight loose) :
    OnlyTightens (if strict then .error e else tight) (if lax then .error e' else loose) := by
  by_cases hs : strict
  · rw [if_pos hs]
    exact .of_security he _
  · rw [if_neg hs, if_neg fun hl => hs (hlax hl)]
    exact h

private theorem readAll_tighter {limit limit' : UInt64} (h : limit ≤ limit')
    (announced announced' : UInt64) (failure : Rejection) (feed : Feed) :
    OnlyTightens (readAll limit announced failure feed)
      (readAll limit' announced' failure feed) := by
  rw [readAll_eq, readAll_eq]
  refine .guarded ?_ rfl (.refl _)
  intro hlax
  exact Nat.lt_of_le_of_lt (UInt64.le_iff_toNat_le.mp h) hlax

private theorem fromEntries_tighter {l m : Limits} (h : l.Tighter m) (entries : List Zip.Entry) :
    OnlyTightens (fromEntries l entries) (fromEntries m entries) := by
  obtain ⟨-, hsize, hcount⟩ := h
  unfold fromEntries
  refine .guarded (fun hlax => Nat.lt_of_le_of_lt (UInt64.le_iff_toNat_le.mp hcount) hlax) rfl ?_
  split
  · exact .refl _
  refine .guarded (fun hlax => UInt64.lt_of_le_of_lt hsize hlax) rfl ?_
  split
  · exact .refl _
  refine .guarded (fun hlax => UInt64.lt_of_le_of_lt hsize hlax) rfl ?_
  split
  · exact .refl _
  · exact readAll_tighter hsize _ _ _ _

private theorem unpack_tighter {l m : Limits} (h : l.Tighter m) (bytes : ByteArray)
    (format : Format) :
    OnlyTightens (unpack l bytes format) (unpack m bytes format) := by
  cases format with
  | xml => exact .refl _
  | zip =>
    simp only [unpack, unzip]
    split
    · exact .refl _
    · exact fromEntries_tighter h _
  | gzip =>
    simp only [unpack, gunzip]
    split
    · exact readAll_tighter h.2.1 _ _ _ _
    · exact .refl _

/-- Under tighter ceilings an upload is rejected for security, or it comes to the same. -/
private theorem extract_tighter {l m : Limits} (h : l.Tighter m) (bytes : ByteArray)
    (fileName : String) :
    OnlyTightens (extract l bytes fileName) (extract m bytes fileName) := by
  unfold extract
  refine .guarded (fun hlax => Nat.lt_of_le_of_lt (UInt64.le_iff_toNat_le.mp h.1) hlax) rfl ?_
  split
  · exact .refl _
  · rename_i format _
    rcases unpack_tighter h bytes format with ⟨e, he, hsecurity⟩ | heq
    · rw [he]
      exact .of_security hsecurity _
    · rw [heq]
      exact .refl _

/-- Tighter ceilings add nothing but security rejections. So what passes under settings that were
checked passes under the standard ceilings, with the same content. -/
theorem tighter_adds_only_security (bytes : ByteArray) (fileName : String) :
    (∀ l m : Limits, l.Tighter m →
      (∃ e, extract l bytes fileName = .error e ∧ e.category = .security) ∨
        extract l bytes fileName = extract m bytes fileName) ∧
    ∀ s : Settings, s.check = .ok () → ∀ xml, extract s.limits bytes fileName = .ok xml →
      extract Limits.standard bytes fileName = .ok xml := by
  refine ⟨fun l m h => extract_tighter h bytes fileName, ?_⟩
  intro s hcheck xml hxml
  have htighter := ((Settings.check_eq_ok_iff s).mp hcheck).2.1
  rcases extract_tighter htighter bytes fileName with ⟨e, he, -⟩ | heq
  · rw [hxml] at he
    cases he
  · rw [← heq, hxml]

/-- With a ceiling of three bytes an upload of four is oversized; with one of four it passes, as it
does under the standard ceilings. -/
theorem tighter_adds_only_security_four_bytes :
    Limits.Tighter { maxFileSize := 3 } { maxFileSize := 4 } ∧
    extract { maxFileSize := 3 } "<a/>".toUTF8 "r.xml" = .error (.oversized 4 3) ∧
    (Settings.check { limits := { maxFileSize := 4 } } = .ok () ∧
      extract Limits.standard "<a/>".toUTF8 "r.xml" = .ok "<a/>".toUTF8) ∧
    ((∃ e, extract { maxFileSize := 3 } "<a/>".toUTF8 "r.xml" = .error e ∧
        e.category = .security) ∨
      extract { maxFileSize := 3 } "<a/>".toUTF8 "r.xml" =
        extract { maxFileSize := 4 } "<a/>".toUTF8 "r.xml") := by
  have htighter : Limits.Tighter { maxFileSize := 3 } { maxFileSize := 4 } :=
    ⟨by decide, by decide, by decide⟩
  have hcheck : Settings.check { limits := { maxFileSize := 4 } } = .ok () := by rfl
  have hpass : extract { maxFileSize := 4 } "<a/>".toUTF8 "r.xml" = .ok "<a/>".toUTF8 := by rfl
  have h := tighter_adds_only_security "<a/>".toUTF8 "r.xml"
  exact ⟨htighter, by rfl, ⟨hcheck, h.2 _ hcheck _ hpass⟩, h.1 _ _ htighter⟩

end Extraction

end DmarcReports
