import DmarcReports.Extraction
import DmarcReports.Proofs.Bytes.BoundedRead
import DmarcReports.Proofs.Stages

/-!
When extraction succeeds, function by function.
-/

set_option autoImplicit false
set_option relaxedAutoImplicit false

namespace DmarcReports.Extraction

theorem readAll_eq (limit announced : UInt64) (failure : Rejection) (feed : Feed) :
    readAll limit announced failure feed =
      if limit.toNat < feed.content.size then .error (.archiveBomb limit)
      else if feed.endsWell then .ok feed.content
      else .error failure := by
  unfold readAll
  by_cases h : limit.toNat < feed.content.size
  · obtain ⟨produced, hread, -⟩ := BoundedRead.read_eq_of_lt announced.toNat h
    rw [hread, if_pos h]
  · rw [BoundedRead.read_eq_of_le announced.toNat (Nat.le_of_not_lt h), if_neg h]
    rw [← feed.isNone_error?]
    cases feed.error? <;> rfl

private theorem readAll_eq_ok_iff {limit announced : UInt64} {failure : Rejection} {feed : Feed}
    {xml : ByteArray} :
    readAll limit announced failure feed = .ok xml ↔
      feed.content.size ≤ limit.toNat ∧ feed.endsWell = true ∧ feed.content = xml := by
  rw [readAll_eq]
  split
  · rename_i hlimit
    simp only [reduceCtorEq, false_iff, not_and]
    intro hle
    omega
  · rename_i hlimit
    split
    · rename_i hends
      simp only [Except.ok.injEq]
      exact ⟨fun heq => ⟨Nat.le_of_not_lt hlimit, hends, heq⟩, fun h => h.2.2⟩
    · rename_i hends
      simp [hends]

theorem gunzip_eq_ok_iff {limits : Limits} {bytes xml : ByteArray} :
    gunzip limits bytes = .ok xml ↔
      Gzip.hasMagic bytes = true ∧
        (Gzip.feed bytes).content.size ≤ limits.maxUncompressedSize.toNat ∧
        (Gzip.feed bytes).endsWell = true ∧ (Gzip.feed bytes).content = xml := by
  unfold gunzip
  split
  · rename_i hmagic
    rw [readAll_eq_ok_iff]
    simp [hmagic]
  · rename_i hmagic
    simp [hmagic]

theorem of_fromEntries_eq_ok {limits : Limits} {entries : List Zip.Entry} {xml : ByteArray}
    (h : fromEntries limits entries = .ok xml) :
    ∃ entry feed, entries.find? isReport = some entry ∧ entry.content () = some feed ∧
      feed.content.size ≤ limits.maxUncompressedSize.toNat ∧ feed.endsWell = true ∧
      feed.content = xml := by
  unfold fromEntries at h
  dsimp only at h
  split at h
  · cases h
  split at h
  · cases h
  split at h
  · cases h
  split at h
  · cases h
  · rename_i entry hentry
    split at h
    · cases h
    split at h
    · cases h
    · rename_i feed hfeed
      exact ⟨entry, feed, hentry, hfeed, readAll_eq_ok_iff.mp h⟩

theorem extract_eq_ok_iff {limits : Limits} {bytes xml : ByteArray} {fileName : String} :
    extract limits bytes fileName = .ok xml ↔
      bytes.size ≤ limits.maxFileSize.toNat ∧
        (∃ format, Format.ofFileName? fileName = some format ∧
          unpack limits bytes format = .ok xml) ∧
        0 < xml.size := by
  unfold extract
  by_cases hsize : limits.maxFileSize.toNat < bytes.size
  · simp only [if_pos hsize, reduceCtorEq, false_iff]
    omega
  · rw [if_neg hsize]
    cases Format.ofFileName? fileName with
    | none => simp
    | some format =>
      cases hunpack : unpack limits bytes format with
      | error e => simp [hunpack]
      | ok content =>
        simp only [Option.some.injEq, exists_eq_left', hunpack, Except.ok.injEq]
        split
        · rename_i hempty
          simp only [reduceCtorEq, false_iff]
          rintro ⟨-, rfl, hpos⟩
          omega
        · rename_i hfull
          simp only [Except.ok.injEq]
          constructor
          · rintro rfl
            exact ⟨Nat.le_of_not_lt hsize, rfl, Nat.pos_of_ne_zero hfull⟩
          · exact fun h => h.2.1

end DmarcReports.Extraction
