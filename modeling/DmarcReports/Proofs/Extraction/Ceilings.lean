import DmarcReports.Proofs.Extraction.Archive
import DmarcReports.Proofs.Zip.Directory

/-!
The ceilings on what the directory of an archive lists.

The number of entries and what they declare are checked on the archive as it is shown, with one
entry for each name. Repeated names can hide others.
-/

set_option autoImplicit false
set_option relaxedAutoImplicit false

namespace DmarcReports.Extraction

open Zip (Header lastListed)

def declaredTotal : List Header → Nat
  | [] => 0
  | h :: hs => h.size + declaredTotal hs

variable {limits : Limits} {bytes xml : ByteArray} {hs : List Header}

private theorem ceilings_of_fromEntries_eq_ok {entries : List Zip.Entry}
    (h : fromEntries limits entries = .ok xml) :
    entries.length ≤ limits.maxFilesInArchive.toNat ∧
      ¬limits.maxUncompressedSize < Count.satSum (entries.map Zip.Entry.size) := by
  unfold fromEntries at h
  dsimp only at h
  split at h
  · cases h
  rename_i hmany
  split at h
  · cases h
  split at h
  · cases h
  rename_i hover
  exact ⟨Nat.le_of_not_lt hmany, hover⟩

private theorem exactSum_sizes (hfits : ∀ h ∈ hs, h.SizeFits) :
    Count.exactSum (hs.map fun h => UInt64.ofNat h.size) = declaredTotal hs := by
  induction hs with
  | nil => rfl
  | cons h hs ih =>
    obtain ⟨hsize, hrest⟩ := List.forall_mem_cons.mp hfits
    have hword : (UInt64.ofNat h.size).toNat = h.size := UInt64.toNat_ofNat_of_lt' hsize
    rw [List.map_cons, Count.exactSum, ih hrest, hword, declaredTotal]

private theorem ceilings_of_unzip_eq_ok (hlisted : Zip.headers? bytes = some hs)
    (h : unzip limits bytes = .ok xml) :
    (lastListed hs).length ≤ limits.maxFilesInArchive.toNat ∧
      (limits.maxUncompressedSize < Count.top →
        declaredTotal (lastListed hs) ≤ limits.maxUncompressedSize.toNat) := by
  have hperm := Zip.collapse_perm_lastListed hs
  have hentries : Zip.entries? bytes =
      some ((Zip.collapse hs).map (Zip.Entry.ofHeader bytes)) := by
    rw [Zip.entries?, hlisted]
    rfl
  rw [unzip, hentries] at h
  obtain ⟨hcount, hdeclared⟩ := ceilings_of_fromEntries_eq_ok h
  rw [List.length_map, hperm.length_eq] at hcount
  refine ⟨hcount, ?_⟩
  intro hlimit
  rw [Count.lt_satSum_iff hlimit, Nat.not_lt, List.map_map] at hdeclared
  -- The entries shown are those of the headers listed last, so their sizes add up to the same.
  have hfits : ∀ h ∈ lastListed hs, h.SizeFits := by
    intro h hmem
    exact (Zip.listable_headers? hlisted).sizeFits h (List.pwFilter_subset hs hmem)
  have hsum : Count.exactSum ((Zip.collapse hs).map fun h => UInt64.ofNat h.size) =
      declaredTotal (lastListed hs) := by
    rw [Count.exactSum_eq_of_perm (hperm.map _), exactSum_sizes hfits]
  rw [← hsum]
  exact hdeclared

/-- An archive with more names than the ceiling on entries is refused, and one in which the headers
listed last under their names declare more than the ceiling on content, be it below the largest word.
Where no name is repeated, these are all headers that are listed. -/
theorem extract_refuses_listed {fileName : String}
    (hzip : Format.ofFileName? fileName = some .zip)
    (hlisted : Zip.headers? bytes = some hs) :
    (limits.maxFilesInArchive.toNat < (lastListed hs).length ∨
        limits.maxUncompressedSize < Count.top ∧
          limits.maxUncompressedSize.toNat < declaredTotal (lastListed hs) →
      ∀ xml, extract limits bytes fileName ≠ .ok xml) ∧
    ((hs.map Header.name).Nodup →
      limits.maxFilesInArchive.toNat < hs.length ∨
        limits.maxUncompressedSize < Count.top ∧
          limits.maxUncompressedSize.toNat < declaredTotal hs →
      ∀ xml, extract limits bytes fileName ≠ .ok xml) := by
  have hrefused (hover : limits.maxFilesInArchive.toNat < (lastListed hs).length ∨
      limits.maxUncompressedSize < Count.top ∧
        limits.maxUncompressedSize.toNat < declaredTotal (lastListed hs))
      (xml : ByteArray) : extract limits bytes fileName ≠ .ok xml := by
    intro hok
    obtain ⟨-, ⟨format, hformat, hunpack⟩, -⟩ := extract_eq_ok_iff.mp hok
    obtain rfl := Option.some.inj (hzip.symm.trans hformat)
    obtain ⟨hcount, hdeclared⟩ := ceilings_of_unzip_eq_ok hlisted hunpack
    rcases hover with hmany | ⟨hlimit, hlarge⟩
    · omega
    · have hle := hdeclared hlimit
      omega
  refine ⟨hrefused, ?_⟩
  intro hnodup hover
  rw [← Zip.lastListed_eq_self hnodup] at hover
  exact hrefused hover

/-- An archive of two headers for one file of four bytes. The first header states 200 MiB under the
name that starts with the given byte; the second one states the four bytes, under the name `a.xml`. -/
def twoListed (initial : UInt8) : ByteArray := ⟨#[
  0x50, 0x4B, 0x03, 0x04, 0x14, 0x00, 0x00, 0x00, 0x00, 0x00, 0x00, 0x00, 0x21, 0x00, 0xD4,
  0x1C, 0xD1, 0x01, 0x04, 0x00, 0x00, 0x00, 0x04, 0x00, 0x00, 0x00, 0x05, 0x00, 0x00, 0x00,
  0x61, 0x2E, 0x78, 0x6D, 0x6C, 0x3C, 0x61, 0x2F, 0x3E, 0x50, 0x4B, 0x01, 0x02, 0x14, 0x00,
  0x14, 0x00, 0x00, 0x00, 0x00, 0x00, 0x00, 0x00, 0x21, 0x00, 0xD4, 0x1C, 0xD1, 0x01, 0x04,
  0x00, 0x00, 0x00, 0x00, 0x00, 0x80, 0x0C, 0x05, 0x00, 0x00, 0x00, 0x00, 0x00, 0x00, 0x00,
  0x00, 0x00, 0x00, 0x00, 0x00, 0x00, 0x00, 0x00, 0x00, 0x00, initial, 0x2E, 0x78, 0x6D, 0x6C,
  0x50, 0x4B, 0x01, 0x02, 0x14, 0x00, 0x14, 0x00, 0x00, 0x00, 0x00, 0x00, 0x00, 0x00, 0x21,
  0x00, 0xD4, 0x1C, 0xD1, 0x01, 0x04, 0x00, 0x00, 0x00, 0x04, 0x00, 0x00, 0x00, 0x05, 0x00,
  0x00, 0x00, 0x00, 0x00, 0x00, 0x00, 0x00, 0x00, 0x00, 0x00, 0x00, 0x00, 0x00, 0x00, 0x00,
  0x00, 0x61, 0x2E, 0x78, 0x6D, 0x6C, 0x50, 0x4B, 0x05, 0x06, 0x00, 0x00, 0x00, 0x00, 0x02,
  0x00, 0x02, 0x00, 0x66, 0x00, 0x00, 0x00, 0x27, 0x00, 0x00, 0x00, 0x00, 0x00]⟩

def statedAs (name : String) (size : Nat) : Header where
  rawName := name.toUTF8.data.toList
  name := name
  comment := ""
  encrypted := false
  method := 0
  crc := 30481620
  compressedSize := 4
  size := size
  start := 0

private theorem headers?_twoListed_apart :
    Zip.headers? (twoListed 0x62) = some [statedAs "b.xml" 209715200, statedAs "a.xml" 4] := by
  decide +kernel

private theorem headers?_twoListed_alike :
    Zip.headers? (twoListed 0x61) = some [statedAs "a.xml" 209715200, statedAs "a.xml" 4] := by
  decide +kernel

/-- Under two names the two headers are too many for a ceiling of one entry, and declare more than
the standard ceiling. -/
theorem extract_refuses_listed_apart :
    (Format.ofFileName? "a.zip" = some .zip ∧
      Zip.headers? (twoListed 0x62) =
        some [statedAs "b.xml" 209715200, statedAs "a.xml" 4]) ∧
    (∀ xml, extract { maxFilesInArchive := 1 } (twoListed 0x62) "a.zip" ≠ .ok xml) ∧
    ∀ xml, extract Limits.standard (twoListed 0x62) "a.zip" ≠ .ok xml := by
  have hzip : Format.ofFileName? "a.zip" = some .zip := by rfl
  have hlisted := headers?_twoListed_apart
  have hnodup : ([statedAs "b.xml" 209715200, statedAs "a.xml" 4].map Header.name).Nodup := by
    decide
  refine ⟨⟨hzip, hlisted⟩, ?_, ?_⟩
  · exact (extract_refuses_listed hzip hlisted).2 hnodup (.inl (by decide))
  · exact (extract_refuses_listed hzip hlisted).2 hnodup (.inr ⟨by decide, by decide⟩)

/-- Under one name the same two headers pass a ceiling of one entry and the standard ceiling on
content, both of which they exceed. -/
theorem extract_repeated_name :
    extract { maxFilesInArchive := 1 } (twoListed 0x61) "a.zip" = .ok "<a/>".toUTF8 ∧
    Format.ofFileName? "a.zip" = some .zip ∧
    ∃ hs, Zip.headers? (twoListed 0x61) = some hs ∧ 1 < hs.length ∧
      Limits.standard.maxUncompressedSize.toNat < declaredTotal hs := by
  have hpass : extract { maxFilesInArchive := 1 } (twoListed 0x61) "a.zip" =
      .ok "<a/>".toUTF8 :=
    eq_ok_of_toOption (by decide +kernel)
  exact ⟨hpass, by rfl, _, headers?_twoListed_alike, by decide, by decide⟩

end DmarcReports.Extraction
