import DmarcReports.Proofs.Extraction.Success
import DmarcReports.Proofs.GzipContent
import DmarcReports.Proofs.Zip.Content

/-!
What is extracted is all that an upload holds.

What a format holds is said without ceilings and without the way in which content is delivered: the
upload itself, the members of a GZIP stream together, or what the first report of an archive decodes
to. Main statement: `extract_holds`.
-/

set_option autoImplicit false
set_option relaxedAutoImplicit false

namespace DmarcReports

namespace Extraction

def report? (b : ByteArray) : Option Zip.Header :=
  (Zip.headers? b).bind fun hs =>
    (Zip.collapse hs).find? fun h => isReport (Zip.Entry.ofHeader b h)

/-- That the first report of an archive is this entry, with these bytes stored for it and this
content. -/
structure Reports (b : ByteArray) (h : Zip.Header) (stored content : ByteArray) : Prop where
  selected : report? b = some h
  located : Zip.Entry.stored? b h = some stored
  attested : h.Attests stored content

end Extraction

/-- That an upload of a format holds this content. -/
def Format.Holds : Format → ByteArray → ByteArray → Prop
  | xml, bytes, content => content = bytes
  | zip, bytes, content => ∃ h stored, Extraction.Reports bytes h stored content
  | gzip, bytes, content => Gzip.Holds bytes.data.toList content

theorem Format.Holds.unique {format : Format} {bytes content content' : ByteArray}
    (h : format.Holds bytes content) (h' : format.Holds bytes content') : content = content' := by
  cases format with
  | xml => exact Eq.trans h (Eq.symm h')
  | zip =>
    obtain ⟨header, stored, selected, located, attested⟩ := h
    obtain ⟨header', stored', selected', located', attested'⟩ := h'
    obtain rfl := Option.some.inj (selected.symm.trans selected')
    obtain rfl := Option.some.inj (located.symm.trans located')
    exact attested.decoded.unique attested'.decoded
  | gzip => exact Gzip.Holds.unique h h'

namespace Extraction

private theorem find?_isReport {b : ByteArray} {entries : List Zip.Entry}
    (h : Zip.entries? b = some entries) :
    entries.find? isReport = (report? b).map (Zip.Entry.ofHeader b) := by
  unfold Zip.entries? at h
  obtain ⟨hs, hheaders, rfl⟩ := Option.map_eq_some_iff.mp h
  rw [List.find?_map, report?, hheaders]
  rfl

private theorem reports_of_unzip {limits : Limits} {bytes xml : ByteArray}
    (h : unzip limits bytes = .ok xml) :
    (∃ header stored, Reports bytes header stored xml) ∧
      xml.size ≤ limits.maxUncompressedSize.toNat := by
  unfold unzip at h
  split at h
  · cases h
  · rename_i entries hentries
    obtain ⟨entry, feed, hfind, hcontent, hsize, hends, rfl⟩ := of_fromEntries_eq_ok h
    rw [find?_isReport hentries] at hfind
    obtain ⟨header, hreport, rfl⟩ := Option.map_eq_some_iff.mp hfind
    obtain ⟨stored, hstored, hfeed⟩ := Option.bind_eq_some_iff.mp hcontent
    exact ⟨⟨header, stored, hreport, hstored, Zip.Entry.attests_of_feed? hfeed hends⟩, hsize⟩

/-- What an upload is unpacked to is what it holds, within the ceiling unless it is plain. -/
private theorem holds_of_unpack {limits : Limits} {bytes xml : ByteArray} {format : Format}
    (h : unpack limits bytes format = .ok xml) :
    format.Holds bytes xml ∧
      (format ≠ .xml → xml.size ≤ limits.maxUncompressedSize.toNat) := by
  cases format with
  | xml =>
    cases h
    exact ⟨rfl, fun hne => absurd rfl hne⟩
  | zip =>
    obtain ⟨hreports, hsize⟩ := reports_of_unzip h
    exact ⟨hreports, fun _ => hsize⟩
  | gzip =>
    obtain ⟨-, hsize, hends, rfl⟩ := gunzip_eq_ok_iff.mp h
    exact ⟨Gzip.holds_of_feed bytes hends, fun _ => hsize⟩

/-- What is extracted is not empty, comes from an upload within its ceiling, and is the one content
that the upload holds. Of a container it is within the ceiling, too; one that holds more is never
extracted. -/
theorem extract_holds (limits : Limits) (bytes : ByteArray) (fileName : String) :
    (∀ xml, extract limits bytes fileName = .ok xml →
      0 < xml.size ∧ bytes.size ≤ limits.maxFileSize.toNat ∧
        ∃ format, Format.ofFileName? fileName = some format ∧
          format.Holds bytes xml ∧ (∀ content, format.Holds bytes content → content = xml) ∧
          (format ≠ .xml → xml.size ≤ limits.maxUncompressedSize.toNat)) ∧
    ∀ format content, Format.ofFileName? fileName = some format → format ≠ .xml →
      format.Holds bytes content → limits.maxUncompressedSize.toNat < content.size →
      ∀ xml, extract limits bytes fileName ≠ .ok xml := by
  constructor
  · intro xml h
    obtain ⟨hfile, ⟨format, hformat, hunpack⟩, hpos⟩ := extract_eq_ok_iff.mp h
    obtain ⟨hholds, hsize⟩ := holds_of_unpack hunpack
    exact ⟨hpos, hfile, format, hformat, hholds, fun content h' => h'.unique hholds, hsize⟩
  · intro format content hformat hcontainer hcontent hlarge xml h
    obtain ⟨-, ⟨format', hformat', hunpack⟩, -⟩ := extract_eq_ok_iff.mp h
    obtain rfl := Option.some.inj (hformat.symm.trans hformat')
    obtain ⟨hholds, hsize⟩ := holds_of_unpack hunpack
    have hle := hsize hcontainer
    rw [hholds.unique hcontent] at hle
    omega

/-- A GZIP stream of two members, which hold three bytes and four. -/
def twoMembers : ByteArray := ⟨#[
  0x1F, 0x8B, 0x08, 0x00, 0x00, 0x00, 0x00, 0x00, 0x00, 0x03, 0x01, 0x03, 0x00, 0xFC, 0xFF,
  0x3C, 0x61, 0x3E, 0xAB, 0x82, 0xB7, 0x6F, 0x03, 0x00, 0x00, 0x00, 0x1F, 0x8B, 0x08, 0x00,
  0x00, 0x00, 0x00, 0x00, 0x00, 0x03, 0x01, 0x04, 0x00, 0xFB, 0xFF, 0x3C, 0x2F, 0x61, 0x3E,
  0x95, 0xDE, 0x2F, 0x15, 0x04, 0x00, 0x00, 0x00]⟩

/-- An archive of one compressed report of four bytes, which declares none. -/
def understated : ByteArray := ⟨#[
  0x50, 0x4B, 0x03, 0x04, 0x14, 0x00, 0x00, 0x00, 0x08, 0x00, 0x00, 0x00, 0x21, 0x00, 0xD4,
  0x1C, 0xD1, 0x01, 0x09, 0x00, 0x00, 0x00, 0x00, 0x00, 0x00, 0x00, 0x05, 0x00, 0x00, 0x00,
  0x61, 0x2E, 0x78, 0x6D, 0x6C, 0x01, 0x04, 0x00, 0xFB, 0xFF, 0x3C, 0x61, 0x2F, 0x3E, 0x50,
  0x4B, 0x01, 0x02, 0x14, 0x00, 0x14, 0x00, 0x00, 0x00, 0x08, 0x00, 0x00, 0x00, 0x21, 0x00,
  0xD4, 0x1C, 0xD1, 0x01, 0x09, 0x00, 0x00, 0x00, 0x00, 0x00, 0x00, 0x00, 0x05, 0x00, 0x00,
  0x00, 0x00, 0x00, 0x00, 0x00, 0x00, 0x00, 0x00, 0x00, 0x00, 0x00, 0x00, 0x00, 0x00, 0x00,
  0x61, 0x2E, 0x78, 0x6D, 0x6C, 0x50, 0x4B, 0x05, 0x06, 0x00, 0x00, 0x00, 0x00, 0x01, 0x00,
  0x01, 0x00, 0x33, 0x00, 0x00, 0x00, 0x2C, 0x00, 0x00, 0x00, 0x00, 0x00]⟩

/-- Under a ceiling of seven bytes both members pass together; under one of six neither does. The
report that declares no bytes passes with all four, and not under a ceiling of three. -/
theorem extract_holds_twoMembers :
    extract { maxUncompressedSize := 7 } twoMembers "a.gz" = .ok "<a></a>".toUTF8 ∧
      Format.gzip.Holds twoMembers "<a></a>".toUTF8 ∧
      (∀ xml, extract { maxUncompressedSize := 6 } twoMembers "a.gz" ≠ .ok xml) ∧
      extract { maxUncompressedSize := 4 } understated "a.zip" = .ok "<a/>".toUTF8 ∧
      Format.zip.Holds understated "<a/>".toUTF8 ∧
      ∀ xml, extract { maxUncompressedSize := 3 } understated "a.zip" ≠ .ok xml := by
  have hmembers : extract { maxUncompressedSize := 7 } twoMembers "a.gz" = .ok "<a></a>".toUTF8 :=
    eq_ok_of_toOption (by decide +kernel)
  have hgzip : Format.ofFileName? "a.gz" = some .gzip := by rfl
  obtain ⟨-, -, format, hformat, hholds, -, -⟩ :=
    (extract_holds { maxUncompressedSize := 7 } twoMembers "a.gz").1 _ hmembers
  obtain rfl := Option.some.inj (hgzip.symm.trans hformat)
  have hentry : extract { maxUncompressedSize := 4 } understated "a.zip" = .ok "<a/>".toUTF8 :=
    eq_ok_of_toOption (by decide +kernel)
  have hzip : Format.ofFileName? "a.zip" = some .zip := by rfl
  obtain ⟨-, -, format, hformat, hreports, -, -⟩ :=
    (extract_holds { maxUncompressedSize := 4 } understated "a.zip").1 _ hentry
  obtain rfl := Option.some.inj (hzip.symm.trans hformat)
  have hsix := extract_holds { maxUncompressedSize := 6 } twoMembers "a.gz"
  have hthree := extract_holds { maxUncompressedSize := 3 } understated "a.zip"
  exact ⟨hmembers, hholds, hsix.2 _ _ hgzip (by decide) hholds (by decide),
    hentry, hreports, hthree.2 _ _ hzip (by decide) hreports (by decide)⟩

end Extraction

end DmarcReports
