import DmarcReports.Proofs.Extraction.Success
import DmarcReports.Proofs.Report.Demands
import DmarcReports.Proofs.Zip.Directory
import DmarcReports.Upload

/-!
What the rejection of an upload can say.

A rejection is laid to parsing just when the XML was extracted, its reason is one of a few fixed
texts, and its numbers are the size of the upload, the number of entries and the ceilings.
-/

set_option autoImplicit false
set_option relaxedAutoImplicit false

namespace DmarcReports

namespace Rejection

def fileReasons : List String := [
  "expected a .xml, .zip, .gz or .gzip file", "no XML content found", "not a GZIP stream",
  "corrupt GZIP stream", "corrupt ZIP archive", "no XML report inside ZIP archive",
  "unsupported or encrypted ZIP entry", "corrupt ZIP entry"]

def xmlReasons : List String := [
  "report is not valid UTF-8", "DTDs and entity declarations are not allowed",
  "document has too many elements", "document is not well-formed", "invalid numeric field",
  "message count out of range"]

def entryCount (bytes : ByteArray) : Nat :=
  ((Zip.entries? bytes).map List.length).getD 0

/-- That everything in a rejection comes from the fixed reasons, the size of the upload, the number
of its entries and the ceilings. -/
def Grounds (limits : Limits) (bytes : ByteArray) : Rejection → Prop
  | format reason => reason ∈ fileReasons
  | oversized size limit =>
    limits.maxFileSize.toNat < bytes.size ∧ size = UInt64.ofNat bytes.size ∧
      limit = limits.maxFileSize
  | archiveBomb limit => limit = limits.maxUncompressedSize
  | tooManyEntries entries limit =>
    limit < entries ∧ entries.toNat = entryCount bytes ∧ limit = limits.maxFilesInArchive
  | malformedXml reason => reason ∈ xmlReasons
  | missingDomain => True

def reason? : Rejection → Option String
  | format reason | malformedXml reason => some reason
  | oversized .. | archiveBomb _ | tooManyEntries .. | missingDomain => none

def figures (limits : Limits) (bytes : ByteArray) : Rejection → List Nat
  | oversized .. => [bytes.size, limits.maxFileSize.toNat]
  | archiveBomb _ => [limits.maxUncompressedSize.toNat]
  | tooManyEntries .. => [entryCount bytes, limits.maxFilesInArchive.toNat]
  | format _ | malformedXml _ | missingDomain => []

variable {limits limits' : Limits} {bytes bytes' : ByteArray} {e e' : Rejection}

/-- Grounded rejections of one kind, with one reason and the same numbers, are the same. -/
theorem Grounds.unique (he : e.Grounds limits bytes) (he' : e'.Grounds limits' bytes')
    (hkind : e.kind = e'.kind) (hreason : e.reason? = e'.reason?)
    (hfigures : e.figures limits bytes = e'.figures limits' bytes') : e = e' := by
  cases e with
  | format reason =>
    cases e' with
    | format reason' => rw [Option.some.inj hreason]
    | _ => exact absurd hkind (by simp [kind])
  | oversized size limit =>
    cases e' with
    | oversized size' limit' =>
      obtain ⟨-, rfl, rfl⟩ := he
      obtain ⟨-, rfl, rfl⟩ := he'
      simp only [figures, List.cons.injEq] at hfigures
      rw [hfigures.1, UInt64.toNat_inj.mp hfigures.2.1]
    | _ => exact absurd hkind (by simp [kind])
  | archiveBomb limit =>
    cases e' with
    | archiveBomb limit' =>
      simp only [figures, List.cons.injEq] at hfigures
      rw [he, he', UInt64.toNat_inj.mp hfigures.1]
    | _ => exact absurd hkind (by simp [kind])
  | tooManyEntries entries limit =>
    cases e' with
    | tooManyEntries entries' limit' =>
      obtain ⟨-, hcount, rfl⟩ := he
      obtain ⟨-, hcount', rfl⟩ := he'
      simp only [figures, List.cons.injEq] at hfigures
      have hentries : entries = entries' := by
        rw [← UInt64.toNat_inj, hcount, hcount', hfigures.1]
      rw [hentries, UInt64.toNat_inj.mp hfigures.2.1]
    | _ => exact absurd hkind (by simp [kind])
  | malformedXml reason =>
    cases e' with
    | malformedXml reason' => rw [Option.some.inj hreason]
    | _ => exact absurd hkind (by simp [kind])
  | missingDomain =>
    cases e' with
    | missingDomain => rfl
    | _ => exact absurd hkind (by simp [kind])

end Rejection

namespace Report

variable {limits : Limits} {bytes : ByteArray} {e : Rejection}

private theorem grounds_malformedXml {reason : String} (hknown : reason ∈ Rejection.xmlReasons) :
    (Rejection.malformedXml reason).Grounds limits bytes ∧
      (Rejection.malformedXml reason).category = .parse :=
  ⟨hknown, rfl⟩

private theorem grounds_of_decode {xml : ByteArray} (h : decode xml = .error e) :
    e.Grounds limits bytes ∧ e.category = .parse := by
  unfold decode at h
  split at h
  · rename_i s _
    unfold ofText at h
    split at h
    · rename_i root _
      rcases ofNode_cases root with ⟨r, hr, -⟩ | ⟨d, -, -, hd⟩
      · rw [hr] at h
        cases h
      · rw [hd] at h
        cases h
        cases d with
        | domain => exact ⟨trivial, rfl⟩
        | times | share | counts | total => exact grounds_malformedXml (by decide)
    · rename_i fault _
      cases h
      cases fault with
      | doctype | tooManyNodes | malformed => exact grounds_malformedXml (by decide)
  · cases h
    exact grounds_malformedXml (by decide)

end Report

namespace Extraction

open Rejection (Grounds)

variable {limits : Limits} {bytes : ByteArray} {e : Rejection}

/-- That a rejection is grounded, and not laid to parsing. -/
def Refusal (limits : Limits) (bytes : ByteArray) (e : Rejection) : Prop :=
  e.Grounds limits bytes ∧ e.category ≠ .parse

private theorem refusal_format {reason : String} (hknown : reason ∈ Rejection.fileReasons) :
    Refusal limits bytes (.format reason) :=
  ⟨hknown, by simp [Rejection.category]⟩

private theorem refusal_archiveBomb :
    Refusal limits bytes (.archiveBomb limits.maxUncompressedSize) :=
  ⟨rfl, by simp [Rejection.category]⟩

private theorem refusal_of_readAll {announced : UInt64} {failure : Rejection} {feed : Feed}
    (hfailure : Refusal limits bytes failure)
    (h : readAll limits.maxUncompressedSize announced failure feed = .error e) :
    Refusal limits bytes e := by
  rw [readAll_eq] at h
  split at h
  · cases h
    exact refusal_archiveBomb
  split at h
  · cases h
  · cases h
    exact hfailure

private theorem refusal_of_gunzip (h : gunzip limits bytes = .error e) :
    Refusal limits bytes e := by
  unfold gunzip at h
  split at h
  · exact refusal_of_readAll (refusal_format (by decide)) h
  · cases h
    exact refusal_format (by decide)

private theorem refusal_tooManyEntries {entries : List Zip.Entry} (hword : bytes.size < UInt64.size)
    (hentries : Zip.entries? bytes = some entries)
    (hmany : limits.maxFilesInArchive.toNat < entries.length) :
    Refusal limits bytes
      (.tooManyEntries (UInt64.ofNat entries.length) limits.maxFilesInArchive) := by
  have hroom := Zip.length_le_of_entries? hentries
  have hcount : (UInt64.ofNat entries.length).toNat = entries.length :=
    UInt64.toNat_ofNat_of_lt' (by omega)
  refine ⟨⟨?_, ?_, rfl⟩, by simp [Rejection.category]⟩
  · rw [UInt64.lt_iff_toNat_lt, hcount]
    exact hmany
  · rw [hcount, Rejection.entryCount, hentries]
    rfl

private theorem refusal_of_fromEntries {entries : List Zip.Entry} (hword : bytes.size < UInt64.size)
    (hentries : Zip.entries? bytes = some entries)
    (h : fromEntries limits entries = .error e) : Refusal limits bytes e := by
  unfold fromEntries at h
  dsimp only at h
  split at h
  · rename_i hmany
    cases h
    exact refusal_tooManyEntries hword hentries hmany
  split at h
  · cases h
    exact refusal_format (by decide)
  split at h
  · cases h
    exact refusal_archiveBomb
  split at h
  · cases h
    exact refusal_format (by decide)
  split at h
  · cases h
    exact refusal_archiveBomb
  split at h
  · cases h
    exact refusal_format (by decide)
  · exact refusal_of_readAll (refusal_format (by decide)) h

private theorem refusal_of_unpack {format : Format} (hword : bytes.size < UInt64.size)
    (h : unpack limits bytes format = .error e) : Refusal limits bytes e := by
  cases format with
  | xml => cases h
  | zip =>
    simp only [unpack, unzip] at h
    split at h
    · cases h
      exact refusal_format (by decide)
    · rename_i entries hentries
      exact refusal_of_fromEntries hword hentries h
  | gzip => exact refusal_of_gunzip h

private theorem refusal_of_extract {fileName : String}
    (h : extract limits bytes fileName = .error e) :
    Refusal limits bytes e := by
  unfold extract at h
  split at h
  · rename_i hlarge
    cases h
    exact ⟨⟨hlarge, rfl, rfl⟩, by simp [Rejection.category]⟩
  rename_i hsmall
  -- What gets past the first check has a size that fits into a word.
  have hword : bytes.size < UInt64.size := by
    have hlimit := limits.maxFileSize.toNat_lt
    simp only [UInt64.size]
    omega
  split at h
  · cases h
    exact refusal_format (by decide)
  split at h
  · rename_i e' hunpack
    cases h
    exact refusal_of_unpack hword hunpack
  split at h
  · cases h
    exact refusal_format (by decide)
  · cases h

private theorem extract_oversized {fileName : String}
    (hlarge : limits.maxFileSize.toNat < bytes.size) :
    extract limits bytes fileName =
      .error (.oversized (UInt64.ofNat bytes.size) limits.maxFileSize) :=
  if_pos hlarge

end Extraction

namespace Upload

variable {limits : Limits} {u : Upload} {e : Rejection}

/-- A rejection is grounded, and laid to parsing just when there was XML to parse. -/
private theorem grounds_of_parse (h : u.parse limits = .error e) :
    e.Grounds limits u.bytes ∧
      (e.category = .parse ↔ ∃ xml, Extraction.extract limits u.bytes u.fileName = .ok xml) := by
  unfold parse at h
  split at h
  · rename_i xml hxml
    obtain ⟨hgrounds, hparse⟩ := Report.grounds_of_decode h
    exact ⟨hgrounds, fun _ => ⟨xml, hxml⟩, fun _ => hparse⟩
  · rename_i e' hrefused
    cases h
    obtain ⟨hgrounds, hcategory⟩ := Extraction.refusal_of_extract hrefused
    refine ⟨hgrounds, fun hparse => absurd hparse hcategory, ?_⟩
    rintro ⟨xml, hxml⟩
    rw [hrefused] at hxml
    cases hxml

private theorem parse_oversized_iff :
    (∃ size limit, u.parse limits = .error (.oversized size limit)) ↔
      limits.maxFileSize.toNat < u.bytes.size := by
  constructor
  · rintro ⟨size, limit, h⟩
    exact (grounds_of_parse h).1.1
  · intro hlarge
    refine ⟨UInt64.ofNat u.bytes.size, limits.maxFileSize, ?_⟩
    rw [parse, Extraction.extract_oversized hlarge]

/-- An upload is oversized just when it is larger than the ceiling. A rejection is laid to parsing
just when the XML was extracted, and says nothing but a fixed reason or numbers of the upload and the
ceilings; so two rejections with one reason and the same numbers read the same. -/
theorem parse_rejections_grounded (limits : Limits) (u : Upload) :
    ((∃ size limit, u.parse limits = .error (.oversized size limit)) ↔
        limits.maxFileSize.toNat < u.bytes.size) ∧
      (∀ e, u.parse limits = .error e → e.Grounds limits u.bytes ∧
        (e.category = .parse ↔
          ∃ xml, Extraction.extract limits u.bytes u.fileName = .ok xml)) ∧
      ∀ (limits' : Limits) (u' : Upload) (e e' : Rejection), u.parse limits = .error e →
        u'.parse limits' = .error e' → e.kind = e'.kind → e.reason? = e'.reason? →
        e.figures limits u.bytes = e'.figures limits' u'.bytes → e.message = e'.message := by
  refine ⟨parse_oversized_iff, fun e h => grounds_of_parse h, ?_⟩
  intro limits' u' e e' h h' hkind hreason hfigures
  have hgrounds := (grounds_of_parse h).1
  have hgrounds' := (grounds_of_parse h').1
  rw [hgrounds.unique hgrounds' hkind hreason hfigures]

end Upload

end DmarcReports
