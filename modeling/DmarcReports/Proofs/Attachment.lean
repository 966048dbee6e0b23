import DmarcReports.Proofs.Extraction.Success
import DmarcReports.Proofs.Text.Lowercase
import DmarcReports.Proofs.Text.Trim
import DmarcReports.Upload

/-!
Which parts of a mail are taken for reports.

The filter on attachments and the choice of a format look for the same ends of a name, so no upload
that can be extracted is dropped before. Main statement: `mayBeReport_keeps_extractable`.
-/

set_option autoImplicit false
set_option relaxedAutoImplicit false

namespace DmarcReports

namespace Text

private theorem isBlank_toLower (c : Char) : isBlank c.toLower = isBlank c := by
  by_cases hc : c.toNat < 0x80
  · exact forall_ascii (p := fun c => isBlank c.toLower = isBlank c) (by decide +kernel) hc
  · rw [toLower_of_not_ascii (Nat.le_of_not_lt hc)]

private theorem trimChars_asciiLower (cs : List Char) :
    trimChars (asciiLower cs) = asciiLower (trimChars cs) := by
  have hblank : isBlank ∘ Char.toLower = isBlank := funext isBlank_toLower
  rw [trimChars, trimChars, asciiLower, asciiLower, List.dropWhile_map, hblank, ← List.map_reverse,
    List.dropWhile_map, hblank, List.map_reverse]

end Text

namespace Format

private theorem comparable_dressed {before name name' behind : String}
    (hbefore : before.toList.all Text.isBlank = true)
    (hbehind : behind.toList.all Text.isBlank = true)
    (hname : Text.eqIgnoreCase name name' = true) :
    comparable (before ++ name ++ behind) = comparable name' := by
  have hlower : Text.asciiLower name.toList = Text.asciiLower name'.toList := by
    simpa [Text.eqIgnoreCase] using hname
  rw [comparable, comparable, String.toList_append, String.toList_append,
    Text.trimChars_append_of_blank hbehind, Text.trimChars_blank_append hbefore,
    ← Text.trimChars_asciiLower, ← Text.trimChars_asciiLower, hlower]

end Format

namespace Extraction

variable {limits : Limits} {bytes : ByteArray} {fileName : String}

private theorem readAll_ne_unsupportedSuffix {limit announced : UInt64} {failure : Rejection}
    {feed : Feed} (hfailure : failure ≠ .unsupportedSuffix) :
    readAll limit announced failure feed ≠ .error .unsupportedSuffix := by
  rw [readAll_eq]
  split
  · simp [Rejection.unsupportedSuffix]
  split
  · exact nofun
  · simpa using hfailure

private theorem fromEntries_ne_unsupportedSuffix (entries : List Zip.Entry) :
    fromEntries limits entries ≠ .error .unsupportedSuffix := by
  unfold fromEntries
  dsimp only
  split
  · simp [Rejection.unsupportedSuffix]
  split
  · simp [Rejection.unsupportedSuffix, Rejection.corruptArchive]
  split
  · simp [Rejection.unsupportedSuffix]
  split
  · simp [Rejection.unsupportedSuffix, Rejection.noReportInside]
  split
  · simp [Rejection.unsupportedSuffix]
  split
  · simp [Rejection.unsupportedSuffix, Rejection.unreadableEntry]
  · exact readAll_ne_unsupportedSuffix (by decide)

private theorem unpack_ne_unsupportedSuffix (limits : Limits) (bytes : ByteArray)
    (format : Format) :
    unpack limits bytes format ≠ .error .unsupportedSuffix := by
  cases format with
  | xml => exact nofun
  | zip =>
    rw [unpack, unzip]
    split
    · simp [Rejection.unsupportedSuffix, Rejection.corruptArchive]
    · exact fromEntries_ne_unsupportedSuffix _
  | gzip =>
    rw [unpack, gunzip]
    split
    · exact readAll_ne_unsupportedSuffix (by decide)
    · simp [Rejection.unsupportedSuffix, Rejection.notGzip]

private theorem extract_eq_unsupportedSuffix_iff (hsize : bytes.size ≤ limits.maxFileSize.toNat) :
    extract limits bytes fileName = .error .unsupportedSuffix ↔
      Format.ofFileName? fileName = none := by
  unfold extract
  rw [if_neg (Nat.not_lt.mpr hsize)]
  cases hformat : Format.ofFileName? fileName with
  | none => simp
  | some format =>
    have hunpack := unpack_ne_unsupportedSuffix limits bytes format
    simp only [reduceCtorEq, iff_false]
    cases hresult : unpack limits bytes format with
    | error e => simpa [hresult] using hunpack
    | ok xml =>
      dsimp only
      split
      · simp [Rejection.noContent, Rejection.unsupportedSuffix]
      · exact nofun

private theorem isSome_ofFileName?_of_extract {xml : ByteArray}
    (h : extract limits bytes fileName = .ok xml) :
    (Format.ofFileName? fileName).isSome = true := by
  unfold extract at h
  split at h
  · cases h
  cases hformat : Format.ofFileName? fileName with
  | none => simp [hformat] at h
  | some format => rfl

end Extraction

namespace Attachment

private theorem mayBeReport_none (fileName : String) :
    mayBeReport fileName none = (Format.ofFileName? fileName).isSome := by
  unfold mayBeReport suffixes Format.ofFileName?
  dsimp only
  rw [Option.any_none, Bool.or_false]
  cases hzip : Text.endsIn ".zip" (Format.comparable fileName) with
  | true => simp [hzip]
  | false =>
    cases hgz : Text.endsIn ".gz" (Format.comparable fileName) <;>
      cases hgzip : Text.endsIn ".gzip" (Format.comparable fileName) <;>
      cases hxml : Text.endsIn ".xml" (Format.comparable fileName) <;> simp [hzip, hgz, hgzip, hxml]

private theorem mayBeReport_of_none {fileName : String} (h : mayBeReport fileName none = true)
    (contentType : Option String) : mayBeReport fileName contentType = true := by
  have hsuffix : suffixes.any (Text.endsIn · (Format.comparable fileName)) = true := by
    simpa [mayBeReport] using h
  rw [mayBeReport, hsuffix, Bool.true_or]

/-- What can be extracted is taken for a report, whatever its type. Without a type just those names
are, that tell a format, so those for which an upload within the ceiling on its size is not refused
for its suffix. Blanks around a name and the case of its letters make no difference to either. -/
theorem mayBeReport_keeps_extractable (limits : Limits) (bytes : ByteArray) (fileName : String) :
    (∀ xml contentType, Extraction.extract limits bytes fileName = .ok xml →
        mayBeReport fileName contentType = true) ∧
      (mayBeReport fileName none = true ↔ (Format.ofFileName? fileName).isSome = true) ∧
      (bytes.size ≤ limits.maxFileSize.toNat → (mayBeReport fileName none = true ↔
        Extraction.extract limits bytes fileName ≠
          .error (.format "expected a .xml, .zip, .gz or .gzip file"))) ∧
      ∀ before name behind : String, before.toList.all Text.isBlank = true →
        behind.toList.all Text.isBlank = true → Text.eqIgnoreCase name fileName = true →
        (∀ contentType, mayBeReport (before ++ name ++ behind) contentType =
          mayBeReport fileName contentType) ∧
        Format.ofFileName? (before ++ name ++ behind) = Format.ofFileName? fileName := by
  refine ⟨?_, by rw [mayBeReport_none], ?_, ?_⟩
  · intro xml contentType h
    have hformat := Extraction.isSome_ofFileName?_of_extract h
    exact mayBeReport_of_none (by rwa [mayBeReport_none]) contentType
  · intro hsize
    rw [mayBeReport_none, Option.isSome_iff_ne_none]
    exact not_congr (Extraction.extract_eq_unsupportedSuffix_iff hsize).symm
  · intro before name behind hbefore hbehind hname
    have hcomparable := Format.comparable_dressed hbefore hbehind hname
    refine ⟨fun contentType => ?_, ?_⟩
    · rw [mayBeReport, mayBeReport, hcomparable]
    · rw [Format.ofFileName?, Format.ofFileName?, hcomparable]

/-- A report that is extracted is taken for one even as plain text, and so is one whose name has a tab
in front, an ideographic space behind, and capital letters. -/
theorem mayBeReport_keeps_extractable_dressed :
    Extraction.extract { maxFileSize := 4 } "<a/>".toUTF8 "r.xml" = .ok "<a/>".toUTF8 ∧
      mayBeReport "r.xml" (some "text/plain") = true ∧
      ("<a/>".toUTF8.size ≤ (4 : UInt64).toNat ∧ (mayBeReport "r.xml" none = true ↔
        Extraction.extract { maxFileSize := 4 } "<a/>".toUTF8 "r.xml" ≠
          .error (.format "expected a .xml, .zip, .gz or .gzip file"))) ∧
      ("\t".toList.all Text.isBlank = true ∧ "\u3000".toList.all Text.isBlank = true ∧
        Text.eqIgnoreCase "R.XmL" "r.xml" = true) ∧
      Format.ofFileName? ("\t" ++ "R.XmL" ++ "\u3000") = Format.ofFileName? "r.xml" := by
  have h := mayBeReport_keeps_extractable { maxFileSize := 4 } "<a/>".toUTF8 "r.xml"
  have hxml : Extraction.extract { maxFileSize := 4 } "<a/>".toUTF8 "r.xml" =
      .ok "<a/>".toUTF8 := by rfl
  have hsize : "<a/>".toUTF8.size ≤ (4 : UInt64).toNat := by decide
  have htab : "\t".toList.all Text.isBlank = true := by decide
  have hspace : "\u3000".toList.all Text.isBlank = true := by decide
  have hname : Text.eqIgnoreCase "R.XmL" "r.xml" = true := by decide
  exact ⟨hxml, h.1 _ (some "text/plain") hxml, ⟨hsize, h.2.2.1 hsize⟩, ⟨htab, hspace, hname⟩,
    (h.2.2.2 _ _ _ htab hspace hname).2⟩

end Attachment

end DmarcReports
