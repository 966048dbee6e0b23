import DmarcReports.Proofs.Extraction.Success
import DmarcReports.Proofs.GzipFrame

/-!
GZIP streams one behind the other.

The ceiling is kept on all that a stream holds; no member starts the count anew. Main statement:
`gunzip_append`.
-/

set_option autoImplicit false
set_option relaxedAutoImplicit false

namespace DmarcReports.Extraction

/-- A GZIP stream comes to what it holds, or it is refused for the size of that. -/
private theorem gunzip_of_holds (limits : Limits) {bytes content : ByteArray}
    (h : Gzip.Holds bytes.data.toList content) :
    gunzip limits bytes =
      if limits.maxUncompressedSize.toNat < content.size then
        .error (.archiveBomb limits.maxUncompressedSize)
      else .ok content := by
  have hrounds : bytes.data.toList.length < bytes.size + 1 := Nat.lt_succ_self _
  obtain ⟨hends, hcontent⟩ := Gzip.members_of_holds h bytes.size _ 0 hrounds
  rw [gunzip, if_pos (Gzip.hasMagic_of_holds h), readAll_eq]
  simp only [Gzip.feed, hends, hcontent, if_true]

private theorem holds_of_gunzip {limits : Limits} {bytes content : ByteArray}
    (h : gunzip limits bytes = .ok content) : Gzip.Holds bytes.data.toList content := by
  obtain ⟨-, -, hends, hcontent⟩ := gunzip_eq_ok_iff.mp h
  rw [← hcontent]
  exact Gzip.holds_of_feed bytes hends

/-- Two streams that pass come to both contents together, unless these are more than the ceiling
allows; then the whole is refused for it. -/
theorem gunzip_append {limits : Limits} {a b x y : ByteArray} (ha : gunzip limits a = .ok x)
    (hb : gunzip limits b = .ok y) :
    (x.size + y.size ≤ limits.maxUncompressedSize.toNat → gunzip limits (a ++ b) = .ok (x ++ y)) ∧
      (limits.maxUncompressedSize.toNat < x.size + y.size →
        gunzip limits (a ++ b) = .error (.archiveBomb limits.maxUncompressedSize)) := by
  have hholds : Gzip.Holds (a ++ b).data.toList (x ++ y) := by
    rw [ByteArray.data_append, Array.toList_append]
    exact (holds_of_gunzip ha).append (holds_of_gunzip hb)
  rw [gunzip_of_holds limits hholds, ByteArray.size_append]
  constructor
  · intro hle
    rw [if_neg (Nat.not_lt_of_le hle)]
  · intro hlt
    rw [if_pos hlt]

def openingTag : ByteArray := ⟨#[
  0x1F, 0x8B, 0x08, 0x00, 0x00, 0x00, 0x00, 0x00, 0x00, 0x03, 0x01, 0x03, 0x00, 0xFC, 0xFF,
  0x3C, 0x61, 0x3E, 0xAB, 0x82, 0xB7, 0x6F, 0x03, 0x00, 0x00, 0x00]⟩

def closingTag : ByteArray := ⟨#[
  0x1F, 0x8B, 0x08, 0x00, 0x00, 0x00, 0x00, 0x00, 0x00, 0x03, 0x01, 0x04, 0x00, 0xFB, 0xFF,
  0x3C, 0x2F, 0x61, 0x3E, 0x95, 0xDE, 0x2F, 0x15, 0x04, 0x00, 0x00, 0x00]⟩

/-- A ceiling of seven bytes lets both pass together; one of six, under which each passes alone,
does not. -/
theorem gunzip_append_tags :
    gunzip { maxUncompressedSize := 7 } (openingTag ++ closingTag) =
        .ok ("<a>".toUTF8 ++ "</a>".toUTF8) ∧
      gunzip { maxUncompressedSize := 6 } openingTag = .ok "<a>".toUTF8 ∧
      gunzip { maxUncompressedSize := 6 } closingTag = .ok "</a>".toUTF8 ∧
      gunzip { maxUncompressedSize := 6 } (openingTag ++ closingTag) = .error (.archiveBomb 6) := by
  have hsix : gunzip { maxUncompressedSize := 6 } openingTag = .ok "<a>".toUTF8 :=
    eq_ok_of_toOption (by decide +kernel)
  have hsix' : gunzip { maxUncompressedSize := 6 } closingTag = .ok "</a>".toUTF8 :=
    eq_ok_of_toOption (by decide +kernel)
  have hseven : gunzip { maxUncompressedSize := 7 } openingTag = .ok "<a>".toUTF8 :=
    gunzip_of_holds { maxUncompressedSize := 7 } (holds_of_gunzip hsix)
  have hseven' : gunzip { maxUncompressedSize := 7 } closingTag = .ok "</a>".toUTF8 :=
    gunzip_of_holds { maxUncompressedSize := 7 } (holds_of_gunzip hsix')
  have hfits := (gunzip_append hseven hseven').1 (by decide)
  have hpasses := (gunzip_append hsix hsix').2 (by decide)
  exact ⟨hfits, hsix, hsix', hpasses⟩

end DmarcReports.Extraction
