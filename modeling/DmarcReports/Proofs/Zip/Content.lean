import DmarcReports.Proofs.Deflate.Output
import DmarcReports.Zip.Archive

/-!
What an entry of an archive holds: what its stored bytes decode to, if that has the checksum which
the directory states.

The sizes of the directory only tell which bytes are stored for the entry; a compressed stream has
to go on to its end within them.
-/

set_option autoImplicit false
set_option relaxedAutoImplicit false

namespace DmarcReports.Zip

/-- What stored bytes decode to by a method. -/
inductive Decodes (stored : ByteArray) : Nat → ByteArray → Prop
  | plain : Decodes stored 0 stored
  | deflated {s : Deflate.Bits}
      (complete : (Deflate.Stream.read stored.data.toList).rest = .ok s) :
      Decodes stored 8 (Deflate.Stream.read stored.data.toList).output

/-- That an entry vouches for this content of its stored bytes. -/
structure Header.Attests (h : Header) (stored content : ByteArray) : Prop where
  clear : h.encrypted = false ∧ h.aes = false
  decoded : Decodes stored h.method content
  checksum : (Crc32.ofBytes content).toNat = h.crc

theorem Decodes.unique {stored content content' : ByteArray} {method : Nat}
    (h : Decodes stored method content) (h' : Decodes stored method content') :
    content = content' := by
  cases h <;> cases h' <;> rfl

namespace Entry

/-- Chunks with the check behind them deliver what they come to, and it has the checksum. -/
private theorem checked_of_endsWell {h : Header} {chunks : List ByteArray} {content : ByteArray}
    (hjoined : Feed.joined chunks = content)
    (hends : (Feed.ofChunks chunks (checked h content)).endsWell = true) :
    (Feed.ofChunks chunks (checked h content)).content = content ∧
      (Crc32.ofBytes content).toNat = h.crc := by
  rw [Feed.endsWell_ofChunks] at hends
  rw [Feed.content_ofChunks, hjoined]
  unfold checked at hends ⊢
  split at hends
  · rename_i hcrc
    rw [if_pos hcrc]
    exact ⟨ByteArray.append_empty, hcrc⟩
  · cases hends

private theorem decodes_of_plainFeed {h : Header} {stored : ByteArray}
    (hends : (plainFeed h stored).endsWell = true) :
    Decodes stored 0 (plainFeed h stored).content ∧
      (Crc32.ofBytes (plainFeed h stored).content).toNat = h.crc := by
  have hjoined : Feed.joined (Feed.chunksBetween stored 0 stored.size) = stored := by
    rw [Feed.joined_chunksBetween _ (Nat.zero_le _), ByteArray.extract_zero_size]
  obtain ⟨hcontent, hcrc⟩ := checked_of_endsWell hjoined hends
  rw [plainFeed, hcontent]
  exact ⟨.plain, hcrc⟩

private theorem decodes_of_deflatedFeed {h : Header} {stored : ByteArray}
    (hends : (deflatedFeed h stored).endsWell = true) :
    Decodes stored 8 (deflatedFeed h stored).content ∧
      (Crc32.ofBytes (deflatedFeed h stored).content).toNat = h.crc := by
  cases complete : (Deflate.Stream.read stored.data.toList).rest with
  | error stop =>
    simp only [deflatedFeed, complete, Feed.endsWell_ofChunks] at hends
    cases hends
  | ok s =>
    have hfeed : deflatedFeed h stored =
        .ofChunks (Deflate.Delivery.ofStream ⟨pieceSize, 0, stored.size⟩
          (Deflate.Stream.read stored.data.toList)).chunks
          (checked h (Deflate.Stream.read stored.data.toList).output) := by
      simp only [deflatedFeed, complete, Deflate.Delivery.bytes_ofStream]
    have hjoined := Deflate.Delivery.joined_chunks_ofStream ⟨pieceSize, 0, stored.size⟩
      (Deflate.Stream.read stored.data.toList) (by simp [complete])
    rw [hfeed] at hends ⊢
    obtain ⟨hcontent, hcrc⟩ := checked_of_endsWell hjoined hends
    rw [hcontent]
    exact ⟨.deflated complete, hcrc⟩

/-- What is delivered of an entry without a failure is what the entry vouches for. -/
theorem attests_of_feed? {h : Header} {stored : ByteArray} {feed : Feed}
    (hfeed : feed? h stored = some feed) (hends : feed.endsWell = true) :
    h.Attests stored feed.content := by
  unfold feed? at hfeed
  split at hfeed
  · cases hfeed
  · rename_i hclear
    have hclear : h.encrypted = false ∧ h.aes = false := by simpa using hclear
    split at hfeed
    · rename_i hmethod
      cases hfeed
      obtain ⟨decoded, checksum⟩ := decodes_of_plainFeed hends
      exact ⟨hclear, hmethod ▸ decoded, checksum⟩
    · rename_i hmethod
      cases hfeed
      obtain ⟨decoded, checksum⟩ := decodes_of_deflatedFeed hends
      exact ⟨hclear, hmethod ▸ decoded, checksum⟩
    · cases hfeed

end Entry

end DmarcReports.Zip
