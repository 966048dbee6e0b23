import DmarcReports.Gzip
import DmarcReports.Proofs.Deflate.Output

/-!
What a GZIP stream holds: the outputs of its members, one after the other.

A stream is delivered without a failure only if all of its bytes make up complete members.
-/

set_option autoImplicit false
set_option relaxedAutoImplicit false

namespace DmarcReports.Gzip

/-- That bytes start with a complete member of this content, and what follows it. -/
inductive Member (bs : List UInt8) : ByteArray → List UInt8 → Prop
  | intro {body behind : Place} {s : Deflate.Bits}
      (header : behindHeader? bs = some body)
      (stream : (Deflate.Stream.read body.rest).rest = .ok s)
      (trailer : Place.skipTrailer? (Deflate.Stream.read body.rest).output
        ⟨body.passed + s.align.read / 8, s.align.rest⟩ = some behind) :
      Member bs (Deflate.Stream.read body.rest).output behind.rest

inductive Holds : List UInt8 → ByteArray → Prop
  | last {bs : List UInt8} {content : ByteArray} (member : Member bs content []) :
      Holds bs content
  | more {bs : List UInt8} {content others : ByteArray} {b : UInt8} {rest : List UInt8}
      (member : Member bs content (b :: rest)) (holds : Holds (b :: rest) others) :
      Holds bs (content ++ others)

theorem Member.unique {bs rest rest' : List UInt8} {content content' : ByteArray}
    (h : Member bs content rest) (h' : Member bs content' rest') :
    content = content' ∧ rest = rest' := by
  obtain ⟨header, stream, trailer⟩ := h
  obtain ⟨header', stream', trailer'⟩ := h'
  obtain rfl := Option.some.inj (header.symm.trans header')
  obtain rfl := Except.ok.inj (stream.symm.trans stream')
  obtain rfl := Option.some.inj (trailer.symm.trans trailer')
  exact ⟨rfl, rfl⟩

/-- Bytes hold one content at most. -/
theorem Holds.unique {bs : List UInt8} {content content' : ByteArray} (h : Holds bs content)
    (h' : Holds bs content') : content = content' := by
  induction h generalizing content' with
  | last member =>
    cases h' with
    | last member' => exact (member.unique member').1
    | more member' holds' =>
      obtain ⟨-, hrest⟩ := member.unique member'
      cases hrest
  | more member holds ih =>
    cases h' with
    | last member' =>
      obtain ⟨-, hrest⟩ := member.unique member'
      cases hrest
    | more member' holds' =>
      obtain ⟨rfl, hrest⟩ := member.unique member'
      cases hrest
      rw [ih holds']

private theorem holds_of_members (total rounds origin : Nat) (bs : List UInt8)
    (h : (members total rounds origin bs).endsWell = true) :
    Holds bs (members total rounds origin bs).content := by
  induction rounds generalizing origin bs with
  | zero => cases h
  | succ rounds ih =>
    unfold members at h ⊢
    cases header : behindHeader? bs with
    | none =>
      rw [header] at h
      cases h
    | some body =>
      simp only [header, Feed.endsWell_ofChunks, Feed.content_ofChunks,
        Deflate.Delivery.bytes_ofStream] at h ⊢
      cases stream : (Deflate.Stream.read body.rest).rest with
      | error stop =>
        rw [stream] at h
        cases h
      | ok s =>
        rw [Deflate.Delivery.joined_chunks_ofStream _ _ (by simp [stream])]
        simp only [stream] at h ⊢
        cases trailer : Place.skipTrailer? (Deflate.Stream.read body.rest).output
            ⟨body.passed + s.align.read / 8, s.align.rest⟩ with
        | none =>
          rw [trailer] at h
          cases h
        | some behind =>
          have member : Member bs (Deflate.Stream.read body.rest).output behind.rest :=
            .intro header stream trailer
          rw [trailer] at h
          obtain ⟨passed, rest⟩ := behind
          -- The last member is the one with nothing behind it.
          cases rest with
          | nil => simpa only [Feed.content, ByteArray.append_empty] using Holds.last member
          | cons b rest => exact .more member (ih _ _ h)

/-- A GZIP stream that is delivered without a failure holds what is delivered. -/
theorem holds_of_feed (bytes : ByteArray) (h : (feed bytes).endsWell = true) :
    Holds bytes.data.toList (feed bytes).content :=
  holds_of_members _ _ _ _ h

end DmarcReports.Gzip
