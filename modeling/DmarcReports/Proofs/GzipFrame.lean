import Mathlib.Data.List.TakeDrop
import DmarcReports.Proofs.Deflate.Frame
import DmarcReports.Proofs.GzipContent

/-!
Members of a GZIP stream, whatever follows them.

Main statements: `Holds.append`, `members_of_holds`.
-/

set_option autoImplicit false
set_option relaxedAutoImplicit false

namespace DmarcReports.Gzip

namespace Place

def followedBy (p : Place) (more : List UInt8) : Place := { p with rest := p.rest ++ more }

/-- That what is passed and what follows make up the bytes of a member. -/
def Within (p : Place) (member : List UInt8) : Prop :=
  p.passed + p.rest.length = member.length

structure Behind (member : List UInt8) (p q : Place) : Prop where
  within : q.Within member
  length_le : q.rest.length ≤ p.rest.length

/-- That a field of a member is passed without a look at what is behind it. -/
def Local (field : List UInt8 → Place → Option Place) : Prop :=
  ∀ (member : List UInt8) (p q : Place), p.Within member → field member p = some q →
    Behind member p q ∧
      ∀ more, field (member ++ more) (p.followedBy more) = some (q.followedBy more)

theorem Within.behind {member between bs : List UInt8} {p : Place} (h : p.Within member)
    (hrest : p.rest = between ++ bs) : Behind member p ⟨p.passed + between.length, bs⟩ := by
  have hlength : p.rest.length = between.length + bs.length := by
    rw [hrest, List.length_append]
  unfold Within at h
  refine ⟨?_, ?_⟩
  · show p.passed + between.length + bs.length = member.length
    omega
  · show bs.length ≤ p.rest.length
    omega

theorem Behind.trans {member : List UInt8} {p q r : Place} (hpq : Behind member p q)
    (hqr : Behind member q r) : Behind member p r :=
  ⟨hqr.within, Nat.le_trans hqr.length_le hpq.length_le⟩

private theorem skip?_eq_some_iff {n : Nat} {p q : Place} :
    skip? n p = some q ↔ n ≤ p.rest.length ∧ q = ⟨p.passed + n, p.rest.drop n⟩ := by
  induction n generalizing p with
  | zero => simp [skip?, eq_comm]
  | succ n ih =>
    obtain ⟨passed, rest⟩ := p
    cases rest with
    | nil => simp [skip?]
    | cons b bs =>
      have hpassed : passed + 1 + n = passed + (n + 1) := by omega
      simp only [skip?, ih, hpassed, List.length_cons, List.drop_succ_cons, Nat.add_le_add_iff_right]

private theorem skip?_followedBy {n : Nat} {p q : Place} (h : skip? n p = some q)
    (more : List UInt8) :
    skip? n (p.followedBy more) = some (q.followedBy more) := by
  obtain ⟨hle, rfl⟩ := skip?_eq_some_iff.mp h
  refine skip?_eq_some_iff.mpr ⟨?_, ?_⟩
  · simp only [followedBy, List.length_append]
    omega
  · simp only [followedBy, List.drop_append_of_le_length hle]

theorem Local.bind {f g : List UInt8 → Place → Option Place} (hf : Local f) (hg : Local g) :
    Local fun member p => f member p >>= g member := by
  intro member p r hwithin h
  obtain ⟨q, hfirst, hsecond⟩ := Option.bind_eq_some_iff.mp h
  obtain ⟨hbehind, hmore⟩ := hf member p q hwithin hfirst
  obtain ⟨hbehind', hmore'⟩ := hg member q r hbehind.within hsecond
  refine ⟨hbehind.trans hbehind', ?_⟩
  intro more
  simp only [hmore more]
  exact hmore' more

theorem Local.skipIf? {field : List UInt8 → Place → Option Place} (hfield : Local field)
    (flags : UInt8) (bit : Nat) :
    Local fun member p => Place.skipIf? flags bit (field member) p := by
  intro member p q hwithin h
  unfold Place.skipIf? at h ⊢
  by_cases hbit : flags.toNat.testBit bit
  · simp only [if_pos hbit] at h ⊢
    exact hfield member p q hwithin h
  · simp only [if_neg hbit] at h ⊢
    cases h
    exact ⟨⟨hwithin, Nat.le_refl _⟩, fun _ => rfl⟩

private theorem local_skip? (n : Nat) : Local fun _ => skip? n := by
  intro member p q hwithin h
  refine ⟨?_, skip?_followedBy h⟩
  obtain ⟨hle, rfl⟩ := skip?_eq_some_iff.mp h
  have hbehind := hwithin.behind (List.take_append_drop n p.rest).symm
  rw [List.length_take_of_le hle] at hbehind
  exact hbehind

private theorem local_skipSized? : Local fun _ => skipSized? := by
  intro member p q hwithin h
  obtain ⟨passed, rest⟩ := p
  have h : skipSized? ⟨passed, rest⟩ = some q := h
  unfold skipSized? at h
  split at h
  · rename_i low high bs hrest
    obtain rfl : rest = low :: high :: bs := hrest
    have hpair : low :: high :: bs = [low, high] ++ bs := rfl
    have hlength : Behind member _ ⟨passed + 2, bs⟩ := hwithin.behind hpair
    obtain ⟨hcontent, hmore⟩ := local_skip? _ member _ q hlength.within h
    exact ⟨hlength.trans hcontent, hmore⟩
  · cases h

private theorem eq_append_of_span {p : UInt8 → Bool} {bs text rest : List UInt8}
    (h : bs.span p = (text, rest)) : bs = text ++ rest := by
  rw [List.span_eq_takeWhile_dropWhile] at h
  obtain ⟨rfl, rfl⟩ := Prod.mk.inj h
  exact List.takeWhile_append_dropWhile.symm

private theorem span_append_of_span {p : UInt8 → Bool} {bs text rest : List UInt8} {b : UInt8}
    (h : bs.span p = (text, b :: rest)) (more : List UInt8) :
    (bs ++ more).span p = (text, b :: (rest ++ more)) := by
  have hlength := congrArg List.length (eq_append_of_span h)
  rw [List.length_append, List.length_cons] at hlength
  rw [List.span_eq_takeWhile_dropWhile] at h ⊢
  obtain ⟨htext, hrest⟩ := Prod.mk.inj h
  have hstops : (bs.takeWhile p).length ≠ bs.length := by
    rw [htext]
    omega
  rw [List.takeWhile_append, if_neg hstops, List.dropWhile_append, hrest, htext]
  rfl

private theorem local_skipText? : Local fun _ => skipText? := by
  intro member p q hwithin h
  obtain ⟨passed, rest⟩ := p
  have h : skipText? ⟨passed, rest⟩ = some q := h
  unfold skipText? at h
  split at h
  · rename_i text zero bs hspan
    split at h
    · rename_i hlength
      cases h
      have hrest : rest = (text ++ [zero]) ++ bs := by
        rw [List.append_assoc]
        exact eq_append_of_span hspan
      have hbehind := hwithin.behind hrest
      rw [List.length_append] at hbehind
      refine ⟨hbehind, ?_⟩
      intro more
      simp only [skipText?, followedBy, span_append_of_span hspan more, if_pos hlength]
    · cases h
  · cases h

private theorem local_skipSum? : Local skipSum? := by
  intro member p q hwithin h
  obtain ⟨passed, rest⟩ := p
  unfold skipSum? at h
  split at h
  · rename_i low high bs hrest
    obtain rfl : rest = low :: high :: bs := hrest
    split at h
    · rename_i hsum
      cases h
      have hpair : low :: high :: bs = [low, high] ++ bs := rfl
      refine ⟨hwithin.behind hpair, ?_⟩
      intro more
      -- The bytes that are summed up are those of the member alone.
      have htake : (member ++ more).take passed = member.take passed :=
        List.take_append_of_le_length (Nat.le.intro hwithin)
      simp only [skipSum?, followedBy, List.cons_append, htake, if_pos hsum]
    · cases h
  · cases h

private theorem skipTrailer?_followedBy {content : ByteArray} {p q : Place}
    (h : skipTrailer? content p = some q) (more : List UInt8) :
    skipTrailer? content (p.followedBy more) = some (q.followedBy more) := by
  unfold skipTrailer? at h ⊢
  split at h
  · rename_i htrailer
    obtain ⟨hle, -⟩ := skip?_eq_some_iff.mp h
    have hsum : (p.followedBy more).rest.take 4 = p.rest.take 4 :=
      List.take_append_of_le_length (by omega)
    have hsize : ((p.followedBy more).rest.drop 4).take 4 = (p.rest.drop 4).take 4 := by
      simp only [followedBy]
      rw [List.drop_append_of_le_length (by omega), List.take_append_of_le_length]
      rw [List.length_drop]
      omega
    rw [hsum, hsize, if_pos htrailer]
    exact skip?_followedBy h more
  · cases h

private theorem length_le_of_skipTrailer? {content : ByteArray} {p q : Place}
    (h : skipTrailer? content p = some q) : q.rest.length ≤ p.rest.length := by
  unfold skipTrailer? at h
  split at h
  · obtain ⟨-, rfl⟩ := skip?_eq_some_iff.mp h
    rw [List.length_drop]
    omega
  · cases h

def skipFields? (flags : UInt8) (member : List UInt8) (p : Place) : Option Place := do
  let p ← p.skip? 6
  let p ← p.skipIf? flags 2 skipSized?
  let p ← p.skipIf? flags 3 skipText?
  let p ← p.skipIf? flags 4 skipText?
  p.skipIf? flags 1 (skipSum? member)

private theorem local_skipFields? (flags : UInt8) : Local (skipFields? flags) := by
  apply (local_skip? 6).bind
  apply (local_skipSized?.skipIf? flags 2).bind
  apply (local_skipText?.skipIf? flags 3).bind
  apply (local_skipText?.skipIf? flags 4).bind
  exact local_skipSum?.skipIf? flags 1

end Place

private theorem behindHeader?_eq_some_iff {bs : List UInt8} {p : Place} :
    behindHeader? bs = some p ↔ ∃ flags rest, bs = 0x1F :: 0x8B :: 8 :: flags :: rest ∧
      flags &&& 0xE0 = 0 ∧ Place.skipFields? flags bs ⟨4, rest⟩ = some p := by
  constructor
  · intro h
    unfold behindHeader? at h
    split at h
    · rename_i flags rest
      split at h
      · cases h
      · rename_i hflags
        exact ⟨flags, rest, rfl, not_not.mp hflags, h⟩
    · cases h
  · rintro ⟨flags, rest, rfl, hflags, h⟩
    simp only [behindHeader?, hflags, ne_eq, not_true_eq_false, if_false]
    exact h

private theorem behindHeader?_append {bs : List UInt8} {p : Place} (h : behindHeader? bs = some p) :
    p.rest.length < bs.length ∧
      ∀ more, behindHeader? (bs ++ more) = some (p.followedBy more) := by
  obtain ⟨flags, rest, hbs, hflags, hfields⟩ := behindHeader?_eq_some_iff.mp h
  have hwithin : Place.Within ⟨4, rest⟩ bs := by
    unfold Place.Within
    rw [hbs]
    simp only [List.length_cons]
    omega
  obtain ⟨⟨-, hle⟩, hmore⟩ := Place.local_skipFields? flags bs _ p hwithin hfields
  refine ⟨?_, ?_⟩
  · rw [hbs]
    simp only [List.length_cons] at hle ⊢
    omega
  · intro more
    refine behindHeader?_eq_some_iff.mpr ⟨flags, rest ++ more, ?_, hflags, hmore more⟩
    rw [hbs]
    rfl

theorem Member.append {bs rest : List UInt8} {content : ByteArray} (h : Member bs content rest)
    (more : List UInt8) : Member (bs ++ more) content (rest ++ more) := by
  obtain ⟨header, stream, trailer⟩ := h
  rename_i body behind s
  have header' := (behindHeader?_append header).2 more
  obtain ⟨hpasses, hread⟩ := Deflate.Stream.read_append stream
  have houtput : (Deflate.Stream.read (body.followedBy more).rest).output =
      (Deflate.Stream.read body.rest).output := by
    simp only [Place.followedBy, hread more]
    rfl
  have stream' : (Deflate.Stream.read (body.followedBy more).rest).rest =
      .ok (s.followedBy more) := by
    simp only [Place.followedBy, hread more]
  have trailer' : Place.skipTrailer? (Deflate.Stream.read (body.followedBy more).rest).output
      ⟨(body.followedBy more).passed + (s.followedBy more).align.read / 8,
        (s.followedBy more).align.rest⟩ = some (behind.followedBy more) := by
    rw [houtput, Deflate.Bits.align_followedBy hpasses.fits]
    exact Place.skipTrailer?_followedBy trailer more
  rw [← houtput]
  exact .intro header' stream' trailer'

private theorem Member.header? {bs rest : List UInt8} {content : ByteArray}
    (h : Member bs content rest) : ∃ body, behindHeader? bs = some body := by
  obtain ⟨header, -, -⟩ := h
  exact ⟨_, header⟩

private theorem Member.length_lt {bs rest : List UInt8} {content : ByteArray}
    (h : Member bs content rest) : rest.length < bs.length := by
  obtain ⟨header, stream, trailer⟩ := h
  rename_i body behind s
  have hheader := (behindHeader?_append header).1
  have hpasses := (Deflate.Stream.read_append stream).1
  have hstream := (hpasses.trans (Deflate.Bits.passes_align hpasses.fits)).suffix.length_le
  have htrailer := Place.length_le_of_skipTrailer? trailer
  simp only at hstream htrailer
  omega

theorem Holds.append {a b : List UInt8} {x y : ByteArray} (ha : Holds a x) (hb : Holds b y) :
    Holds (a ++ b) (x ++ y) := by
  induction ha with
  | last member =>
    have hmember := member.append b
    cases b with
    | nil =>
      cases hb with
      | last empty => exact absurd empty.length_lt (Nat.lt_irrefl _)
      | more empty => exact absurd empty.length_lt (Nat.not_lt_zero _)
    | cons c b => exact .more hmember hb
  | more member holds ih =>
    rw [ByteArray.append_assoc]
    exact .more (member.append b) ih

private theorem members_of_member {bs rest : List UInt8} {content : ByteArray}
    (h : Member bs content rest) (total rounds origin : Nat) :
    ∃ chunks passed, Feed.joined chunks = content ∧
      members total (rounds + 1) origin bs = .ofChunks chunks (match rest with
        | [] => .ended
        | rest => members total rounds (origin + passed) rest) := by
  obtain ⟨header, stream, trailer⟩ := h
  rename_i body behind s
  obtain ⟨passed, rest⟩ := behind
  refine ⟨(Deflate.Delivery.ofStream ⟨pieceSize, origin + body.passed, total⟩
    (Deflate.Stream.read body.rest)).chunks, passed, ?_, ?_⟩
  · apply Deflate.Delivery.joined_chunks_ofStream
    intro read
    rw [stream]
    simp
  · simp only [members, header, stream, Deflate.Delivery.bytes_ofStream, trailer]
    cases rest with
    | nil => rfl
    | cons b rest => rfl

/-- What bytes hold is delivered of them without a failure. -/
theorem members_of_holds {bs : List UInt8} {content : ByteArray} (h : Holds bs content)
    (total rounds origin : Nat) (hrounds : bs.length < rounds) :
    (members total rounds origin bs).endsWell = true ∧
      (members total rounds origin bs).content = content := by
  induction h generalizing rounds origin with
  | last member =>
    obtain ⟨rounds, rfl⟩ : ∃ n, rounds = n + 1 := ⟨rounds - 1, by omega⟩
    obtain ⟨chunks, passed, hjoined, hmembers⟩ := members_of_member member total rounds origin
    rw [hmembers, Feed.endsWell_ofChunks, Feed.content_ofChunks, hjoined]
    exact ⟨rfl, ByteArray.append_empty⟩
  | more member holds ih =>
    obtain ⟨rounds, rfl⟩ : ∃ n, rounds = n + 1 := ⟨rounds - 1, by omega⟩
    obtain ⟨chunks, passed, hjoined, hmembers⟩ := members_of_member member total rounds origin
    have hlength := member.length_lt
    obtain ⟨hends, hcontent⟩ := ih rounds (origin + passed) (by omega)
    rw [hmembers, Feed.endsWell_ofChunks, Feed.content_ofChunks, hjoined, ← hcontent]
    exact ⟨hends, rfl⟩

theorem hasMagic_of_holds {bytes content : ByteArray} (h : Holds bytes.data.toList content) :
    hasMagic bytes = true := by
  obtain ⟨p, hheader⟩ : ∃ p, behindHeader? bytes.data.toList = some p := by
    cases h with
    | last member => exact member.header?
    | more member holds => exact member.header?
  obtain ⟨flags, rest, hbytes, -⟩ := behindHeader?_eq_some_iff.mp hheader
  have hget (i : Nat) : bytes[i]? = bytes.data.toList[i]? := by
    rw [Array.getElem?_toList]
    rfl
  rw [hasMagic, hget, hget, hbytes]
  rfl

end DmarcReports.Gzip
