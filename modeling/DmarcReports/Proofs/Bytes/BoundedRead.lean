import DmarcReports.Bytes.Bounded

/-!
What reading up to a limit comes to.

Only the content of a feed and the way it stops count. Main statement: `read_by_content`.
-/

set_option autoImplicit false
set_option relaxedAutoImplicit false

namespace DmarcReports

variable {ε : Type}

namespace Feed

def chunks : Feed ε → List ByteArray
  | chunk bytes rest => bytes :: rest.chunks
  | interrupted rest => rest.chunks
  | ended | failed _ => []

/-- Every read that succeeds delivers something, and no more than it has room for. -/
def Measured (feed : Feed ε) : Prop :=
  ∀ c ∈ feed.chunks, 0 < c.size ∧ c.size ≤ readSize

instance (feed : Feed ε) : Decidable feed.Measured :=
  inferInstanceAs (Decidable (∀ c ∈ feed.chunks, 0 < c.size ∧ c.size ≤ readSize))

/-- The feed without the reads that have to be tried again. -/
def steady : Feed ε → Feed ε
  | chunk bytes rest => chunk bytes rest.steady
  | interrupted rest => rest.steady
  | ended => ended
  | failed error => failed error

end Feed

namespace BoundedRead

/-- What was read, or the error that reading failed with; nothing if the limit was passed. -/
def withinLimit? : BoundedRead ε → Option (Except ε ByteArray)
  | complete bytes => some (.ok bytes)
  | exceeded _ => none
  | failed error => some (.error error)

private theorem fill_eq_of_le {limit : Nat} {feed : Feed ε} {b : Buffer}
    (h : b.bytes.size + feed.content.size ≤ limit) :
    fill limit b feed = feed.error?.elim (complete (b.bytes ++ feed.content)) failed := by
  induction feed generalizing b with
  | chunk bytes rest ih =>
    rw [Feed.content, ByteArray.size_append] at h
    have hrest : (b.add limit bytes).bytes.size + rest.content.size ≤ limit := by
      rw [Buffer.bytes_add, ByteArray.size_append]
      omega
    rw [fill, if_neg (by omega), ih hrest, Buffer.bytes_add, ByteArray.append_assoc]
    rfl
  | interrupted rest ih => exact ih h
  | ended => simp [fill, Feed.content, Feed.error?]
  | failed error => rfl

/-- Otherwise reading stops, before it comes to how the feed stops. It stops at the first chunk that
passes the limit. -/
private theorem fill_eq_of_lt {limit : Nat} {feed : Feed ε} {b : Buffer} (hb : b.bytes.size ≤ limit)
    (h : limit < b.bytes.size + feed.content.size) :
    ∃ produced, fill limit b feed = exceeded produced ∧ limit < produced ∧
      produced ≤ b.bytes.size + feed.content.size ∧
      ∃ c ∈ feed.chunks, produced ≤ limit + c.size := by
  induction feed generalizing b with
  | chunk bytes rest ih =>
    rw [Feed.content, ByteArray.size_append] at h ⊢
    rw [fill]
    -- Either this chunk passes the limit, or the rest does with the buffer still within it.
    split
    · rename_i hchunk
      exact ⟨_, rfl, hchunk, by omega, bytes, List.mem_cons_self, by omega⟩
    · have hsize : (b.add limit bytes).bytes.size = b.bytes.size + bytes.size := by
        rw [Buffer.bytes_add, ByteArray.size_append]
      obtain ⟨produced, hfill, hlimit, hall, c, hc, hlast⟩ :=
        ih (b := b.add limit bytes) (by omega) (by omega)
      exact ⟨produced, hfill, hlimit, by omega, c, List.mem_cons_of_mem _ hc, hlast⟩
  | interrupted rest ih => exact ih hb h
  | ended =>
    simp only [Feed.content, ByteArray.size_empty] at h
    omega
  | failed =>
    simp only [Feed.content, ByteArray.size_empty] at h
    omega

/-- Interruptions make no difference, and neither does the room that is reserved. -/
private theorem fill_steady {limit : Nat} {feed : Feed ε} {b b' : Buffer} (h : b.bytes = b'.bytes) :
    fill limit b feed.steady = fill limit b' feed := by
  induction feed generalizing b b' with
  | chunk bytes rest ih =>
    have hadd : (b.add limit bytes).bytes = (b'.add limit bytes).bytes := by
      rw [Buffer.bytes_add, Buffer.bytes_add, h]
    rw [Feed.steady, fill, fill, h, ih hadd]
  | interrupted rest ih => exact ih h
  | ended => rw [Feed.steady, fill, fill, h]
  | failed error => rfl

theorem read_eq_of_le {limit : Nat} {feed : Feed ε} (announced : Nat)
    (h : feed.content.size ≤ limit) :
    read limit announced feed = feed.error?.elim (complete feed.content) failed := by
  unfold read
  rw [fill_eq_of_le (by simpa [Buffer.start] using h)]
  simp [Buffer.start]

theorem read_eq_of_lt {limit : Nat} {feed : Feed ε} (announced : Nat)
    (h : limit < feed.content.size) :
    ∃ produced, read limit announced feed = exceeded produced ∧ limit < produced ∧
      produced ≤ feed.content.size ∧ ∃ c ∈ feed.chunks, produced ≤ limit + c.size := by
  have hstart := fill_eq_of_lt (b := Buffer.start limit announced) (by simp [Buffer.start])
    (by simpa [Buffer.start] using h)
  simpa [Buffer.start, read] using hstart

private theorem read_steady (limit announced announced' : Nat) (feed : Feed ε) :
    read limit announced feed.steady = read limit announced' feed :=
  fill_steady rfl

private theorem withinLimit?_read (limit announced : Nat) (feed : Feed ε) :
    (read limit announced feed).withinLimit? =
      if limit < feed.content.size then none
      else some (feed.error?.elim (.ok feed.content) .error) := by
  split
  · rename_i h
    obtain ⟨produced, hread, -⟩ := read_eq_of_lt announced h
    rw [hread, withinLimit?]
  · rename_i h
    rw [read_eq_of_le announced (Nat.le_of_not_lt h)]
    cases feed.error? <;> rfl

/-- What the content of a feed and its stop tell of reading it up to a limit. -/
structure Follows (limit : Nat) (feed : Feed ε) (r : BoundedRead ε) : Prop where
  exceeded : (∃ produced, r = .exceeded produced) ↔ limit < feed.content.size
  produced : ∀ produced, r = .exceeded produced →
    limit < produced ∧ produced ≤ limit + Feed.readSize ∧ produced ≤ feed.content.size
  complete : ∀ bytes, r = .complete bytes ↔
    feed.content.size ≤ limit ∧ feed.error? = none ∧ bytes = feed.content
  failed : ∀ error, r = .failed error ↔ feed.content.size ≤ limit ∧ feed.error? = some error

private theorem follows_of_lt {limit : Nat} {feed : Feed ε} (hmeasured : feed.Measured)
    (announced : Nat) (h : limit < feed.content.size) :
    Follows limit feed (read limit announced feed) := by
  obtain ⟨produced, hread, hlimit, hall, c, hc, hlast⟩ := read_eq_of_lt announced h
  have hsize := (hmeasured c hc).2
  rw [hread]
  exact {
    exceeded := iff_of_true ⟨produced, rfl⟩ h
    produced := by
      rintro _ ⟨⟩
      exact ⟨hlimit, by omega, hall⟩
    complete := fun bytes => iff_of_false nofun fun hle => by omega
    failed := fun error => iff_of_false nofun fun hle => by omega }

private theorem follows_of_le {limit : Nat} {feed : Feed ε} (announced : Nat)
    (h : feed.content.size ≤ limit) : Follows limit feed (read limit announced feed) := by
  rw [read_eq_of_le announced h]
  cases herror : feed.error? with
  | none => exact {
      exceeded := iff_of_false nofun (Nat.not_lt_of_le h)
      produced := nofun
      complete := fun bytes => by simp [h, herror, eq_comm]
      failed := fun error => by simp [herror] }
  | some e => exact {
      exceeded := iff_of_false nofun (Nat.not_lt_of_le h)
      produced := nofun
      complete := fun bytes => by simp [herror]
      failed := fun error => by simp [h, herror] }

/-- Reading stops at the limit just when the content passes it, and at most one read behind it;
otherwise it delivers all of the content, or the error that the feed stops with. What is announced
and what has to be tried again make no difference at all, and how the content is cut into chunks
makes none but to the number of bytes that had arrived when the limit was passed. -/
theorem read_by_content {limit : Nat} {feed : Feed ε} (hmeasured : feed.Measured)
    (announced : Nat) :
    Follows limit feed (read limit announced feed) ∧
      (∀ (announced' : Nat) (feed' : Feed ε), feed'.steady = feed.steady →
        read limit announced' feed' = read limit announced feed) ∧
      ∀ (announced' : Nat) (feed' : Feed ε), feed'.content = feed.content →
        feed'.error? = feed.error? →
        (read limit announced' feed').withinLimit? =
          (read limit announced feed).withinLimit? := by
  refine ⟨?_, fun announced' feed' hsteady => ?_, fun announced' feed' hcontent herror => ?_⟩
  · rcases Nat.lt_or_ge limit feed.content.size with h | h
    · exact follows_of_lt hmeasured announced h
    · exact follows_of_le announced h
  · rw [← read_steady limit announced', ← read_steady limit announced' announced feed, hsteady]
  · rw [withinLimit?_read, withinLimit?_read, hcontent, herror]

/-- Five bytes with an interruption among them and a failure right behind them. -/
def brokenTag : Feed String :=
  .chunk ⟨#[0x3C, 0x61]⟩ (.interrupted (.chunk ⟨#[0x2F, 0x3E, 0x0A]⟩ (.failed "reset")))

def brokenTagAtOnce : Feed String :=
  .chunk ⟨#[0x3C, 0x61, 0x2F, 0x3E, 0x0A]⟩ (.failed "reset")

/-- A limit of four bytes, in the middle of a chunk, is passed before the failure is met; with one of
five it is the failure that counts, however the bytes are cut. -/
theorem read_by_content_brokenTag :
    brokenTag.Measured ∧ (∃ produced, read 4 0 brokenTag = exceeded produced) ∧
      read 5 7 brokenTag = failed "reset" ∧
      (read 5 0 brokenTagAtOnce).withinLimit? = some (.error "reset") := by
  have hmeasured : brokenTag.Measured := by decide
  obtain ⟨hpassed, -, -⟩ := @read_by_content _ 4 brokenTag hmeasured 0
  obtain ⟨hfits, -, hcut⟩ := @read_by_content _ 5 brokenTag hmeasured 7
  have hread : read 5 7 brokenTag = failed "reset" := (hfits.failed "reset").mpr (by decide)
  have hcontent : brokenTagAtOnce.content = brokenTag.content := by decide
  refine ⟨hmeasured, hpassed.exceeded.mpr (by decide), hread, ?_⟩
  rw [hcut 0 brokenTagAtOnce hcontent rfl, hread]
  rfl

end BoundedRead

end DmarcReports
