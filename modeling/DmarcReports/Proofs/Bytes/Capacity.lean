import Mathlib.Logic.Relation
import DmarcReports.Bytes.Bounded

/-!
The room that reading up to a limit reserves.

Main statement: `capacity_of_reached`.
-/

set_option autoImplicit false
set_option relaxedAutoImplicit false

namespace DmarcReports

variable {ε : Type}

namespace Buffer

variable {limit needed : Nat} {b : Buffer}

structure Kept (limit : Nat) (b : Buffer) : Prop where
  size_le_capacity : b.bytes.size ≤ b.capacity
  capacity_le_limit : b.capacity ≤ limit
  capacity_le_double : b.capacity ≤ max reservable (2 * b.bytes.size)

/-- How a buffer grows when so many bytes have to fit. What is reserved on top of its bytes is the
difference to the target, which is no less than they are. -/
structure Grows (limit needed : Nat) (b : Buffer) : Prop where
  needed_le_target : needed ≤ b.target limit needed
  target_le_limit : b.target limit needed ≤ limit
  size_le_target : b.bytes.size ≤ b.target limit needed
  capacity_reserve : (b.reserve limit needed).capacity = b.target limit needed

private theorem kept_start (limit announced : Nat) : (start limit announced).Kept limit where
  size_le_capacity := by simp [start]
  capacity_le_limit := by
    simp only [start]
    omega
  capacity_le_double := by
    simp only [start]
    omega

private theorem reserve_of_le (h : needed ≤ b.capacity) : b.reserve limit needed = b :=
  if_neg (Nat.not_lt_of_le h)

private theorem target_le_double (h : b.capacity < needed) :
    b.target limit needed ≤ 2 * needed := by
  unfold target
  omega

private theorem Kept.grows (h : b.Kept limit) (hlimit : needed ≤ limit)
    (hgrow : b.capacity < needed) :
    b.Grows limit needed := by
  have hneeded : needed ≤ b.target limit needed := by
    unfold target
    omega
  have hsize : b.bytes.size ≤ b.target limit needed := by
    have hroom := h.size_le_capacity
    omega
  refine ⟨hneeded, Nat.min_le_right _ _, hsize, ?_⟩
  rw [reserve, if_pos hgrow]
  dsimp only
  omega

theorem Kept.add {chunk : ByteArray} (h : b.Kept limit)
    (hfits : b.bytes.size + chunk.size ≤ limit) : (b.add limit chunk).Kept limit := by
  have hsize : (b.add limit chunk).bytes.size = b.bytes.size + chunk.size := by
    rw [bytes_add, ByteArray.size_append]
  have hcapacity : (b.add limit chunk).capacity =
      (b.reserve limit (b.bytes.size + chunk.size)).capacity := rfl
  -- Either the chunk makes the buffer grow, or it finds room in the buffer as it is.
  rcases Nat.lt_or_ge b.capacity (b.bytes.size + chunk.size) with hgrow | hroom
  · have hgrows := h.grows hfits hgrow
    have hdouble : b.target limit (b.bytes.size + chunk.size) ≤ 2 * (b.bytes.size + chunk.size) :=
      target_le_double hgrow
    rw [hgrows.capacity_reserve] at hcapacity
    exact {
      size_le_capacity := by
        have hneeded := hgrows.needed_le_target
        omega
      capacity_le_limit := by
        have hlimit := hgrows.target_le_limit
        omega
      capacity_le_double := by omega }
  · rw [reserve_of_le hroom] at hcapacity
    exact {
      size_le_capacity := by omega
      capacity_le_limit := by
        have hlimit := h.capacity_le_limit
        omega
      capacity_le_double := by
        have hdouble := h.capacity_le_double
        omega }

end Buffer

namespace BoundedRead

inductive Round (limit : Nat) : Buffer × Feed ε → Buffer × Feed ε → Prop
  | add {b : Buffer} {bytes : ByteArray} {rest : Feed ε}
      (fits : b.bytes.size + bytes.size ≤ limit) :
      Round limit (b, .chunk bytes rest) (b.add limit bytes, rest)
  | again {b : Buffer} {rest : Feed ε} : Round limit (b, .interrupted rest) (b, rest)

inductive Answer (limit : Nat) : Buffer × Feed ε → BoundedRead ε → Prop
  | exceeded {b : Buffer} {bytes : ByteArray} {rest : Feed ε}
      (passes : limit < b.bytes.size + bytes.size) :
      Answer limit (b, .chunk bytes rest) (.exceeded (b.bytes.size + bytes.size))
  | complete {b : Buffer} : Answer limit (b, .ended) (.complete b.bytes)
  | failed {b : Buffer} {error : ε} : Answer limit (b, .failed error) (.failed error)

/-- Where a read of the announced size comes to, in any number of rounds. -/
def Reached (limit announced : Nat) (feed : Feed ε) : Buffer × Feed ε → Prop :=
  Relation.ReflTransGen (Round limit) (Buffer.start limit announced, feed)

private theorem Round.fill_eq {limit : Nat} {s t : Buffer × Feed ε} (h : Round limit s t) :
    fill limit s.1 s.2 = fill limit t.1 t.2 := by
  cases h with
  | add fits => exact if_neg (Nat.not_lt_of_le fits)
  | again => rfl

private theorem Reached.fill_eq {limit announced : Nat} {feed : Feed ε} {s : Buffer × Feed ε}
    (h : Reached limit announced feed s) : fill limit s.1 s.2 = read limit announced feed := by
  induction h with
  | refl => rfl
  | tail _ hround ih => rw [← hround.fill_eq, ih]

private theorem Answer.fill_eq {limit : Nat} {s : Buffer × Feed ε} {r : BoundedRead ε}
    (h : Answer limit s r) : fill limit s.1 s.2 = r := by
  cases h with
  | exceeded passes => exact if_pos passes
  | complete => rfl
  | failed => rfl

/-- Reading goes on in rounds until it answers. -/
private theorem exists_rounds_answer (limit : Nat) (b : Buffer) (feed : Feed ε) :
    ∃ s, Relation.ReflTransGen (Round limit) (b, feed) s ∧ Answer limit s (fill limit b feed) := by
  induction feed generalizing b with
  | chunk bytes rest ih =>
    rw [fill]
    split
    · rename_i hpasses
      exact ⟨_, .refl, .exceeded hpasses⟩
    · rename_i hfits
      obtain ⟨s, hrounds, hanswer⟩ := ih (b.add limit bytes)
      exact ⟨s, hrounds.head (.add (Nat.le_of_not_lt hfits)), hanswer⟩
  | interrupted rest ih =>
    obtain ⟨s, hrounds, hanswer⟩ := ih b
    exact ⟨s, hrounds.head .again, hanswer⟩
  | ended => exact ⟨_, .refl, .complete⟩
  | failed error => exact ⟨_, .refl, .failed⟩

private theorem read_eq_iff {limit announced : Nat} {feed : Feed ε} {r : BoundedRead ε} :
    read limit announced feed = r ↔ ∃ s, Reached limit announced feed s ∧ Answer limit s r := by
  constructor
  · rintro rfl
    exact exists_rounds_answer limit _ feed
  · rintro ⟨s, hreached, hanswer⟩
    rw [← hreached.fill_eq, hanswer.fill_eq]

theorem Round.kept {limit : Nat} {s t : Buffer × Feed ε} (h : Round limit s t)
    (hkept : s.1.Kept limit) : t.1.Kept limit := by
  cases h with
  | add fits => exact hkept.add fits
  | again => exact hkept

theorem Reached.kept {limit announced : Nat} {feed : Feed ε} {s : Buffer × Feed ε}
    (h : Reached limit announced feed s) : s.1.Kept limit := by
  induction h with
  | refl => exact Buffer.kept_start limit announced
  | tail _ hround ih => exact hround.kept ih

/-- In every round of a read, whatever size is announced and however the content arrives, the buffer
has room for its bytes, none beyond the limit, and no more than the room reserved in advance or twice
what its bytes take. Where a chunk makes it grow, it grows to a target between the bytes that have
arrived and the limit. The rounds are all there is to a read: it answers where they end. -/
theorem capacity_of_reached {limit announced : Nat} {feed rest : Feed ε} {b : Buffer}
    (h : Reached limit announced feed (b, rest)) :
    b.Kept limit ∧
      (∀ bytes behind, rest = .chunk bytes behind → b.bytes.size + bytes.size ≤ limit →
        b.capacity < b.bytes.size + bytes.size → b.Grows limit (b.bytes.size + bytes.size)) ∧
      fill limit b rest = read limit announced feed ∧
      ∃ last, Reached limit announced feed last ∧
        Answer limit last (read limit announced feed) :=
  ⟨h.kept, fun _ _ _ hfits hgrow => h.kept.grows hfits hgrow, h.fill_eq, read_eq_iff.mp rfl⟩

def openTag : Feed :=
  .chunk ⟨#[0x3C, 0x61, 0x3E]⟩ (.interrupted (.chunk ⟨#[0x3C, 0x2F]⟩ .ended))

/-- Under a limit of six, a buffer for two announced bytes doubles to four with the first chunk; with
the second it would double to eight, and gets the six. -/
theorem capacity_of_reached_openTag :
    let b := (Buffer.start 6 2).add 6 ⟨#[0x3C, 0x61, 0x3E]⟩
    Reached 6 2 openTag (b, .chunk ⟨#[0x3C, 0x2F]⟩ .ended) ∧ b.Kept 6 ∧ b.capacity = 4 ∧
      b.Grows 6 5 ∧ (b.reserve 6 5).capacity = 6 := by
  intro b
  have hreached : Reached 6 2 openTag (b, .chunk ⟨#[0x3C, 0x2F]⟩ .ended) :=
    (Relation.ReflTransGen.single (.add (by decide))).tail .again
  obtain ⟨hkept, hgrows, -⟩ := capacity_of_reached hreached
  exact ⟨hreached, hkept, by decide, hgrows _ _ rfl (by decide) (by decide), by decide⟩

end BoundedRead

end DmarcReports
