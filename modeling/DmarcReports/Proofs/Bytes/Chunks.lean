import DmarcReports.Bytes.Feed

/-!
Chunks put together.

Bytes that are delivered in runs, each run in chunks, come to the bytes from the first start to the
last stop.
-/

set_option autoImplicit false
set_option relaxedAutoImplicit false

namespace DmarcReports.Feed

variable {ε : Type}

def joined (chunks : List ByteArray) : ByteArray :=
  chunks.foldr (· ++ ·) .empty

private theorem joined_append (as bs : List ByteArray) :
    joined (as ++ bs) = joined as ++ joined bs := by
  induction as with
  | nil => exact ByteArray.empty_append.symm
  | cons a as ih =>
    unfold joined at ih ⊢
    rw [List.cons_append, List.foldr_cons, ih, List.foldr_cons, ByteArray.append_assoc]

theorem content_ofChunks (chunks : List ByteArray) (rest : Feed ε) :
    (ofChunks chunks rest).content = joined chunks ++ rest.content := by
  induction chunks with
  | nil => exact ByteArray.empty_append.symm
  | cons c chunks ih =>
    unfold joined
    rw [List.foldr_cons, ByteArray.append_assoc]
    exact congrArg (c ++ ·) ih

theorem endsWell_ofChunks (chunks : List ByteArray) (rest : Feed ε) :
    (ofChunks chunks rest).endsWell = rest.endsWell := by
  induction chunks with
  | nil => rfl
  | cons c chunks ih => exact ih

private theorem joined_spans (bytes : ByteArray) (start stop count : Nat) (h : start ≤ stop) :
    joined ((List.range count).map fun i =>
        bytes.extract (start + i * readSize) (min (start + (i + 1) * readSize) stop)) =
      bytes.extract start (min (start + count * readSize) stop) := by
  induction count with
  | zero =>
    rw [Nat.zero_mul, Nat.add_zero, Nat.min_eq_left h, ByteArray.extract_same]
    rfl
  | succ count ih =>
    rw [List.range_succ, List.map_append, joined_append, ih]
    simp only [List.map_cons, List.map_nil, joined, List.foldr_cons, List.foldr_nil,
      ByteArray.append_empty]
    -- Chunks that would start behind the stop are empty.
    by_cases hspan : start + count * readSize ≤ stop
    · rw [Nat.min_eq_left hspan]
      refine (ByteArray.extract_eq_extract_append_extract _ (by omega) ?_).symm
      rw [Nat.succ_mul]
      omega
    · have hempty : bytes.extract (start + count * readSize)
          (min (start + (count + 1) * readSize) stop) = .empty := by
        rw [ByteArray.extract_eq_empty_iff]
        omega
      rw [hempty, ByteArray.append_empty, Nat.min_eq_right (by omega), Nat.min_eq_right]
      rw [Nat.succ_mul]
      omega

theorem joined_chunksBetween (bytes : ByteArray) {start stop : Nat} (h : start ≤ stop) :
    joined (chunksBetween bytes start stop) = bytes.extract start stop := by
  unfold chunksBetween
  rw [joined_spans bytes start stop _ h, Nat.min_eq_right]
  simp only [readSize]
  omega

theorem joined_runs (bytes : ByteArray) (start : Nat) (stops : List Nat)
    (h : (start :: stops).Pairwise (· ≤ ·)) :
    joined (((start :: stops).zip stops).flatMap fun r => chunksBetween bytes r.1 r.2) =
      bytes.extract start (stops.getLastD start) := by
  induction stops generalizing start with
  | nil =>
    rw [List.getLastD_nil, ByteArray.extract_same]
    rfl
  | cons stop stops ih =>
    obtain ⟨hstart, hrest⟩ := List.pairwise_cons.mp h
    rw [List.zip_cons_cons, List.flatMap_cons, joined_append, ih stop hrest,
      joined_chunksBetween bytes (hstart stop List.mem_cons_self), List.getLastD_cons]
    refine (ByteArray.extract_eq_extract_append_extract _ (hstart stop List.mem_cons_self) ?_).symm
    cases stops with
    | nil => exact Nat.le_refl _
    | cons s stops =>
      rw [List.getLastD_cons]
      exact (List.pairwise_cons.mp hrest).1 _ (List.getLastD_mem_cons ..)

end DmarcReports.Feed
