import DmarcReports.Deflate.Delivery
import DmarcReports.Proofs.Bytes.Chunks

/-!
The output of a compressed stream, and that reads hand it out whole.

Where reads end depends on the window and on how the input arrives; what they hand out together does
not. Main statement: `joined_chunks_ofStream`.
-/

set_option autoImplicit false
set_option relaxedAutoImplicit false

namespace DmarcReports.Deflate

namespace Output

def back (out : ByteArray) (distance : Nat) : UInt8 :=
  if distance ≤ out.size then (out[out.size - distance]?).getD 0 else 0

def repeated (distance : Nat) : Nat → ByteArray → ByteArray
  | 0, out => out
  | n + 1, out => repeated distance n (out.push (back out distance))

end Output

def Token.expand (out : ByteArray) : Token → ByteArray
  | literal b => out.push b
  | copy length distance => Output.repeated distance length out

def Stream.output (s : Stream) : ByteArray :=
  s.tokens.foldl (fun out t => t.1.expand out) .empty

namespace Delivery

/-- Reads end one behind the other, and none behind what is there. -/
structure CutsFit (d : Delivery) : Prop where
  ordered : d.cuts.Pairwise (· ≥ ·)
  within : ∀ c ∈ d.cuts, c ≤ d.bytes.size

private theorem bytes_cut (d : Delivery) : d.cut.bytes = d.bytes := by
  unfold cut
  split <;> rfl

theorem CutsFit.cut {d : Delivery} (h : d.CutsFit) : d.cut.CutsFit := by
  unfold Delivery.cut
  split
  · refine ⟨List.pairwise_cons.mpr ⟨h.within, h.ordered⟩, ?_⟩
    intro c hc
    rcases List.mem_cons.mp hc with rfl | hc
    · exact Nat.le_refl _
    · exact h.within c hc
  · exact h

private theorem bytes_need (s : Supply) (d : Delivery) (read : Nat) :
    (d.need s read).bytes = d.bytes := by
  unfold need
  dsimp only
  split
  · exact bytes_cut d
  · rfl

theorem CutsFit.need {d : Delivery} (h : d.CutsFit) (s : Supply) (read : Nat) :
    (d.need s read).CutsFit := by
  unfold Delivery.need
  dsimp only
  split
  · exact ⟨h.cut.ordered, h.cut.within⟩
  · exact h

private theorem bytes_put (s : Supply) (read : Nat) (d : Delivery) (b : UInt8) :
    (d.put s read b).bytes = d.bytes.push b := by
  unfold put
  dsimp only
  split
  · rw [bytes_cut]
  · rfl

theorem CutsFit.put {d : Delivery} (h : d.CutsFit) (s : Supply) (read : Nat) (b : UInt8) :
    (d.put s read b).CutsFit := by
  have hgrown (e : Delivery) (he : e.CutsFit) : CutsFit { e with bytes := e.bytes.push b } :=
    ⟨he.ordered, fun c hc => Nat.le_trans (he.within c hc) (by simp)⟩
  unfold Delivery.put
  dsimp only
  split
  · exact hgrown _ ⟨h.cut.ordered, h.cut.within⟩
  · exact hgrown d h

private theorem bytes_copy (s : Supply) (read distance n : Nat) (d : Delivery) :
    (copy s read distance n d).bytes = Output.repeated distance n d.bytes := by
  induction n generalizing d with
  | zero => rfl
  | succ n ih =>
    rw [copy, ih, bytes_put]
    rfl

theorem CutsFit.copy {d : Delivery} (h : d.CutsFit) (s : Supply) (read distance n : Nat) :
    (Delivery.copy s read distance n d).CutsFit := by
  induction n generalizing d with
  | zero => exact h
  | succ n ih => exact ih (h.put s read _)

theorem bytes_add (s : Supply) (d : Delivery) (t : Token × Nat) :
    (d.add s t).bytes = t.1.expand d.bytes := by
  obtain ⟨t, read⟩ := t
  cases t with
  | literal b => simp only [add, bytes_put, bytes_need, Token.expand]
  | copy length distance => simp only [add, bytes_copy, bytes_need, Token.expand]

theorem CutsFit.add {d : Delivery} (h : d.CutsFit) (s : Supply) (t : Token × Nat) :
    (d.add s t).CutsFit := by
  obtain ⟨t, read⟩ := t
  cases t with
  | literal b => exact (h.need s read).put s read b
  | copy length distance => exact (h.need s read).copy s read distance length

private theorem bytes_foldl_add (s : Supply) (tokens : List (Token × Nat)) (d : Delivery) :
    (tokens.foldl (add s) d).bytes = tokens.foldl (fun out t => t.1.expand out) d.bytes := by
  induction tokens generalizing d with
  | nil => rfl
  | cons t tokens ih => rw [List.foldl_cons, ih, bytes_add, List.foldl_cons]

private theorem CutsFit.foldl_add {d : Delivery} (h : d.CutsFit) (s : Supply)
    (tokens : List (Token × Nat)) : (tokens.foldl (Delivery.add s) d).CutsFit := by
  induction tokens generalizing d with
  | nil => exact h
  | cons t tokens ih => exact ih (h.add s t)

private theorem bytes_finish (s : Supply) (d : Delivery) (rest : Except Stop Bits) :
    (d.finish s rest).bytes = d.bytes := by
  unfold finish
  split
  · exact bytes_need s d _
  · exact bytes_cut d

/-- What is expanded does not depend on how the input arrives. -/
theorem bytes_ofStream (s : Supply) (stream : Stream) :
    (ofStream s stream).bytes = stream.output := by
  rw [ofStream, bytes_finish, bytes_foldl_add]
  rfl

/-- The reads hand out the bytes up to where the last one ended. -/
private theorem CutsFit.joined_chunks {d : Delivery} (h : d.CutsFit) :
    Feed.joined d.chunks = d.bytes.extract 0 d.handedOut := by
  have hordered : (0 :: d.cuts.reverse).Pairwise (· ≤ ·) :=
    List.pairwise_cons.mpr ⟨fun c _ => Nat.zero_le c, List.pairwise_reverse.mpr h.ordered⟩
  have hlast : d.cuts.reverse.getLastD 0 = d.handedOut := by
    unfold handedOut
    cases d.cuts <;> simp
  rw [← hlast]
  exact Feed.joined_runs d.bytes 0 _ hordered

private theorem CutsFit.handedOut_cut {d : Delivery} (h : d.CutsFit) :
    d.cut.handedOut = d.bytes.size := by
  have hle : d.handedOut ≤ d.bytes.size := by
    unfold handedOut
    cases hcuts : d.cuts with
    | nil => exact Nat.zero_le _
    | cons c cuts => exact h.within c (by simp [hcuts])
  unfold Delivery.cut
  split
  · rfl
  · omega

theorem joined_chunks_ofStream (s : Supply) (stream : Stream)
    (h : ∀ read, stream.rest ≠ .error (.corrupt read)) :
    Feed.joined (ofStream s stream).chunks = stream.output := by
  have hfit : (stream.tokens.foldl (add s) ⟨.empty, [], s.pieceOf s.origin⟩).CutsFit :=
    CutsFit.foldl_add ⟨List.Pairwise.nil, by simp⟩ s stream.tokens
  have hfinish : ofStream s stream =
      (stream.tokens.foldl (add s) ⟨.empty, [], s.pieceOf s.origin⟩).cut := by
    unfold ofStream finish
    split
    · rename_i read hrest
      exact absurd hrest (h read)
    · rfl
  rw [← bytes_ofStream s stream, hfinish, hfit.cut.joined_chunks, hfit.handedOut_cut, bytes_cut,
    ByteArray.extract_zero_size]

end Delivery

end DmarcReports.Deflate
