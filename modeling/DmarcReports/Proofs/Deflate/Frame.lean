import DmarcReports.Deflate.Stream

/-!
Reading a compressed stream does not depend on what follows it.

Every step of the reader looks at no byte behind those that it reads. Main statement:
`Stream.read_append`.
-/

set_option autoImplicit false
set_option relaxedAutoImplicit false

namespace DmarcReports.Deflate

namespace Bits

def followedBy (s : Bits) (more : List UInt8) : Bits := { s with rest := s.rest ++ more }

/-- That a reader within a byte has this byte at hand. -/
def Fits (s : Bits) : Prop := s.offset ≠ 0 → s.rest ≠ []

end Bits

/-- That reading from one place to another keeps within the bytes at hand. -/
structure Passes (s t : Bits) : Prop where
  fits : t.Fits
  suffix : t.rest <:+ s.rest

/-- That a way of reading looks at no byte behind those it reads. -/
def Local {α : Type} (f : Bits → Except Stop (α × Bits)) : Prop :=
  ∀ (s t : Bits) (a : α), s.Fits → f s = .ok (a, t) →
    Passes s t ∧ ∀ more, f (s.followedBy more) = .ok (a, t.followedBy more)

theorem Passes.trans {s t u : Bits} (hst : Passes s t) (htu : Passes t u) : Passes s u :=
  ⟨htu.fits, htu.suffix.trans hst.suffix⟩

section Combinators

variable {α β : Type} {f : Bits → Except Stop (α × Bits)} {g : α × Bits → Except Stop (β × Bits)}

private theorem local_ok (a : α) : Local fun s => .ok (a, s) := by
  intro s t b hfits h
  cases h
  exact ⟨⟨hfits, List.suffix_refl _⟩, fun _ => rfl⟩

private theorem local_corrupt : Local fun s => (s.corrupt : Except Stop (α × Bits)) := by
  intro s t a _ h
  cases h

theorem Local.bind (hf : Local f) (hg : ∀ a, Local fun s => g (a, s)) :
    Local fun s => f s >>= g := by
  intro s u b hfits h
  have h : f s >>= g = .ok (b, u) := h
  cases hread : f s with
  | error stop =>
    rw [hread] at h
    cases h
  | ok p =>
    obtain ⟨a, t⟩ := p
    rw [hread] at h
    obtain ⟨hpasses, hmore⟩ := hf s t a hfits hread
    obtain ⟨hpasses', hmore'⟩ := hg a t u b hpasses.fits h
    refine ⟨hpasses.trans hpasses', ?_⟩
    intro more
    simp only [hmore more]
    exact hmore' more

private theorem Local.ite {p : Prop} [Decidable p] {f' : Bits → Except Stop (α × Bits)}
    (hf : Local f) (hf' : Local f') : Local fun s => if p then f s else f' s := by
  by_cases hp : p
  · simpa only [if_pos hp] using hf
  · simpa only [if_neg hp] using hf'

end Combinators

namespace Bits

private theorem local_next? : Local next? := by
  intro s t bit _ h
  obtain ⟨rest, offset, read⟩ := s
  cases rest with
  | nil => cases h
  | cons b bs =>
    simp only [next?, Except.ok.injEq, Prod.mk.injEq] at h
    obtain ⟨rfl, rfl⟩ := h
    by_cases hlast : offset = 7
    · rw [if_pos hlast]
      refine ⟨⟨fun hoffset => absurd rfl hoffset, List.suffix_cons b bs⟩, ?_⟩
      intro more
      simp [next?, followedBy, hlast]
    · rw [if_neg hlast]
      refine ⟨⟨fun _ => List.cons_ne_nil b bs, List.suffix_refl _⟩, ?_⟩
      intro more
      simp [next?, followedBy, hlast]

private theorem local_take? (n : Nat) : Local (take? n) := by
  induction n with
  | zero => exact local_ok 0
  | succ n ih =>
    apply local_next?.bind
    intro bit
    apply ih.bind
    intro high
    exact local_ok _

theorem passes_align {s : Bits} (hfits : s.Fits) : Passes s s.align := by
  unfold align
  by_cases hwhole : s.offset = 0
  · rw [if_pos hwhole]
    exact ⟨hfits, List.suffix_refl _⟩
  · rw [if_neg hwhole]
    exact ⟨fun hoffset => absurd rfl hoffset, List.tail_suffix _⟩

theorem align_followedBy {s : Bits} (hfits : s.Fits) (more : List UInt8) :
    (s.followedBy more).align = s.align.followedBy more := by
  have hoffset : (s.followedBy more).offset = s.offset := rfl
  unfold align
  rw [hoffset]
  by_cases hwhole : s.offset = 0
  · rw [if_pos hwhole, if_pos hwhole]
  · rw [if_neg hwhole, if_neg hwhole]
    simp only [followedBy, List.tail_append_of_ne_nil (hfits hwhole)]

end Bits

theorem Local.align {α : Type} {f : Bits → Except Stop (α × Bits)} (hf : Local f) :
    Local fun s => f s.align := by
  intro s t a hfits h
  have haligned := Bits.passes_align hfits
  obtain ⟨hpasses, hmore⟩ := hf s.align t a haligned.fits h
  refine ⟨haligned.trans hpasses, ?_⟩
  intro more
  simp only [Bits.align_followedBy hfits]
  exact hmore more

private theorem Tree.local_decode (tree : Tree) : Local tree.decode := by
  induction tree with
  | vacant => exact local_corrupt
  | leaf symbol => exact local_ok symbol
  | fork zero one hzero hone =>
    have hfork : (fork zero one).decode = fun s => s.next? >>= fun p =>
        match p with
        | (true, s) => one.decode s
        | (false, s) => zero.decode s := by
      funext s
      rw [Tree.decode]
      cases s.next? with
      | error stop => rfl
      | ok p => rcases p with ⟨_ | _, s⟩ <;> rfl
    rw [hfork]
    apply Bits.local_next?.bind
    intro bit
    cases bit with
    | false => exact hzero
    | true => exact hone

namespace Codes

private theorem local_takeTriples? (n : Nat) : Local (takeTriples? n) := by
  induction n with
  | zero => exact local_ok []
  | succ n ih =>
    apply (Bits.local_take? 3).bind
    intro v
    apply ih.bind
    intro vs
    exact local_ok _

private theorem local_takeLengths? (code : Tree) (rounds missing : Nat) (done : List Nat) :
    Local (takeLengths? code rounds missing done) := by
  induction rounds generalizing missing done with
  | zero => exact local_ok _
  | succ rounds ih =>
    cases missing with
    | zero => exact local_ok _
    | succ missing =>
      apply code.local_decode.bind
      intro symbol
      dsimp only
      split
      · exact local_corrupt
      · rename_i length least extra _
        apply (Bits.local_take? extra).bind
        intro more
        show Local fun s => if missing + 1 < least + more then s.corrupt else
          takeLengths? code rounds (missing + 1 - (least + more))
            (List.replicate (least + more) length ++ done) s
        exact Local.ite local_corrupt (ih _ _)

private theorem local_take? : Local take? := by
  apply (Bits.local_take? 5).bind
  intro literals
  apply (Bits.local_take? 5).bind
  intro distances
  apply (Bits.local_take? 4).bind
  intro triples
  refine Local.ite local_corrupt ?_
  apply (local_takeTriples? _).bind
  intro given
  dsimp only
  split
  · exact local_corrupt
  · rename_i code _
    apply (local_takeLengths? code _ _ _).bind
    intro lengths
    dsimp only
    split
    · exact local_corrupt
    · exact local_ok _

private theorem local_valueOf? (table : List (Nat × Nat)) (symbol : Nat) :
    Local (valueOf? table symbol) := by
  unfold valueOf?
  split
  · exact local_corrupt
  · rename_i least extra _
    apply (Bits.local_take? extra).bind
    intro more
    exact local_ok _

private theorem local_token? (c : Codes) : Local c.token? := by
  apply c.literals.local_decode.bind
  intro symbol
  refine Local.ite (local_ok _) (Local.ite (local_ok _) ?_)
  apply (local_valueOf? _ _).bind
  intro length
  apply c.distances.local_decode.bind
  intro symbol
  apply (local_valueOf? _ _).bind
  intro distance
  exact local_ok _

end Codes

namespace Mode

private theorem local_takeStored? (last : Bool) : Local (takeStored? last) := by
  apply (Bits.local_take? 16).align.bind
  intro length
  apply (Bits.local_take? 16).bind
  intro check
  exact Local.ite (local_ok _) local_corrupt

private theorem local_takeHeader? : Local takeHeader? := by
  apply (Bits.local_take? 3).bind
  intro v
  rcases hkind : v / 2 with _ | _ | _ | n
  · simp only [hkind]
    exact local_takeStored? (v % 2 = 1)
  · simp only [hkind]
    exact local_ok (some (coded Codes.fixed (v % 2 = 1)))
  · simp only [hkind]
    apply Codes.local_take?.bind
    intro codes
    exact local_ok (some (coded codes (v % 2 = 1)))
  · simp only [hkind]
    exact local_corrupt

private theorem followedBy_of_local {α : Type} {f : Bits → Except Stop (α × Bits)} (hf : Local f)
    (token : α → Option Token) (next : α → Option Mode) {s t : Bits} {found : Option Token}
    {mode : Option Mode} (hfits : s.Fits)
    (h : (f s >>= fun p => .ok (token p.1, next p.1, p.2)) = .ok (found, mode, t)) :
    Passes s t ∧ ∀ more, (f (s.followedBy more) >>= fun p => .ok (token p.1, next p.1, p.2)) =
      .ok (found, mode, t.followedBy more) := by
  cases hread : f s with
  | error stop =>
    rw [hread] at h
    cases h
  | ok p =>
    rw [hread] at h
    cases h
    obtain ⟨hpasses, hmore⟩ := hf s p.2 p.1 hfits hread
    refine ⟨hpasses, ?_⟩
    intro more
    rw [hmore more]
    rfl

private theorem step_followedBy {m : Mode} {s t : Bits} {token : Option Token} {next : Option Mode}
    (hfits : s.Fits) (h : m.step s = .ok (token, next, t)) :
    Passes s t ∧ ∀ more, m.step (s.followedBy more) = .ok (token, next, t.followedBy more) := by
  cases m with
  | header => exact followedBy_of_local local_takeHeader? (fun _ => none) id hfits h
  | stored missing last =>
    exact followedBy_of_local (Bits.local_take? 8) (fun byte => some (.literal (UInt8.ofNat byte)))
      (fun _ => afterStored (missing - 1) last) hfits h
  | coded codes last =>
    exact followedBy_of_local codes.local_token? id
      (fun token => if token.isSome then some (coded codes last) else afterBlock last) hfits h

end Mode

namespace Stream

private theorem readFrom_followedBy {rounds rounds' : Nat} (hrounds : rounds ≤ rounds') {m : Mode}
    {s t : Bits} {found : List (Token × Nat)} (hfits : s.Fits)
    (h : (readFrom rounds m s found).rest = .ok t) :
    Passes s t ∧ ∀ more, readFrom rounds' m (s.followedBy more) found =
      ⟨(readFrom rounds m s found).tokens, .ok (t.followedBy more)⟩ := by
  induction rounds generalizing rounds' m s found with
  | zero => cases h
  | succ rounds ih =>
    obtain ⟨rounds', rfl⟩ : ∃ n, rounds' = n + 1 := ⟨rounds' - 1, by omega⟩
    cases hstep : m.step s with
    | error stop =>
      simp only [readFrom, hstep] at h
      cases h
    | ok p =>
      obtain ⟨token, next, u⟩ := p
      obtain ⟨hpasses, hmore⟩ := Mode.step_followedBy hfits hstep
      cases next with
      | none =>
        simp only [readFrom, hstep] at h
        cases h
        refine ⟨hpasses, ?_⟩
        intro more
        simp only [readFrom, hstep, hmore more]
        rfl
      | some next =>
        simp only [readFrom, hstep] at h
        obtain ⟨hpasses', hmore'⟩ := ih (Nat.le_of_succ_le_succ hrounds) hpasses.fits h
        refine ⟨hpasses.trans hpasses', ?_⟩
        intro more
        simp only [readFrom, hstep, hmore more]
        exact hmore' more

/-- What a stream holds does not depend on what follows it. -/
theorem read_append {bytes : List UInt8} {s : Bits} (h : (read bytes).rest = .ok s) :
    Passes ⟨bytes, 0, 0⟩ s ∧ ∀ more, read (bytes ++ more) =
      ⟨(read bytes).tokens, .ok (s.followedBy more)⟩ := by
  have hfits : Bits.Fits ⟨bytes, 0, 0⟩ := fun hoffset => absurd rfl hoffset
  have hpasses := (readFrom_followedBy (Nat.le_refl _) hfits h).1
  refine ⟨hpasses, ?_⟩
  intro more
  have hrounds : 8 * bytes.length + 1 ≤ 8 * (bytes ++ more).length + 1 := by
    rw [List.length_append]
    omega
  exact (readFrom_followedBy hrounds hfits h).2 more

end Stream

end DmarcReports.Deflate
