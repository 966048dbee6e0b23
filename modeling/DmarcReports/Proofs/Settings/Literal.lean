import DmarcReports.Proofs.Settings.Value
import DmarcReports.Settings.Literal

/-!
What the notation of variables can write.

Arrays and tables hold what was read before, an entry that comes again takes the place of the first
one, and a text that does not follow the notation stands for itself. Main statement:
`written_ofText`.
-/

set_option autoImplicit false
set_option relaxedAutoImplicit false

namespace DmarcReports.Settings.Literal

open Text (Read Yields)
open Value (Written)

variable {α : Type} {p : α → Prop}

private theorem written_word (cs : List Char) : Written (word cs) := by
  unfold word
  split
  · exact .float _
  · exact .integer _
  · exact .integer _
  · exact .string _

private theorem yields_items {read : Read α} (h : Yields p read) (close : Char) (fuel : Nat) :
    Yields (fun as => ∀ a ∈ as, p a) (items read close fuel) := by
  induction fuel with
  | zero => exact nofun
  | succ fuel ih =>
    intro cs as rest hitems
    rw [items] at hitems
    split at hitems
    · cases hitems
      exact nofun
    obtain ⟨⟨a, behind⟩, ha, hitems⟩ := Option.bind_eq_some_iff.mp hitems
    have hp : p a := h cs a behind ha
    dsimp only at hitems
    split at hitems
    · obtain ⟨⟨more, behind'⟩, hmore, hitems⟩ := Option.bind_eq_some_iff.mp hitems
      cases hitems
      exact List.forall_mem_cons.mpr ⟨hp, ih _ _ _ hmore⟩
    · split at hitems
      · cases hitems
        exact List.forall_mem_singleton.mpr hp
      · cases hitems
    · cases hitems

theorem yields_entry {read : Read Value} (h : Yields Written read) :
    Yields (fun e => Written e.2) (entry read) := by
  intro cs e rest hentry
  obtain ⟨⟨k, behind⟩, -, hentry⟩ := Option.bind_eq_some_iff.mp hentry
  dsimp only at hentry
  split at hentry
  · obtain ⟨⟨v, behind'⟩, hv, hentry⟩ := Option.bind_eq_some_iff.mp hentry
    cases hentry
    exact h _ _ _ hv
  · cases hentry

private theorem yields_array {read : Read Value} (h : Yields Written read) :
    Yields Written (array read) := by
  intro cs v rest harray
  obtain ⟨⟨vs, behind⟩, hvs, harray⟩ := Option.map_eq_some_iff.mp harray
  cases harray
  exact .array (yields_items h _ _ _ _ _ hvs)

private theorem written_foldl_put {es acc : List (String × Value)} (hacc : Written (.table acc))
    (hes : ∀ e ∈ es, Written e.2) :
    Written (.table (es.foldl (fun acc e => put e.1 e.2 acc) acc)) := by
  induction es generalizing acc with
  | nil => exact hacc
  | cons e es ih =>
    obtain ⟨he, hes⟩ := List.forall_mem_cons.mp hes
    exact ih (hacc.put he) hes

private theorem yields_table {read : Read Value} (h : Yields Written read) :
    Yields Written (table read) := by
  intro cs v rest htable
  obtain ⟨⟨es, behind⟩, hes, htable⟩ := Option.map_eq_some_iff.mp htable
  cases htable
  exact written_foldl_put (.table List.nodup_nil nofun) (yields_items (yields_entry h) _ _ _ _ _ hes)

theorem yields_scalar : Yields Written scalar := by
  intro cs v rest hscalar
  unfold scalar at hscalar
  split at hscalar
  · cases hscalar
    exact .boolean _
  · cases hscalar
    exact .boolean _
  · obtain ⟨⟨text, behind⟩, -, hscalar⟩ := Option.map_eq_some_iff.mp hscalar
    cases hscalar
    exact .string _
  · cases hscalar
    exact .string _
  · cases hscalar
  · cases hscalar
    exact written_word _

private theorem yields_spaced {read : Read Value} (h : Yields Written read) :
    Yields Written (spaced read) := by
  intro cs v rest hspaced
  obtain ⟨⟨v', behind⟩, hv, hspaced⟩ := Option.map_eq_some_iff.mp hspaced
  cases hspaced
  exact h _ _ _ hv

theorem yields_value (depth : Nat) : Yields Written (value depth) := by
  induction depth with
  | zero => exact yields_spaced yields_scalar
  | succ depth ih =>
    refine yields_spaced ?_
    intro cs v rest hvalue
    dsimp only at hvalue
    split at hvalue
    · exact yields_array ih _ _ _ hvalue
    · exact yields_table ih _ _ _ hvalue
    · exact yields_scalar _ _ _ hvalue

theorem written_ofText (text : String) : Written (ofText text) := by
  unfold ofText
  split
  · rename_i v hvalue
    exact yields_value _ _ _ _ hvalue
  · exact .string text

end DmarcReports.Settings.Literal
