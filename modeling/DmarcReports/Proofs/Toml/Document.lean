import DmarcReports.Proofs.Toml.Table
import DmarcReports.Toml.Document

/-!
What documents can write.

Main statement: `table_of_ofBytes?`.
-/

set_option autoImplicit false
set_option relaxedAutoImplicit false

namespace DmarcReports.Toml

open Settings (Value)
open Settings.Value (Written)
open Text (Read Yields)
open Entries (Sound sound_nil sound_addAll sound_openTable)

namespace Number

private theorem written_of_inRange? {i : Int} {v : Value} (h : inRange? i = some v) :
    Written v := by
  unfold inRange? at h
  split at h
  · cases h
    exact .integer i
  · cases h

private theorem yields_based (base : Nat) (isDigit : Char → Bool) :
    Yields Written (based base isDigit) := by
  intro cs v rest h
  obtain ⟨⟨ds, behind⟩, -, h⟩ := Option.bind_eq_some_iff.mp h
  obtain ⟨i, hi, h⟩ := Option.bind_eq_some_iff.mp h
  cases h
  exact written_of_inRange? hi

private theorem yields_whole : Yields Written whole := by
  intro cs v rest h
  unfold whole at h
  split at h
  · exact yields_based _ _ _ _ _ h
  · exact yields_based _ _ _ _ _ h
  · exact yields_based _ _ _ _ _ h
  · obtain ⟨⟨ds, behind⟩, -, h⟩ := Option.bind_eq_some_iff.mp h
    obtain ⟨i, hi, h⟩ := Option.bind_eq_some_iff.mp h
    cases h
    exact written_of_inRange? hi

private theorem yields_fractional : Yields Written fractional := by
  intro cs v rest h
  unfold fractional at h
  generalize sign cs = signed at h
  obtain ⟨⟨x, behind⟩, -, h⟩ := Option.bind_eq_some_iff.mp h
  dsimp only at h
  split at h
  · cases h
  · cases h
    exact .float _

private theorem yields_special : Yields Written special := by
  intro cs v rest h
  unfold special at h
  split at h
  · cases h
    exact .float _
  · cases h
    exact .float _
  · cases h

private theorem yields_number : Yields Written number := by
  intro cs v rest h
  rcases Option.or_eq_some_iff.mp h with h | ⟨-, h⟩
  · rcases Option.or_eq_some_iff.mp h with h | ⟨-, h⟩
    · exact yields_fractional _ _ _ h
    · exact yields_special _ _ _ h
  · exact yields_whole _ _ _ h

end Number

theorem yields_scalar : Yields Written scalar := by
  intro cs v rest h
  unfold scalar at h
  split at h
  · cases h
    exact .boolean true
  · cases h
    exact .boolean false
  · split at h
    · cases h
      exact .string _
    · cases h
      exact sound_nil
    · exact Number.yields_number _ _ _ h

section Nested

variable {read : Read Value}

private theorem yields_elements (hread : Yields Written read) (fuel : Nat) :
    Yields (fun vs => ∀ v ∈ vs, Written v) (elements read fuel) := by
  induction fuel with
  | zero => exact nofun
  | succ fuel ih =>
    intro cs vs rest h
    rw [elements] at h
    split at h
    · cases h
      exact nofun
    obtain ⟨⟨v, behind⟩, hv, h⟩ := Option.bind_eq_some_iff.mp h
    have hv : Written v := hread _ _ _ hv
    dsimp only at h
    split at h
    · obtain ⟨⟨more, behind'⟩, hmore, h⟩ := Option.bind_eq_some_iff.mp h
      cases h
      exact List.forall_mem_cons.mpr ⟨hv, ih _ _ _ hmore⟩
    · cases h
      exact List.forall_mem_singleton.mpr hv
    · cases h

theorem yields_entry (hread : Yields Written read) : Yields (fun e => Written e.2) (entry read) := by
  intro cs e rest h
  obtain ⟨⟨k, behind⟩, -, h⟩ := Option.bind_eq_some_iff.mp h
  dsimp only at h
  split at h
  · obtain ⟨⟨v, behind'⟩, hv, h⟩ := Option.bind_eq_some_iff.mp h
    cases h
    exact hread _ _ _ hv
  · cases h

private theorem yields_members (hread : Yields Written read) (fuel : Nat) :
    Yields (fun es => ∀ e ∈ es, Written e.2) (members read fuel) := by
  induction fuel with
  | zero => exact nofun
  | succ fuel ih =>
    intro cs es rest h
    obtain ⟨⟨e, behind⟩, he, h⟩ := Option.bind_eq_some_iff.mp h
    have he : Written e.2 := yields_entry hread _ _ _ he
    dsimp only at h
    split at h
    · obtain ⟨⟨more, behind'⟩, hmore, h⟩ := Option.bind_eq_some_iff.mp h
      cases h
      exact List.forall_mem_cons.mpr ⟨he, ih _ _ _ hmore⟩
    · cases h
      exact List.forall_mem_singleton.mpr he
    · cases h

private theorem yields_bracketed (hread : Yields Written read) :
    Yields Written (bracketed read) := by
  intro cs v rest h
  obtain ⟨⟨vs, behind⟩, hvs, h⟩ := Option.map_eq_some_iff.mp h
  cases h
  exact .array (yields_elements hread _ _ _ _ hvs)

private theorem yields_braced (hread : Yields Written read) : Yields Written (braced read) := by
  intro cs v rest h
  unfold braced at h
  split at h
  · cases h
    exact sound_nil
  · obtain ⟨⟨es, behind⟩, hes, h⟩ := Option.bind_eq_some_iff.mp h
    obtain ⟨t, ht, h⟩ := Option.bind_eq_some_iff.mp h
    cases h
    exact sound_addAll (yields_members hread _ _ _ _ hes) sound_nil ht

end Nested

theorem yields_value (depth : Nat) : Yields Written (value depth) := by
  induction depth with
  | zero => exact yields_scalar
  | succ depth ih =>
    intro cs v rest h
    unfold value at h
    split at h
    · rename_i hdepth
      cases hdepth
      exact yields_bracketed ih _ _ _ h
    · rename_i hdepth
      cases hdepth
      exact yields_braced ih _ _ _ h
    · exact yields_scalar _ _ _ h

namespace Line

def Sound : Line → Prop
  | .header _ _ => True
  | .entry _ v => Written v

private theorem yields_read : Yields Sound read := by
  intro cs l rest h
  unfold read at h
  split at h
  · obtain ⟨⟨k, behind⟩, -, h⟩ := Option.bind_eq_some_iff.mp h
    dsimp only at h
    split at h
    · obtain ⟨behind', -, h⟩ := Option.bind_eq_some_iff.mp h
      cases h
      trivial
    · cases h
  · obtain ⟨⟨k, behind⟩, -, h⟩ := Option.bind_eq_some_iff.mp h
    dsimp only at h
    split at h
    · obtain ⟨behind', -, h⟩ := Option.bind_eq_some_iff.mp h
      cases h
      trivial
    · cases h
  · obtain ⟨⟨⟨k, v⟩, behind⟩, hentry, h⟩ := Option.bind_eq_some_iff.mp h
    obtain ⟨behind', -, h⟩ := Option.bind_eq_some_iff.mp h
    cases h
    exact yields_entry (yields_value depthLimit) _ _ _ hentry

private theorem sound_readAll {fuel : Nat} {cs : List Char} {ls : List Line}
    (h : readAll fuel cs = some ls) : ∀ l ∈ ls, Sound l := by
  induction fuel generalizing cs ls with
  | zero => cases h
  | succ fuel ih =>
    rw [readAll] at h
    split at h
    · cases h
      exact nofun
    · obtain ⟨⟨l, behind⟩, hl, h⟩ := Option.bind_eq_some_iff.mp h
      obtain ⟨more, hmore, h⟩ := Option.bind_eq_some_iff.mp h
      cases h
      exact List.forall_mem_cons.mpr ⟨yields_read _ _ _ hl, ih hmore⟩

private theorem written_sections {ls : List Line} (h : ∀ l ∈ ls, Sound l) :
    (∀ e ∈ (sections ls).1, Written e.2) ∧
      ∀ header ∈ (sections ls).2, ∀ e ∈ header.2, Written e.2 := by
  induction ls with
  | nil => exact ⟨nofun, nofun⟩
  | cons l ls ih =>
    obtain ⟨hl, hls⟩ := List.forall_mem_cons.mp h
    obtain ⟨hes, hhs⟩ := ih hls
    cases l with
    | header inArray k => exact ⟨nofun, List.forall_mem_cons.mpr ⟨hes, hhs⟩⟩
    | entry k v => exact ⟨List.forall_mem_cons.mpr ⟨hl, hes⟩, hhs⟩

end Line

private theorem sound_foldlM_openTable {hs : List ((Bool × Key) × List (Key × Value))}
    {es es' : Entries} (hhs : ∀ h ∈ hs, ∀ e ∈ h.2, Written e.2) (hes : Sound es)
    (h : hs.foldlM (fun root h => root.openTable h.1.1 h.1.2.name h.2 h.1.2.path) es = some es') :
    Sound es' := by
  induction hs generalizing es with
  | nil =>
    cases h
    exact hes
  | cons header hs ih =>
    obtain ⟨hheader, hhs⟩ := List.forall_mem_cons.mp hhs
    obtain ⟨t, ht, h⟩ := Option.bind_eq_some_iff.mp h
    exact ih hhs (sound_openTable hheader hes ht) h

private theorem sound_tableOf {ls : List Line} {es : Entries} (hls : ∀ l ∈ ls, l.Sound)
    (h : tableOf ls = some es) : Sound es := by
  obtain ⟨hes, hhs⟩ := Line.written_sections hls
  obtain ⟨root, hroot, h⟩ := Option.bind_eq_some_iff.mp h
  exact sound_foldlM_openTable hhs (sound_addAll hes sound_nil hroot) h

theorem table_of_ofBytes? {b : ByteArray} {v : Value} (h : ofBytes? b = some v) :
    ∃ es, v = .table es ∧ Written (.table es) := by
  obtain ⟨s, -, h⟩ := Option.bind_eq_some_iff.mp h
  obtain ⟨ls, hls, h⟩ := Option.bind_eq_some_iff.mp h
  obtain ⟨root, hroot, h⟩ := Option.bind_eq_some_iff.mp h
  cases h
  exact ⟨_, rfl, sound_tableOf (Line.sound_readAll hls) hroot⟩

end DmarcReports.Toml
