import DmarcReports.Proofs.Settings.Environment

/-!
Settings in a group on which layers are laid.

A file may write a group as an array, which has no keys: its elements count in the order of the
settings, and nothing is left of them where a variable names a member of the group. Main statement:
`follows_of_member?`.
-/

set_option autoImplicit false
set_option relaxedAutoImplicit false

namespace DmarcReports.Settings

open Environment (NamesMembers assigned? tells layer)
open Value (Written Plain layOver at?)

/-- What a file tells for a setting, by its key in a table or its place in an array. Variables make a
table of a group, and nothing is left of an array under it. -/
def filed? (vs : List (String × String)) (told : Value) (group : String) (place : Nat)
    (key : String) : Option Value :=
  (at? [group] told).bind fun g => if tells vs group then at? [key] g else member? g place key

/-- That a setting is what a reader finds in the uppermost of the variables, the file and the standard
value. -/
def Follows {α : Type} (read : Value → Option α) (std : α) (vs : List (String × String))
    (filed : String → Nat → String → Option Value) (group : String) (place : Nat) (key : String)
    (a : α) : Prop :=
  orStandard read std ((assigned? vs [group, key]).or (filed group place key)) = some a

section Readers

theorem plain_word? : Plain word? := fun _ _ => rfl

theorem plain_percentage? : Plain percentage? := fun _ _ => rfl

theorem plain_string? : Plain string? := fun _ _ => rfl

/-- A mode in a table would have nothing under its label, which cannot be written. -/
theorem plain_mode? : Plain mode? := by
  intro es hes
  unfold mode?
  split
  · rename_i h
    cases h
  · rename_i h
    cases h
    cases hes.members _ List.mem_cons_self
  · rfl

end Readers

section Group

variable {α : Type} {read : Value → Option α} {std a : α} {vs : List (String × String)}
  {told g : Value} {v? above lower : Option Value} {group key : String} {place : Nat}
  {defaults es : List (String × Value)}

private theorem member?_table (h : v? = some (.table es)) (hg : v? = some g) :
    member? g place key = v?.bind (at? [key]) := by
  rw [h] at hg ⊢
  cases hg
  rw [Option.bind_some, Value.at?_table]
  rfl

private theorem orStandard_bind_layOver (hplain : Plain read)
    (hdefaults : Written (.table defaults))
    (hkey : orStandard read std (lookup? key defaults) = some std)
    (habove : ∀ v, above = some v → Written v) :
    orStandard read std ((layOver (some (.table defaults)) above).bind (at? [key])) =
      orStandard read std (above.bind (at? [key])) := by
  have hstandard : orStandard read std (at? [key] (.table defaults)) = some std := by
    rwa [Value.at?_table]
  cases above with
  | none => exact hstandard
  | some v =>
    by_cases htable : ∃ es, v = .table es
    · obtain ⟨es, rfl⟩ := htable
      have hes : Written (.table es) := habove _ rfl
      rw [Value.bind_at?_layOver hes.keys, Option.bind_some, Option.bind_some,
        Value.at?_table key es]
      cases hupper : lookup? key es with
      | none => rw [Value.layOver_none, hstandard, orStandard]
      | some w =>
        exact Environment.orStandard_layOver hplain (fun u hu => hdefaults.of_at? hu)
          (hes.of_lookup? hupper)
    · rw [layOver, Value.lay_of_ne_table (not_exists.mp htable)]

private theorem orStandard_member_filed (hplain : Plain read)
    (hdefaults : Written (.table defaults))
    (hkey : orStandard read std (lookup? key defaults) = some std)
    (habove : ∀ v, above = some v → Written v)
    (hg : layOver (some (.table defaults)) above = some g) :
    orStandard read std (member? g place key) =
      orStandard read std (above.bind fun v => member? v place key) := by
  have htables := orStandard_bind_layOver hplain hdefaults hkey habove
  cases above with
  | none => rwa [member?_table rfl hg]
  | some v =>
    by_cases htable : ∃ es, v = .table es
    · obtain ⟨es, rfl⟩ := htable
      obtain ⟨joined, hjoined⟩ := Value.layOver_table es (some (.table defaults))
      rw [member?_table hjoined hg, htables, Option.bind_some, Option.bind_some,
        member?_table rfl rfl, Option.bind_some]
    · rw [layOver, Value.lay_of_ne_table (not_exists.mp htable)] at hg
      cases hg
      rfl

private theorem orStandard_member_assigned (hplain : Plain read) (hes : Written (.table es))
    (hlower : ∀ v, lower = some v → Written v) (hg : layOver lower (some (.table es)) = some g) :
    orStandard read std (member? g place key) =
      orStandard read std ((lookup? key es).or (lower.bind (at? [key]))) := by
  obtain ⟨joined, hjoined⟩ := Value.layOver_table es lower
  rw [member?_table hjoined hg, Value.bind_at?_layOver hes.keys]
  cases hupper : lookup? key es with
  | none => rw [Value.layOver_none, Option.none_or]
  | some w =>
    refine Environment.orStandard_layOver hplain (fun u hu => ?_) (hes.of_lookup? hupper)
    obtain ⟨v, hv, hu⟩ := Option.bind_eq_some_iff.mp hu
    exact (hlower v hv).of_at? hu

theorem follows_of_member? (hplain : Plain read) (hvs : NamesMembers vs) (htold : Written told)
    (hdefaults : Written (.table defaults))
    (hkey : orStandard read std (lookup? key defaults) = some std)
    (hg : layOver (layOver (some (.table defaults)) (at? [group] told)) (at? [group] (layer vs)) =
      some g)
    (ha : orStandard read std (member? g place key) = some a) :
    Follows read std vs (filed? vs told) group place key a := by
  have habove : ∀ v, at? [group] told = some v → Written v := fun v hv => htold.of_at? hv
  refine Environment.orStandard_layer hplain hvs ?_
  rw [Value.at?_cons group [key], ← ha, filed?]
  rcases Environment.group_layer hvs group with ⟨htells, hlayer⟩ | ⟨htells, es, hlayer⟩
  · rw [hlayer, Value.layOver_none] at hg
    rw [orStandard_member_filed hplain hdefaults hkey habove hg, hlayer, htells]
    rfl
  · have hes : Written (.table es) := (Environment.written_layer vs).of_at? hlayer
    have hlower := Written.layOver (fun v hv => Option.some.inj hv ▸ hdefaults) habove
    rw [hlayer] at hg
    rw [orStandard_member_assigned hplain hes hlower hg, hlayer, htells, Option.bind_some,
      Value.at?_table]
    cases lookup? key es with
    | none => exact (orStandard_bind_layOver hplain hdefaults hkey habove).symm
    | some w => rfl

end Group

end DmarcReports.Settings
