import Mathlib.Data.List.Induction
import DmarcReports.Proofs.Settings.Literal
import DmarcReports.Settings.Decode
import DmarcReports.Settings.Environment

/-!
What the layer of the variables holds under the keys of a group.

The variables are laid over each other one by one, so the proofs go along the list from its end.
Main statements: `group_layer` and `orStandard_layer`.
-/

set_option autoImplicit false
set_option relaxedAutoImplicit false

namespace DmarcReports.Settings.Environment

open Value (Written Plain layOver nest at?)

/-- That no variable is the value of a whole group. -/
def NamesMembers (vs : List (String × String)) : Prop :=
  ∀ v ∈ vs, ∀ group, path? v.1 ≠ some [group]

/-- What the last variable tells whose name leads through the keys. -/
def assigned? (vs : List (String × String)) (path : List String) : Option Value :=
  (vs.reverse.find? fun v => path? v.1 = some path).map fun v => Literal.ofText v.2

def tells (vs : List (String × String)) (group : String) : Bool :=
  vs.any fun v => (path? v.1).any fun path => path.head? = some group

variable {vs : List (String × String)} {v : String × String} {group key : String}

private theorem path?_ne_nil (name : String) : path? name ≠ some [] := by
  intro h
  obtain ⟨rest, -, h⟩ := Option.bind_eq_some_iff.mp h
  dsimp only at h
  split at h
  · cases h
  · have hpieces := Text.length_pieces '.' (points (Text.asciiLower rest))
    rw [List.map_eq_nil_iff.mp (Option.some.inj h)] at hpieces
    cases hpieces

private theorem NamesMembers.init (h : NamesMembers (vs ++ [v])) : NamesMembers vs :=
  fun w hw => h w (List.mem_append_left _ hw)

private theorem NamesMembers.path_cases (h : NamesMembers (vs ++ [v])) :
    path? v.1 = none ∨ ∃ group key path, path? v.1 = some (group :: key :: path) := by
  match hpath : path? v.1 with
  | none => exact .inl rfl
  | some [] => exact absurd hpath (path?_ne_nil v.1)
  | some [group] => exact absurd hpath (h v (List.mem_append_right _ List.mem_cons_self) group)
  | some (group :: key :: path) => exact .inr ⟨group, key, path, rfl⟩

private theorem layer_concat_none (h : path? v.1 = none) : layer (vs ++ [v]) = layer vs := by
  unfold layer valueOf?
  rw [List.filterMap_append, List.foldl_append, List.filterMap_cons, h]
  rfl

private theorem layer_concat_some {path : List String} (h : path? v.1 = some path) :
    layer (vs ++ [v]) = (layer vs).lay (nest path (Literal.ofText v.2)) := by
  unfold layer valueOf?
  rw [List.filterMap_append, List.foldl_append, List.filterMap_cons, h]
  rfl

private theorem assigned?_concat (path : List String) :
    assigned? (vs ++ [v]) path =
      if path? v.1 = some path then some (Literal.ofText v.2) else assigned? vs path := by
  unfold assigned?
  rw [List.reverse_concat, List.find?_cons]
  by_cases h : path? v.1 = some path
  · rw [if_pos h, decide_eq_true h]
    rfl
  · rw [if_neg h, decide_eq_false h]

private theorem tells_concat :
    tells (vs ++ [v]) group =
      (tells vs group || (path? v.1).any fun path => path.head? = some group) := by
  rw [tells, List.any_append, List.any_cons, List.any_nil, Bool.or_false, tells]

theorem written_layer (vs : List (String × String)) : Written (layer vs) := by
  induction vs using List.reverseRecOn with
  | nil => exact .table List.nodup_nil nofun
  | append_singleton vs v ih =>
    cases hpath : path? v.1 with
    | none => rwa [layer_concat_none hpath]
    | some path =>
      rw [layer_concat_some hpath]
      exact ih.lay ((Literal.written_ofText v.2).nest path)

theorem table_layer (vs : List (String × String)) : ∃ es, layer vs = .table es := by
  induction vs using List.reverseRecOn with
  | nil => exact ⟨[], rfl⟩
  | append_singleton vs v ih =>
    match hpath : path? v.1 with
    | none => rwa [layer_concat_none hpath]
    | some [] => exact absurd hpath (path?_ne_nil v.1)
    | some (first :: path) =>
      rw [layer_concat_some hpath, nest, List.foldr_cons]
      exact Value.table_lay _ (layer vs)

theorem group_layer (h : NamesMembers vs) (group : String) :
    (tells vs group = false ∧ at? [group] (layer vs) = none) ∨
      (tells vs group = true ∧ ∃ es, at? [group] (layer vs) = some (.table es)) := by
  induction vs using List.reverseRecOn with
  | nil => exact .inl ⟨rfl, rfl⟩
  | append_singleton vs v ih =>
    rcases h.path_cases with hpath | ⟨first, second, path, hpath⟩
    · rw [layer_concat_none hpath, tells_concat, hpath, Option.any_none, Bool.or_false]
      exact ih h.init
    rw [layer_concat_some hpath, tells_concat, hpath, Option.any_some, List.head?_cons, nest,
      List.foldr_cons, Value.at?_lay_single]
    by_cases hfirst : first = group
    · -- A table is laid over the group, which is a table then.
      subst hfirst
      rw [decide_eq_true rfl, Bool.or_true, if_pos rfl, List.foldr_cons]
      exact .inr ⟨rfl, Value.layOver_table _ _⟩
    · rw [decide_eq_false fun h => hfirst (Option.some.inj h), Bool.or_false, if_neg hfirst,
        Value.layOver_none]
      exact ih h.init

private theorem at?_lay_nest (lower inner : Value) (first second : String) :
    at? [group, key] (lower.lay (.table [(first, .table [(second, inner)])])) =
      layOver (at? [group, key] lower)
        (if first = group ∧ second = key then some inner else none) := by
  rw [Value.at?_cons group [key], Value.at?_cons group [key], Value.at?_lay_single]
  by_cases hfirst : first = group
  · rw [if_pos hfirst, Value.bind_at?_layOver (nodup_keys_singleton second inner), lookup?, lookup?]
    simp only [hfirst, true_and]
  · rw [if_neg hfirst, if_neg fun h => hfirst h.1, Value.layOver_none, Value.layOver_none]

section Reading

variable {α : Type} {read : Value → Option α} {standard a : α}

theorem orStandard_layOver (hplain : Plain read) {lower : Option Value} {upper : Value}
    (hlower : ∀ v, lower = some v → Written v) (hupper : Written upper) :
    orStandard read standard (layOver lower (some upper)) = read upper := by
  cases lower with
  | none => rfl
  | some lower => exact hplain.read_lay (hlower lower rfl) hupper

theorem orStandard_layer (hplain : Plain read) (h : NamesMembers vs) {below : Option Value}
    (ha : orStandard read standard ((at? [group, key] (layer vs)).or below) = some a) :
    orStandard read standard ((assigned? vs [group, key]).or below) = some a := by
  induction vs using List.reverseRecOn with
  | nil => exact ha
  | append_singleton vs v ih =>
    rw [assigned?_concat]
    rcases h.path_cases with hpath | ⟨first, second, path, hpath⟩
    · rw [layer_concat_none hpath] at ha
      rw [hpath, if_neg nofun]
      exact ih h.init ha
    have hold : ∀ u, at? [group, key] (layer vs) = some u → Written u := fun u hu =>
      (written_layer vs).of_at? hu
    have hinner := (Literal.written_ofText v.2).nest path
    rw [layer_concat_some hpath, nest, List.foldr_cons, List.foldr_cons, at?_lay_nest] at ha
    rw [hpath]
    by_cases hkeys : first = group ∧ second = key
    · obtain ⟨rfl, rfl⟩ := hkeys
      have hread : read (nest path (Literal.ofText v.2)) = some a := by
        rw [← orStandard_layOver hplain hold hinner, ← ha, if_pos ⟨rfl, rfl⟩]
        cases at? [first, second] (layer vs) <;> rfl
      cases path with
      | nil => rwa [if_pos rfl]
      | cons name path =>
        -- The setting is a table then, which the reader does not read.
        rw [nest, List.foldr_cons, hplain _ hinner] at hread
        cases hread
    · rw [if_neg hkeys, Value.layOver_none] at ha
      rw [if_neg fun h => ?_]
      · exact ih h.init ha
      · cases h
        exact hkeys ⟨rfl, rfl⟩

end Reading

end DmarcReports.Settings.Environment
