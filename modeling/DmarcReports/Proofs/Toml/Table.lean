import DmarcReports.Proofs.Settings.Value
import DmarcReports.Toml.Table

/-!
What tables hold that are put together from entries and headers.

Every entry and every header goes to its place by `put`, on its way through tables that were there
before. Main statements: `sound_addAll` and `sound_openTable`.
-/

set_option autoImplicit false
set_option relaxedAutoImplicit false

namespace DmarcReports.Toml

open Settings (Value lookup? put)
open Settings.Value (Written)

private theorem tableValues_eq_map (ts : List Entries) :
    tableValues ts = ts.map fun t => .table (entryValues t) := by
  induction ts with
  | nil => rfl
  | cons t ts ih => rw [tableValues, ih, List.map_cons]

private theorem lookup?_entryValues (name : String) (es : Entries) :
    lookup? name (entryValues es) = (lookup? name es).map Item.toValue := by
  induction es with
  | nil => rfl
  | cons e es ih =>
    obtain ⟨k, i⟩ := e
    rw [entryValues, lookup?, lookup?, ih]
    split <;> rfl

private theorem entryValues_put (name : String) (i : Item) (es : Entries) :
    entryValues (put name i es) = put name i.toValue (entryValues es) := by
  induction es with
  | nil => rfl
  | cons e es ih =>
    obtain ⟨k, j⟩ := e
    rw [put, entryValues, put]
    split
    · rw [entryValues]
    · rw [entryValues, ih]

private theorem written_tables_iff (ts : List Entries) :
    Written (Item.tables ts).toValue ↔ ∀ t ∈ ts, Written (.table (entryValues t)) := by
  rw [Item.toValue, tableValues_eq_map]
  constructor
  · intro h t ht
    cases h with
    | array members => exact members _ (List.mem_reverse.mpr (List.mem_map_of_mem ht))
  · intro h
    refine .array fun v hv => ?_
    obtain ⟨t, ht, rfl⟩ := List.mem_map.mp (List.mem_reverse.mp hv)
    exact h t ht

namespace Entries

def Sound (es : Entries) : Prop :=
  Written (.table (entryValues es))

variable {name first : String} {v : Value} {path : List String} {i : Item} {es es' t t' : Entries}
  {ts : List Entries} {origin : Origin} {vs : List (Key × Value)}

theorem sound_nil : Sound [] :=
  .table List.nodup_nil nofun

theorem Sound.put (hes : Sound es) (hi : Written i.toValue) : Sound (Settings.put name i es) := by
  rw [Sound, entryValues_put]
  exact Written.put hes hi

theorem Sound.of_lookup? (hes : Sound es) (hi : lookup? name es = some i) : Written i.toValue := by
  have hvalue : lookup? name (entryValues es) = some i.toValue := by
    rw [lookup?_entryValues, hi]
    rfl
  exact Written.of_lookup? hes hvalue

private theorem Sound.put_table (hes : Sound es) (ht : Sound t) :
    Sound (Settings.put name (.table origin t) es) :=
  hes.put ht

private theorem Sound.put_tables (hes : Sound es) (hts : lookup? name es = some (.tables (t :: ts)))
    (ht : Sound t') : Sound (Settings.put name (.tables (t' :: ts)) es) := by
  have hall := List.forall_mem_cons.mp ((written_tables_iff _).mp (hes.of_lookup? hts))
  exact hes.put ((written_tables_iff _).mpr (List.forall_mem_cons.mpr ⟨ht, hall.2⟩))

private theorem Sound.of_tables (hes : Sound es)
    (hts : lookup? name es = some (.tables (t :: ts))) :
    Sound t :=
  (written_tables_iff _).mp (hes.of_lookup? hts) t List.mem_cons_self

private theorem sound_addValue (hv : Written v) (hes : Sound es)
    (h : addValue name v path es = some es') : Sound es' := by
  induction path generalizing es es' with
  | nil =>
    rw [addValue] at h
    split at h
    · cases h
    · cases h
      exact hes.put hv
  | cons first path ih =>
    rw [addValue] at h
    split at h
    · obtain ⟨t, ht, rfl⟩ := Option.map_eq_some_iff.mp h
      exact hes.put_table (ih sound_nil ht)
    · rename_i hold
      obtain ⟨t', ht', rfl⟩ := Option.map_eq_some_iff.mp h
      exact hes.put_table (ih (hes.of_lookup? hold) ht')
    · rename_i hold
      split at h
      · cases h
      · obtain ⟨t', ht', rfl⟩ := Option.map_eq_some_iff.mp h
        exact hes.put_table (ih (hes.of_lookup? hold) ht')
    · rename_i hold
      split at h
      · cases h
      · obtain ⟨t', ht', rfl⟩ := Option.map_eq_some_iff.mp h
        exact hes.put_tables hold (ih (hes.of_tables hold) ht')
    · cases h

theorem sound_addAll (hvs : ∀ v ∈ vs, Written v.2) (hes : Sound es)
    (h : addAll vs es = some es') : Sound es' := by
  induction vs generalizing es with
  | nil =>
    cases h
    exact hes
  | cons v vs ih =>
    obtain ⟨hv, hvs⟩ := List.forall_mem_cons.mp hvs
    obtain ⟨t, ht, h⟩ := Option.bind_eq_some_iff.mp h
    exact ih hvs (sound_addValue hv hes ht) h

theorem sound_openTable {inArray : Bool} (hvs : ∀ v ∈ vs, Written v.2) (hes : Sound es)
    (h : openTable inArray name vs path es = some es') : Sound es' := by
  induction path generalizing es es' with
  | nil =>
    unfold openTable at h
    split at h
    · obtain ⟨t, ht, rfl⟩ := Option.map_eq_some_iff.mp h
      exact hes.put_table (sound_addAll hvs sound_nil ht)
    · rename_i hold
      obtain ⟨t', ht', rfl⟩ := Option.map_eq_some_iff.mp h
      exact hes.put_table (sound_addAll hvs (hes.of_lookup? hold) ht')
    · obtain ⟨t, ht, rfl⟩ := Option.map_eq_some_iff.mp h
      exact hes.put ((written_tables_iff _).mpr
        (List.forall_mem_singleton.mpr (sound_addAll hvs sound_nil ht)))
    · rename_i hold
      obtain ⟨t, ht, rfl⟩ := Option.map_eq_some_iff.mp h
      have hall := (written_tables_iff _).mp (hes.of_lookup? hold)
      exact hes.put ((written_tables_iff _).mpr
        (List.forall_mem_cons.mpr ⟨sound_addAll hvs sound_nil ht, hall⟩))
    · cases h
  | cons first path ih =>
    unfold openTable at h
    split at h
    · obtain ⟨t, ht, rfl⟩ := Option.map_eq_some_iff.mp h
      exact hes.put_table (ih sound_nil ht)
    · rename_i hold
      obtain ⟨t', ht', rfl⟩ := Option.map_eq_some_iff.mp h
      exact hes.put_table (ih (hes.of_lookup? hold) ht')
    · rename_i hold
      obtain ⟨t', ht', rfl⟩ := Option.map_eq_some_iff.mp h
      exact hes.put_tables hold (ih (hes.of_tables hold) ht')
    · cases h

end Entries

end DmarcReports.Toml
