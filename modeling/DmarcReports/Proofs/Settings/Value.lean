import Mathlib.Data.List.Nodup
import DmarcReports.Settings.Value

/-!
Values that can be written down, and what stands in a layer.

In what files and variables write, no value is missing and no table has a key twice. Main
statements: `at?_lay` and `Plain.read_lay`.
-/

set_option autoImplicit false
set_option relaxedAutoImplicit false

namespace DmarcReports.Settings

section Entries

variable {α : Type} {p : α → Prop} {key : String} {a : α} {es : List (String × α)}

private theorem mem_of_lookup? (h : lookup? key es = some a) : (key, a) ∈ es := by
  induction es with
  | nil => cases h
  | cons e es ih =>
    obtain ⟨k, b⟩ := e
    rw [lookup?] at h
    split at h
    · rename_i hk
      cases h
      exact hk ▸ List.mem_cons_self
    · exact List.mem_cons_of_mem _ (ih h)

private theorem lookup?_eq_none (h : key ∉ es.map Prod.fst) : lookup? key es = none := by
  induction es with
  | nil => rfl
  | cons e es ih =>
    obtain ⟨k, b⟩ := e
    rw [List.map_cons, List.mem_cons, not_or] at h
    rw [lookup?, if_neg (Ne.symm h.1), ih h.2]

private theorem forall_mem_put (h : ∀ e ∈ es, p e.2) (ha : p a) : ∀ e ∈ put key a es, p e.2 := by
  induction es with
  | nil => exact List.forall_mem_singleton.mpr ha
  | cons e es ih =>
    obtain ⟨k, b⟩ := e
    obtain ⟨hb, hes⟩ := List.forall_mem_cons.mp h
    rw [put]
    split
    · exact List.forall_mem_cons.mpr ⟨ha, hes⟩
    · exact List.forall_mem_cons.mpr ⟨hb, ih hes⟩

private theorem mem_keys_put {k : String} (h : k ∈ (put key a es).map Prod.fst) :
    k = key ∨ k ∈ es.map Prod.fst := by
  induction es with
  | nil => exact .inl (List.mem_singleton.mp h)
  | cons e es ih =>
    obtain ⟨l, b⟩ := e
    rw [put] at h
    split at h
    · exact .inr h
    · rcases List.mem_cons.mp h with hk | hk
      · exact .inr (hk ▸ List.mem_cons_self)
      · exact (ih hk).imp_right (List.mem_cons_of_mem _)

theorem nodup_keys_singleton (key : String) (a : α) : ([(key, a)].map Prod.fst).Nodup :=
  List.nodup_singleton key

private theorem nodup_keys_put (h : (es.map Prod.fst).Nodup) :
    ((put key a es).map Prod.fst).Nodup := by
  induction es with
  | nil => exact nodup_keys_singleton key a
  | cons e es ih =>
    obtain ⟨k, b⟩ := e
    obtain ⟨hk, hes⟩ := List.nodup_cons.mp h
    rw [put]
    split
    · exact h
    · rename_i hne
      refine List.nodup_cons.mpr ⟨fun hmem => ?_, ih hes⟩
      exact (mem_keys_put hmem).elim hne hk

end Entries

namespace Value

/-- A value in which nothing is missing and no table has a key twice. -/
inductive Written : Value → Prop
  | boolean (b : Bool) : Written (.boolean b)
  | integer (i : Int) : Written (.integer i)
  | float (x : Float) : Written (.float x)
  | string (s : String) : Written (.string s)
  | array {vs : List Value} (members : ∀ v ∈ vs, Written v) : Written (.array vs)
  | table {es : List (String × Value)} (keys : (es.map Prod.fst).Nodup)
      (members : ∀ e ∈ es, Written e.2) : Written (.table es)

variable {es : List (String × Value)} {key : String} {v lower upper : Value}

theorem Written.keys (h : Written (.table es)) : (es.map Prod.fst).Nodup := by
  cases h
  assumption

theorem Written.members (h : Written (.table es)) : ∀ e ∈ es, Written e.2 := by
  cases h
  assumption

theorem Written.put (h : Written (.table es)) (hv : Written v) :
    Written (.table (put key v es)) :=
  .table (nodup_keys_put h.keys) (forall_mem_put h.members hv)

theorem Written.of_lookup? (h : Written (.table es)) (hv : lookup? key es = some v) : Written v :=
  h.members _ (mem_of_lookup? hv)

/-- What there is, with what there is in another layer laid over it. -/
def layOver : Option Value → Option Value → Option Value
  | some lower, some upper => some (lay lower upper)
  | none, some upper => some upper
  | lower, none => lower

@[simp] theorem layOver_none (lower : Option Value) : layOver lower none = lower := by
  cases lower <;> rfl

@[simp] theorem none_layOver (upper : Option Value) : layOver none upper = upper := by
  cases upper <;> rfl

theorem exists_layOver (lower : Value) (upper : Option Value) :
    ∃ v, layOver (some lower) upper = some v := by
  cases upper with
  | none => exact ⟨lower, rfl⟩
  | some upper => exact ⟨_, rfl⟩

private theorem layEntries_cons (lower : List (String × Value)) (upper : Value) :
    layEntries lower ((key, upper) :: es) =
      layEntries (Settings.put key ((layOver (lookup? key lower) (some upper)).getD upper) lower)
        es := by
  rw [layEntries]
  cases lookup? key lower <;> rfl

private theorem lookup?_layEntries (hkeys : (es.map Prod.fst).Nodup)
    (lower : List (String × Value)) :
    lookup? key (layEntries lower es) = layOver (lookup? key lower) (lookup? key es) := by
  induction es generalizing lower with
  | nil => rw [layEntries, lookup?, layOver_none]
  | cons e es ih =>
    obtain ⟨k, upper⟩ := e
    obtain ⟨hk, hes⟩ := List.nodup_cons.mp hkeys
    rw [layEntries_cons, ih hes, lookup?_put, lookup?]
    by_cases hkey : key = k
    · subst hkey
      rw [if_pos rfl, if_pos rfl, lookup?_eq_none hk, layOver_none]
      cases lookup? key lower <;> rfl
    · rw [if_neg hkey, if_neg (Ne.symm hkey)]

def entries : Value → List (String × Value)
  | .table es => es
  | _ => []

private theorem at?_singleton (v : Value) : at? [key] v = lookup? key v.entries := by
  cases v with
  | table es => simp [at?, entries]
  | null | boolean _ | integer _ | float _ | string _ | array _ => rfl

theorem at?_table (key : String) (es : List (String × Value)) :
    at? [key] (.table es) = lookup? key es :=
  at?_singleton (.table es)

private theorem lay_table (es : List (String × Value)) (lower : Value) :
    lower.lay (.table es) = .table (layEntries lower.entries es) ∨
      lower.entries = [] ∧ lower.lay (.table es) = .table es := by
  cases lower with
  | table lower => exact .inl (by rw [lay, entries])
  | null | boolean _ | integer _ | float _ | string _ | array _ =>
    refine .inr ⟨rfl, ?_⟩
    rw [lay]
    intro _ h
    cases h

theorem table_lay (es : List (String × Value)) (lower : Value) :
    ∃ joined, lower.lay (.table es) = .table joined :=
  (lay_table es lower).elim (fun h => ⟨_, h⟩) fun h => ⟨_, h.2⟩

theorem lay_of_ne_table (h : ∀ es, upper ≠ .table es) : lower.lay upper = upper := by
  rw [lay]
  exact h

private theorem Written.table_entries (h : Written v) : Written (.table v.entries) := by
  cases h with
  | table keys members => exact .table keys members
  | boolean | integer | float | string | array => exact .table List.nodup_nil nofun

theorem Written.layEntries {lower : List (String × Value)} (hlower : Written (.table lower))
    (hupper : ∀ e ∈ es, Written e.2 ∧ ∀ v, Written v → Written (v.lay e.2)) :
    Written (.table (layEntries lower es)) := by
  induction es generalizing lower with
  | nil => rwa [Value.layEntries]
  | cons e es ih =>
    obtain ⟨k, upper⟩ := e
    obtain ⟨⟨hwritten, hlay⟩, hes⟩ := List.forall_mem_cons.mp hupper
    rw [layEntries_cons]
    refine ih (hlower.put ?_) hes
    cases hold : lookup? k lower with
    | none => exact hwritten
    | some old => exact hlay old (hlower.of_lookup? hold)

theorem Written.lay (hlower : Written lower) (hupper : Written upper) :
    Written (lower.lay upper) := by
  induction hupper generalizing lower with
  | boolean b => exact .boolean b
  | integer i => exact .integer i
  | float x => exact .float x
  | string s => exact .string s
  | array members => exact .array members
  | @table es keys members ih =>
    rcases lay_table es lower with hlay | ⟨-, hlay⟩
    · rw [hlay]
      exact hlower.table_entries.layEntries fun e he => ⟨members e he, fun v hv => ih e he hv⟩
    · rw [hlay]
      exact .table keys members

theorem layOver_table (es : List (String × Value)) (lower : Option Value) :
    ∃ joined, layOver lower (some (.table es)) = some (.table joined) := by
  cases lower with
  | none => exact ⟨es, rfl⟩
  | some lower =>
    obtain ⟨joined, hlay⟩ := table_lay es lower
    exact ⟨joined, congrArg some hlay⟩

theorem Written.layOver {lower upper : Option Value} (hlower : ∀ v, lower = some v → Written v)
    (hupper : ∀ v, upper = some v → Written v) : ∀ v, layOver lower upper = some v → Written v := by
  intro v hv
  match lower, upper with
  | some lower, some upper =>
    cases hv
    exact (hlower lower rfl).lay (hupper upper rfl)
  | none, some upper =>
    cases hv
    exact hupper _ rfl
  | lower, none =>
    rw [layOver_none] at hv
    exact hlower v hv

theorem at?_lay (h : (es.map Prod.fst).Nodup) (lower : Value) :
    at? [key] (lower.lay (.table es)) = layOver (at? [key] lower) (lookup? key es) := by
  rw [at?_singleton, at?_singleton]
  rcases lay_table es lower with hlay | ⟨hlower, hlay⟩
  · rw [hlay]
    exact lookup?_layEntries h lower.entries
  · rw [hlay, hlower, entries, lookup?, none_layOver]

theorem at?_lay_single (lower inner : Value) (name : String) :
    at? [key] (lower.lay (.table [(name, inner)])) =
      layOver (at? [key] lower) (if name = key then some inner else none) :=
  at?_lay (nodup_keys_singleton name inner) lower

theorem at?_cons (key : String) (path : List String) (v : Value) :
    at? (key :: path) v = (at? [key] v).bind (at? path) := by
  rw [at?_singleton]
  cases v with
  | table es => rw [at?, entries]
  | null | boolean _ | integer _ | float _ | string _ | array _ => rfl

theorem Written.of_at? {path : List String} {u : Value} (h : Written v) (hu : at? path v = some u) :
    Written u := by
  induction path generalizing v with
  | nil =>
    cases hu
    exact h
  | cons key path ih =>
    rw [at?_cons, at?_singleton] at hu
    obtain ⟨w, hw, hu⟩ := Option.bind_eq_some_iff.mp hu
    exact ih (h.table_entries.of_lookup? hw) hu

theorem Written.nest (path : List String) (h : Written v) : Written (v.nest path) := by
  induction path with
  | nil => exact h
  | cons key path ih =>
    exact .table (nodup_keys_singleton key _) (List.forall_mem_singleton.mpr ih)

theorem bind_at?_layOver (h : (es.map Prod.fst).Nodup) (group : Option Value) :
    (layOver group (some (.table es))).bind (at? [key]) =
      layOver (group.bind (at? [key])) (lookup? key es) := by
  cases group with
  | none => rw [none_layOver, Option.bind_some, at?_table, Option.bind_none, none_layOver]
  | some lower => exact at?_lay h lower

/-- That no table is read which can be written. -/
def Plain {α : Type} (read : Value → Option α) : Prop :=
  ∀ es, Written (.table es) → read (.table es) = none

theorem Plain.read_lay {α : Type} {read : Value → Option α} (hread : Plain read)
    (hlower : Written lower) (hupper : Written upper) : read (lower.lay upper) = read upper := by
  by_cases htable : ∃ es, upper = .table es
  · obtain ⟨es, rfl⟩ := htable
    have hjoined := hlower.lay hupper
    obtain ⟨joined, hlay⟩ := table_lay es lower
    rw [hlay] at hjoined ⊢
    rw [hread _ hjoined, hread _ hupper]
  · rw [lay_of_ne_table (not_exists.mp htable)]

end Value

end DmarcReports.Settings
