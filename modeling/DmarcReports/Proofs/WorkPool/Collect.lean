import Mathlib.Data.List.Nodup
import Mathlib.Data.List.Perm.Subperm
import DmarcReports.WorkPool

/-!
Putting results back in their order.

Every message carries the place of its item, and the places differ, so the slots that are filled do
not depend on the order in which the messages arrive.
-/

set_option autoImplicit false
set_option relaxedAutoImplicit false

namespace DmarcReports.WorkPool

variable {α β : Type}

def placed (xs : List α) : List (Nat × α) :=
  xs.zipIdx.map fun x => (x.2, x.1)

theorem mem_placed_iff {xs : List α} {i : Nat} {x : α} : (i, x) ∈ placed xs ↔ xs[i]? = some x := by
  simp [placed, List.mk_mem_zipIdx_iff_getElem?]

theorem length_placed (xs : List α) : (placed xs).length = xs.length := by
  simp [placed]

private theorem nodup_places (xs : List α) : ((placed xs).map Prod.fst).Nodup := by
  have hplaces : (placed xs).map Prod.fst = List.range' 0 xs.length := by
    simp only [placed, List.map_map, Function.comp_def]
    exact List.zipIdx_map_snd 0 xs
  rw [hplaces]
  exact List.nodup_range'

theorem map_placed (f : α → β) (xs : List α) :
    (placed xs).map (fun x => (x.1, f x.2)) = placed (xs.map f) := by
  simp [placed, List.zipIdx_map, Function.comp_def]

private def put (slots : List (Option β)) (m : Nat × β) : List (Option β) :=
  slots.set m.1 (some m.2)

private theorem collect_eq (total : Nat) (messages : List (Nat × β)) :
    collect total messages =
      match ((messages.take total).foldl put (List.replicate total none)).mapM id with
      | some results => .ok results
      | none => .error (.incomplete (messages.take total).length total) := rfl

private theorem length_foldl_put (messages : List (Nat × β)) (slots : List (Option β)) :
    (messages.foldl put slots).length = slots.length := by
  induction messages generalizing slots with
  | nil => rfl
  | cons m messages ih => rw [List.foldl_cons, ih, put, List.length_set]

private theorem getElem?_foldl_put_of_notMem (messages : List (Nat × β))
    (slots : List (Option β)) {i : Nat} (h : i ∉ messages.map Prod.fst) :
    (messages.foldl put slots)[i]? = slots[i]? := by
  induction messages generalizing slots with
  | nil => rfl
  | cons m messages ih =>
    simp only [List.map_cons, List.mem_cons, not_or] at h
    rw [List.foldl_cons, ih _ h.2, put, List.getElem?_set_ne (Ne.symm h.1)]

private theorem getElem?_foldl_put_of_mem (messages : List (Nat × β)) (slots : List (Option β))
    (hplaces : (messages.map Prod.fst).Nodup) {i : Nat} {b : β} (hm : (i, b) ∈ messages)
    (hi : i < slots.length) : (messages.foldl put slots)[i]? = some (some b) := by
  induction messages generalizing slots with
  | nil => simp at hm
  | cons m messages ih =>
    rw [List.map_cons, List.nodup_cons] at hplaces
    rw [List.foldl_cons]
    rcases List.mem_cons.mp hm with rfl | hm
    · rw [getElem?_foldl_put_of_notMem _ _ hplaces.1, put, List.getElem?_set_self hi]
    · exact ih _ hplaces.2 hm (by rwa [put, List.length_set])

theorem mapM_eq_some_iff {f : α → Option β} {xs : List α} {ys : List β} :
    xs.mapM f = some ys ↔ xs.map f = ys.map some := by
  induction xs generalizing ys with
  | nil => cases ys <;> simp
  | cons x xs ih =>
    simp only [List.mapM_cons, Option.bind_eq_bind, Option.bind_eq_some_iff, Option.pure_def,
      Option.some.injEq, List.map_cons]
    constructor
    · rintro ⟨b, hb, bs, hbs, rfl⟩
      rw [List.map_cons, hb, ih.mp hbs]
    · intro h
      cases ys with
      | nil => simp at h
      | cons y ys =>
        rw [List.map_cons, List.cons.injEq] at h
        exact ⟨y, h.1, ys, ih.mpr h.2, rfl⟩

theorem mapM_eq_none_iff {f : α → Option β} {xs : List α} :
    xs.mapM f = none ↔ ∃ x ∈ xs, f x = none := by
  induction xs with
  | nil => simp
  | cons x xs ih =>
    rw [List.mapM_cons]
    cases hx : f x with
    | none => simp [hx]
    | some b => cases hxs : xs.mapM f <;> simp_all

theorem collect_of_perm {results : List β} {messages : List (Nat × β)}
    (h : messages.Perm (placed results)) : collect results.length messages = .ok results := by
  have hlength : messages.length = results.length := by rw [h.length_eq, length_placed]
  have hplaces : (messages.map Prod.fst).Nodup :=
    (h.map Prod.fst).nodup_iff.mpr (nodup_places results)
  have hslots : messages.foldl put (List.replicate results.length none) = results.map some := by
    apply List.ext_getElem?
    intro i
    by_cases hi : i < results.length
    · have hm : (i, results[i]) ∈ messages :=
        h.mem_iff.mpr (mem_placed_iff.mpr (List.getElem?_eq_getElem hi))
      rw [getElem?_foldl_put_of_mem messages _ hplaces hm (by simpa using hi)]
      simp [hi]
    · rw [List.getElem?_eq_none (by simp [length_foldl_put]; omega),
        List.getElem?_eq_none (by simp; omega)]
  have hall : (results.map some).mapM id = some results :=
    mapM_eq_some_iff.mpr (List.map_id _)
  rw [collect_eq, List.take_of_length_le (Nat.le_of_eq hlength), hslots, hall]

theorem collect_of_length_lt {total : Nat} {messages : List (Nat × β)}
    (h : messages.length < total) :
    collect total messages = .error (.incomplete messages.length total) := by
  obtain ⟨i, hi, hfree⟩ : ∃ i < total, i ∉ messages.map Prod.fst := by
    by_contra hfull
    push Not at hfull
    have hsub : (List.range total).Subperm (messages.map Prod.fst) :=
      List.nodup_range.subperm fun i hi => hfull i (List.mem_range.mp hi)
    have hle := hsub.length_le
    simp only [List.length_range, List.length_map] at hle
    omega
  have hslot : (messages.foldl put (List.replicate total none))[i]? = some none := by
    rw [getElem?_foldl_put_of_notMem _ _ hfree]
    simp [hi]
  have hnone : (messages.foldl put (List.replicate total none)).mapM id = none :=
    mapM_eq_none_iff.mpr ⟨none, List.mem_of_getElem? hslot, rfl⟩
  rw [collect_eq, List.take_of_length_le (Nat.le_of_lt h), hnone]

end DmarcReports.WorkPool
