import Mathlib.Data.List.Forall2
import DmarcReports.Proofs.Report.Accepted
import DmarcReports.Proofs.Text.WholeNumber
import DmarcReports.Proofs.Xml.Places

/-!
Values of a report and the numbers that they give.

A value is the trimmed text that the element at its place starts with. Where a number is meant, it
must write one, but an empty text stands for a default.
-/

set_option autoImplicit false
set_option relaxedAutoImplicit false

namespace DmarcReports

namespace Report

open Xml (Node)

/-- That a value gives this number: it writes the number, or it is empty and the number is the
default. -/
def Gives {α : Type} (Writes : List Char → α → Prop) (default : α) (text : String) (a : α) : Prop :=
  if text = "" then a = default else Writes text.toList a

section Number

variable {α β : Type} {read? : List Char → Option α} {Writes : List Char → β → Prop} {f : α → β}
  {n : Option Node} {name : String} {default : α}

theorem numberOf_eq_ok_iff (hread : ∀ cs a, read? cs = some a ↔ Writes cs (f a))
    (hf : Function.Injective f) {a : α} :
    numberOf read? n name default = .ok a ↔ Gives Writes (f default) (textOf n name) (f a) := by
  unfold numberOf Gives
  split
  · rw [Except.ok.injEq, hf.eq_iff, eq_comm]
  · rw [← hread]
    cases read? (textOf n name).toList with
    | none => simp
    | some b => simp

theorem numberOf_eq_error_iff (hread : ∀ cs a, read? cs = some a ↔ Writes cs (f a))
    (hf : Function.Injective f) {e : Rejection} :
    numberOf read? n name default = .error e ↔
      e = .invalidNumber ∧ ¬∃ a, Gives Writes (f default) (textOf n name) (f a) := by
  simp only [← numberOf_eq_ok_iff hread hf]
  unfold numberOf
  split
  · simp
  · cases read? (textOf n name).toList with
    | none => simp [eq_comm]
    | some b => simp

end Number

theorem mapM_eq_ok_iff {ε α β : Type} {f : α → Except ε β} {as : List α} {bs : List β} :
    as.mapM f = .ok bs ↔ List.Forall₂ (fun a b => f a = .ok b) as bs := by
  induction as generalizing bs with
  | nil => simp [pure, Except.pure, List.forall₂_nil_left_iff, eq_comm]
  | cons a as ih =>
    simp only [List.mapM_cons, bind_eq_ok_iff, ih, pure, Except.pure, Except.ok.injEq]
    constructor
    · rintro ⟨b, hb, bs, hbs, rfl⟩
      exact .cons hb hbs
    · rintro (_ | ⟨hb, hbs⟩)
      exact ⟨_, hb, _, hbs, rfl⟩

theorem forall_mem_left {α β : Type} {R : α → β → Prop} {P : α → Prop} {as : List α} {bs : List β}
    (h : List.Forall₂ R as bs) (hR : ∀ a b, R a b → P a) : ∀ a ∈ as, P a := by
  induction h with
  | nil => nofun
  | cons hab _ ih => exact List.forall_mem_cons.mpr ⟨hR _ _ hab, ih⟩

theorem forall_mem_right {α β : Type} {R : α → β → Prop} {P : β → Prop} {as : List α} {bs : List β}
    (h : List.Forall₂ R as bs) (hR : ∀ a b, R a b → P b) : ∀ b ∈ bs, P b :=
  forall_mem_left (List.Forall₂.flip h) fun b a => hR a b

theorem exists_of_mapM_eq_error {ε α β : Type} {f : α → Except ε β} {as : List α} {e : ε}
    (h : as.mapM f = .error e) : ∃ a ∈ as, f a = .error e := by
  induction as with
  | nil => cases h
  | cons a as ih =>
    simp only [List.mapM_cons, bind_eq_error_iff, pure, Except.pure] at h
    rcases h with h | ⟨b, -, h | ⟨bs, -, h⟩⟩
    · exact ⟨a, List.mem_cons_self, h⟩
    · obtain ⟨c, hc, hce⟩ := ih h
      exact ⟨c, List.mem_cons_of_mem a hc, hce⟩
    · cases h

end Report

end DmarcReports
