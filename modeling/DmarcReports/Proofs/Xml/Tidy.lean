import DmarcReports.Proofs.Text.Trim
import DmarcReports.Proofs.Xml.Places

/-!
Elements without their comments and instructions.

An element is bare where all comments and instructions are taken out of it and the texts that become
neighbours are joined.
-/

set_option autoImplicit false
set_option relaxedAutoImplicit false

namespace DmarcReports

namespace Xml

/-- Puts a text in front of nodes, as a part of the text that they start with. -/
def joinText (content : String) : List Node → List Node
  | .text next :: ns => .text (content ++ next) :: ns
  | ns => .text content :: ns

mutual

/-- The node without the comments and instructions in it. -/
def Node.bare : Node → Node
  | .element name attributes children => .element name attributes (bareAll children)
  | n => n

def bareAll : List Node → List Node
  | [] => []
  | .element name attributes children :: ns =>
    (Node.element name attributes children).bare :: bareAll ns
  | .text content :: ns => joinText content (bareAll ns)
  | .comment _ :: ns => bareAll ns
  | .instruction _ _ :: ns => bareAll ns

end

/-- The texts before the first element, as if nothing stood between them. -/
def leadingTexts : List Node → String
  | [] | .element .. :: _ => ""
  | .text content :: ns => content ++ leadingTexts ns
  | .comment _ :: ns | .instruction .. :: ns => leadingTexts ns

namespace Node

/-- The text behind the first child, up to the first element. -/
def laterText (n : Node) : String :=
  match n.children with
  | [] | .element .. :: _ => ""
  | _ :: ns => leadingTexts ns

/-- Whether all text before the first element is text that the node starts with, but for blanks. -/
def isWhole (n : Node) : Bool :=
  n.laterText.toList.all Text.isBlank

def bareAt (places : List (List String)) (n : Node) : Node :=
  places.foldl (fun n place => n.changeAt bare place) n

private theorem keepsNames_bare : KeepsNames bare := by
  intro n name
  cases n <;> rfl

end Node

private theorem leadingText_bareAll (ns : List Node) (name : Name) (attributes : List Attribute) :
    (Node.element name attributes (bareAll ns)).leadingText = leadingTexts ns := by
  induction ns with
  | nil => rfl
  | cons n ns ih =>
    cases n with
    | element => rfl
    | comment => exact ih
    | instruction => exact ih
    | text content =>
      rw [bareAll, leadingTexts, ← ih]
      cases bareAll ns with
      | nil => exact String.append_empty.symm
      | cons next ns =>
        cases next with
        | text => rfl
        | element | comment | instruction => exact String.append_empty.symm

namespace Node

private theorem leadingText_bare (n : Node) :
    n.bare.leadingText = n.leadingText ++ n.laterText := by
  cases n with
  | text | comment | instruction => rfl
  | element name attributes children =>
    rw [bare, leadingText_bareAll]
    cases children with
    | nil => rfl
    | cons c ns =>
      cases c with
      | text => rfl
      | element => rfl
      | comment | instruction => exact String.empty_append.symm

/-- The trimmed text of an element is that of the bare one just when it is whole. -/
private theorem trim_leadingText_bare_iff {n : Node} :
    Text.trim n.bare.leadingText = Text.trim n.leadingText ↔ n.isWhole = true := by
  rw [leadingText_bare, Text.trim_append_eq_iff, isWhole]

section Places

variable {n : Node} {places : List (List String)} {path : List String} {name : String}

theorem keepsNames_bareAt (places : List (List String)) : KeepsNames (bareAt places) := by
  induction places with
  | nil => exact fun _ _ => rfl
  | cons place places ih =>
    intro n name
    rw [bareAt, List.foldl_cons, ← bareAt, ih, keepsNames_changeAt keepsNames_bare]

theorem at?_bareAt_of_apart (h : ∀ place ∈ places, apart place path = true) :
    (n.bareAt places).at? path = n.at? path := by
  induction places generalizing n with
  | nil => rfl
  | cons place places ih =>
    obtain ⟨hplace, hplaces⟩ := List.forall_mem_cons.mp h
    rw [bareAt, List.foldl_cons, ← bareAt, ih hplaces,
      at?_changeAt_of_apart keepsNames_bare hplace]

theorem named_bareAt_of_ne (h : ∀ place ∈ places, apart place [name] = true) :
    (n.bareAt places).named name = n.named name := by
  induction places generalizing n with
  | nil => rfl
  | cons place places ih =>
    obtain ⟨hplace, hplaces⟩ := List.forall_mem_cons.mp h
    rw [bareAt, List.foldl_cons, ← bareAt, ih hplaces]
    cases place with
    | nil => cases hplace
    | cons first rest =>
      have hne : first ≠ name := by
        cases rest <;> simpa [apart] using hplace
      exact named_changeAt_of_ne keepsNames_bare hne

/-- Whole elements keep their values where they are made bare, and so do all that stand elsewhere. -/
theorem value_bareAt (hplaces : places.Pairwise fun a b => apart a b = true)
    (hwhole : ∀ place ∈ places, ∀ e, n.at? place = some e → e.isWhole = true)
    (hpath : ∀ place ∈ places, place = path ∨ apart place path = true) :
    (n.bareAt places).value path = n.value path := by
  induction places generalizing n with
  | nil => rfl
  | cons place places ih =>
    obtain ⟨hplace, hrest⟩ := List.pairwise_cons.mp hplaces
    obtain ⟨hfirst, hwhole⟩ := List.forall_mem_cons.mp hwhole
    obtain ⟨hhead, htail⟩ := List.forall_mem_cons.mp hpath
    have hstep : (n.changeAt bare place).value path = n.value path := by
      rcases hhead with rfl | hapart
      · rw [value, value, at?_changeAt_self keepsNames_bare]
        cases hat : n.at? place with
        | none => rfl
        | some e => exact trim_leadingText_bare_iff.mpr (hfirst e hat)
      · rw [value, value, at?_changeAt_of_apart keepsNames_bare hapart]
    -- The places that are left are apart from this one, so what stands there is still as it was.
    rw [bareAt, List.foldl_cons, ← bareAt, ih hrest (fun other hother e he => ?_) htail, hstep]
    rw [at?_changeAt_of_apart keepsNames_bare (hplace other hother)] at he
    exact hwhole other hother e he

end Places

end Node

end Xml

end DmarcReports
