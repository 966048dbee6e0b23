import Mathlib.Logic.Function.Basic
import Mathlib.Logic.Relation
import DmarcReports.Proofs.Xml.Places

/-!
Queries of a document, and the changes that they do not see.

A query names the elements that are looked up in an element: the first one of a name for its value,
the first one of a name for what is in it, or every one of a name. Main statement:
`answer_eq_of_unseen`.
-/

set_option autoImplicit false
set_option relaxedAutoImplicit false

namespace DmarcReports.Xml

/-- What is looked up in an element, by the unqualified names of its child elements. -/
inductive Query where
  | none
  /-- The value of the first element of this name. -/
  | value (name : String) (rest : Query)
  /-- What is asked for in the first element of this name. -/
  | first (name : String) (inner rest : Query)
  /-- What is asked for in every element of this name. -/
  | each (name : String) (inner rest : Query)

/-- The values that a query finds, in its order. -/
inductive Answer where
  | none
  | value (text : String) (rest : Answer)
  | elements (inner : List Answer) (rest : Answer)

namespace Query

def answer : Query → Node → Answer
  | none, _ => .none
  | value name rest, n => .value (n.value [name]) (rest.answer n)
  | first name inner rest, n => .elements ((n.child? name).map inner.answer).toList (rest.answer n)
  | each name inner rest, n => .elements ((n.named name).map inner.answer) (rest.answer n)

/-- The names of which the first element counts for its value. -/
def valueNames : Query → List String
  | none => []
  | value name rest => name :: rest.valueNames
  | first _ _ rest | each _ _ rest => rest.valueNames

/-- The names of which every element counts. -/
def eachNames : Query → List String
  | none => []
  | each name _ rest => name :: rest.eachNames
  | value _ rest | first _ _ rest => rest.eachNames

def names : Query → List String
  | none => []
  | value name rest | first name _ rest | each name _ rest => name :: rest.names

def inside (base : String) : Query → List Query
  | none => []
  | value _ rest => rest.inside base
  | first name inner rest | each name inner rest =>
    if name = base then inner :: rest.inside base else rest.inside base

/-- The paths to the values that are looked up without going through all elements of a name. -/
def paths : Query → List (List String)
  | none => []
  | value name rest => [name] :: rest.paths
  | first name inner rest => inner.paths.map (name :: ·) ++ rest.paths
  | each _ _ rest => rest.paths

/-- The places where every element of a name is looked up: the path to the element around them,
their name, and what is asked for in them. -/
def eachPlaces : Query → List (List String × String × Query)
  | none => []
  | value _ rest => rest.eachPlaces
  | first name inner rest =>
    inner.eachPlaces.map (fun e => (name :: e.1, e.2)) ++ rest.eachPlaces
  | each name inner rest => ([], name, inner) :: rest.eachPlaces

end Query

mutual

/-- The node without qualifiers and attributes, on itself and on all nodes in it. -/
def Node.untagged : Node → Node
  | .element name _ children => .element (Name.plain name.base) [] (untaggedAll children)
  | n => n

def untaggedAll : List Node → List Node
  | [] => []
  | n :: ns => n.untagged :: untaggedAll ns

end

/-- One change of an element that a query does not see. -/
inductive Unseen : Query → Node → Node → Prop where
  /-- A node between the children that is no element of a name that is looked up. -/
  | insert {q : Query} {name : Name} {attributes : List Attribute} (before after : List Node)
      (n : Node) (hname : ∀ base ∈ q.names, n.isNamed base = false) :
      Unseen q (.element name attributes (before ++ after))
        (.element name attributes (before ++ n :: after))
  /-- One more element behind the first one of its name, where not every one counts. -/
  | again {q : Query} {name : Name} {attributes : List Attribute} (before after : List Node)
      (n : Node) (base : String) (hbase : base ∉ q.eachNames) (hname : n.isNamed base = true)
      (hfirst : before.any (Node.isNamed base) = true) :
      Unseen q (.element name attributes (before ++ after))
        (.element name attributes (before ++ n :: after))
  /-- Other qualifiers and attributes anywhere, and another name of the element itself. -/
  | retag {q : Query} {name name' : Name} {attributes attributes' : List Attribute}
      {children children' : List Node} (hchildren : untaggedAll children = untaggedAll children') :
      Unseen q (.element name attributes children) (.element name' attributes' children')
  /-- A change inside a child that is not seen by what is asked for in elements of its name. -/
  | inside {q : Query} {name : Name} {attributes : List Attribute} (before after : List Node)
      {n n' : Node} (base : String) (hbase : base ∉ q.valueNames) (hname : n.isNamed base = true)
      (hname' : n'.isNamed base = true) (hinner : ∀ inner ∈ q.inside base, Unseen inner n n') :
      Unseen q (.element name attributes (before ++ n :: after))
        (.element name attributes (before ++ n' :: after))

namespace Node

variable {n : Node} {name : Name} {attributes : List Attribute} {before after : List Node}
  {base : String}

private theorem value_singleton (n : Node) (base : String) :
    n.value [base] = ((n.child? base).map fun e => Text.trim e.leadingText).getD "" := rfl

private theorem child?_insert (h : n.isNamed base = false) :
    (element name attributes (before ++ n :: after)).child? base =
      (element name attributes (before ++ after)).child? base := by
  simp only [child?, children, List.find?_append, List.find?_cons, h]

private theorem named_insert (h : n.isNamed base = false) :
    (element name attributes (before ++ n :: after)).named base =
      (element name attributes (before ++ after)).named base := by
  simp [named, children, h]

private theorem child?_again (hfirst : before.any (isNamed base) = true) :
    (element name attributes (before ++ n :: after)).child? base =
      (element name attributes (before ++ after)).child? base := by
  obtain ⟨e, he, hnamed⟩ := List.any_eq_true.mp hfirst
  have hfound : (before.find? (isNamed base)).isSome = true := List.find?_isSome.mpr ⟨e, he, hnamed⟩
  simp only [child?, children, List.find?_append]
  rw [Option.or_of_isSome hfound, Option.or_of_isSome hfound]

private theorem untaggedAll_eq_map (ns : List Node) : untaggedAll ns = ns.map untagged := by
  induction ns with
  | nil => rfl
  | cons n ns ih => rw [untaggedAll, ih, List.map_cons]

private theorem isNamed_untagged (n : Node) (base : String) :
    n.untagged.isNamed base = n.isNamed base := by
  cases n <;> rfl

private theorem children_untagged (n : Node) : n.untagged.children = n.children.map untagged := by
  cases n with
  | element name attributes children => exact untaggedAll_eq_map children
  | text | comment | instruction => rfl

private theorem child?_untagged (n : Node) (base : String) :
    n.untagged.child? base = (n.child? base).map untagged := by
  rw [child?, children_untagged, List.find?_map]
  simp only [Function.comp_def, isNamed_untagged]
  rfl

private theorem named_untagged (n : Node) (base : String) :
    n.untagged.named base = (n.named base).map untagged := by
  rw [named, children_untagged, List.filter_map]
  simp only [Function.comp_def, isNamed_untagged]
  rfl

private theorem leadingText_untagged (n : Node) : n.untagged.leadingText = n.leadingText := by
  rw [leadingText, leadingText, children_untagged]
  cases n.children with
  | nil => rfl
  | cons c cs => cases c <;> rfl

end Node

namespace Query

open Node (child?_insert named_insert child?_again)

variable {q : Query} {n n' : Node} {name : Name} {attributes : List Attribute}
  {before after : List Node} {base : String}

private theorem answer_congr (hchild : ∀ base ∈ q.names, n.child? base = n'.child? base)
    (hnamed : ∀ base ∈ q.eachNames, n.named base = n'.named base) : q.answer n = q.answer n' := by
  induction q with
  | none => rfl
  | value base rest ih =>
    obtain ⟨hbase, hrest⟩ := List.forall_mem_cons.mp hchild
    rw [answer, answer, Node.value_singleton, Node.value_singleton, hbase, ih hrest hnamed]
  | first base inner rest _ ih =>
    obtain ⟨hbase, hrest⟩ := List.forall_mem_cons.mp hchild
    rw [answer, answer, hbase, ih hrest hnamed]
  | each base inner rest _ ih =>
    obtain ⟨hbase, hnames⟩ := List.forall_mem_cons.mp hnamed
    rw [answer, answer, hbase, ih (List.forall_mem_cons.mp hchild).2 hnames]

private theorem mem_names_of_mem_eachNames (h : base ∈ q.eachNames) : base ∈ q.names := by
  induction q with
  | none => exact h
  | value other rest ih => exact List.mem_cons_of_mem other (ih h)
  | first other inner rest _ ih => exact List.mem_cons_of_mem other (ih h)
  | each other inner rest _ ih =>
    rcases List.mem_cons.mp h with rfl | hrest
    · exact List.mem_cons_self
    · exact List.mem_cons_of_mem other (ih hrest)

private theorem answer_insert (hname : ∀ base ∈ q.names, n.isNamed base = false) :
    q.answer (.element name attributes (before ++ n :: after)) =
      q.answer (.element name attributes (before ++ after)) :=
  answer_congr (fun other hother => child?_insert (hname other hother))
    fun other hother => named_insert (hname other (mem_names_of_mem_eachNames hother))

private theorem answer_again (hbase : base ∉ q.eachNames) (hname : n.isNamed base = true)
    (hfirst : before.any (Node.isNamed base) = true) :
    q.answer (.element name attributes (before ++ n :: after)) =
      q.answer (.element name attributes (before ++ after)) := by
  refine answer_congr (fun other hother => ?_) fun other hother => ?_
  · by_cases hother : base = other
    · exact hother ▸ child?_again hfirst
    · exact child?_insert (isNamed_disjoint hother n hname)
  · have hne : base ≠ other := fun heq => hbase (heq ▸ hother)
    exact named_insert (isNamed_disjoint hne n hname)

private theorem answer_element (name name' : Name) (attributes attributes' : List Attribute)
    (children : List Node) :
    q.answer (.element name attributes children) = q.answer (.element name' attributes' children) :=
  answer_congr (fun _ _ => rfl) fun _ _ => rfl

private theorem answer_untagged (q : Query) (n : Node) : q.answer n.untagged = q.answer n := by
  induction q generalizing n with
  | none => rfl
  | value base rest ih =>
    rw [answer, answer, ih, Node.value_singleton, Node.value_singleton, Node.child?_untagged,
      Option.map_map]
    simp only [Function.comp_def, Node.leadingText_untagged]
  | first base inner rest ihinner ih =>
    rw [answer, answer, ih, Node.child?_untagged, Option.map_map]
    simp only [Function.comp_def, ihinner]
  | each base inner rest ihinner ih =>
    rw [answer, answer, ih, Node.named_untagged, List.map_map]
    simp only [Function.comp_def, ihinner]

private theorem answer_retag {name' : Name} {attributes' : List Attribute}
    {children children' : List Node} (hchildren : untaggedAll children = untaggedAll children') :
    q.answer (.element name attributes children) =
      q.answer (.element name' attributes' children') := by
  rw [← answer_untagged, ← answer_untagged q (.element name' attributes' children'),
    Node.untagged, Node.untagged, hchildren]
  exact answer_element _ _ _ _ _

private theorem answer_inside (hbase : base ∉ q.valueNames) (hname : n.isNamed base = true)
    (hname' : n'.isNamed base = true)
    (hinner : ∀ inner ∈ q.inside base, inner.answer n = inner.answer n') :
    q.answer (.element name attributes (before ++ n :: after)) =
      q.answer (.element name attributes (before ++ n' :: after)) := by
  induction q with
  | none => rfl
  | value other rest ih =>
    obtain ⟨hother, hrest⟩ := not_or.mp (mt List.mem_cons.mpr hbase)
    rw [answer, answer, ih hrest hinner, Node.value_singleton, Node.value_singleton,
      child?_insert (isNamed_disjoint hother n hname),
      child?_insert (isNamed_disjoint hother n' hname')]
  | first other inner rest _ ih =>
    by_cases hother : other = base
    · subst hother
      rw [inside, if_pos rfl] at hinner
      obtain ⟨hthis, hrest⟩ := List.forall_mem_cons.mp hinner
      rw [answer, answer, ih hbase hrest]
      simp only [Node.child?, Node.children, List.find?_append, List.find?_cons, hname, hname',
        Option.map_or, Option.map_some, hthis]
    · rw [inside, if_neg hother] at hinner
      rw [answer, answer, ih hbase hinner,
        child?_insert (isNamed_disjoint (Ne.symm hother) n hname),
        child?_insert (isNamed_disjoint (Ne.symm hother) n' hname')]
  | each other inner rest _ ih =>
    by_cases hother : other = base
    · subst hother
      rw [inside, if_pos rfl] at hinner
      obtain ⟨hthis, hrest⟩ := List.forall_mem_cons.mp hinner
      rw [answer, answer, ih hbase hrest]
      simp only [Node.named, Node.children, List.filter_append, List.filter_cons, hname, hname',
        if_true, List.map_append, List.map_cons, hthis]
    · rw [inside, if_neg hother] at hinner
      rw [answer, answer, ih hbase hinner,
        named_insert (isNamed_disjoint (Ne.symm hother) n hname),
        named_insert (isNamed_disjoint (Ne.symm hother) n' hname')]

/-- A change that a query does not see leaves its answer as it is. -/
theorem answer_eq_of_unseen (h : Unseen q n n') : q.answer n = q.answer n' := by
  induction h with
  | insert _ _ _ hname => exact (answer_insert hname).symm
  | again _ _ _ _ hbase hname hfirst => exact (answer_again hbase hname hfirst).symm
  | retag hchildren => exact answer_retag hchildren
  | inside _ _ _ hbase hname hname' _ ih => exact answer_inside hbase hname hname' ih

theorem answer_eq_of_eqvGen (h : Relation.EqvGen (Unseen q) n n') : q.answer n = q.answer n' := by
  induction h with
  | rel _ _ hstep => exact answer_eq_of_unseen hstep
  | refl _ => rfl
  | symm _ _ _ ih => exact ih.symm
  | trans _ _ _ _ _ ih ih' => exact ih.trans ih'

private theorem found_alike {α β : Type} {f : α → β} {x y : Option α}
    (h : (x.map f).toList = (y.map f).toList) :
    (x = .none ∧ y = .none) ∨ ∃ a b, x = some a ∧ y = some b ∧ f a = f b := by
  cases x with
  | none =>
    cases y with
    | none => exact .inl ⟨rfl, rfl⟩
    | some b => cases h
  | some a =>
    cases y with
    | none => cases h
    | some b => exact .inr ⟨a, b, rfl, rfl, List.head_eq_of_cons_eq h⟩

theorem value_eq_of_answer_eq (h : q.answer n = q.answer n') :
    ∀ path ∈ q.paths, n.value path = n'.value path := by
  induction q generalizing n n' with
  | none => nofun
  | value base rest ih =>
    rw [answer, answer, Answer.value.injEq] at h
    exact List.forall_mem_cons.mpr ⟨h.1, ih h.2⟩
  | first base inner rest ihinner ih =>
    rw [answer, answer, Answer.elements.injEq] at h
    refine List.forall_mem_append.mpr ⟨List.forall_mem_map.mpr fun path hpath => ?_, ih h.2⟩
    rw [Node.value, Node.value, Node.at?_cons, Node.at?_cons]
    rcases found_alike h.1 with ⟨hnone, hnone'⟩ | ⟨c, c', hfound, hfound', halike⟩
    · rw [hnone, hnone']
    · rw [hfound, hfound']
      exact ihinner halike path hpath
  | each base inner rest _ ih =>
    rw [answer, answer, Answer.elements.injEq] at h
    exact ih h.2

theorem elements_eq_of_answer_eq (h : q.answer n = q.answer n') :
    ∀ e ∈ q.eachPlaces,
      (n.elements e.1 e.2.1).map e.2.2.answer = (n'.elements e.1 e.2.1).map e.2.2.answer := by
  induction q generalizing n n' with
  | none => nofun
  | value base rest ih =>
    rw [answer, answer, Answer.value.injEq] at h
    exact ih h.2
  | first base inner rest ihinner ih =>
    rw [answer, answer, Answer.elements.injEq] at h
    refine List.forall_mem_append.mpr ⟨List.forall_mem_map.mpr fun e he => ?_, ih h.2⟩
    rw [Node.elements, Node.elements, Node.at?_cons, Node.at?_cons]
    rcases found_alike h.1 with ⟨hnone, hnone'⟩ | ⟨c, c', hfound, hfound', halike⟩
    · rw [hnone, hnone']
    · rw [hfound, hfound']
      exact ihinner halike e he
  | each base inner rest _ ih =>
    rw [answer, answer, Answer.elements.injEq] at h
    exact List.forall_mem_cons.mpr ⟨h.1, ih h.2⟩

end Query

end DmarcReports.Xml
