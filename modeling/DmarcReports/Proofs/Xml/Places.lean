import DmarcReports.Text.Blank
import DmarcReports.Xml.Node

/-!
Places in a document, and changes of the elements that stand there.

A place is a path of element names from a node down, which goes by the first element of each name.
-/

set_option autoImplicit false
set_option relaxedAutoImplicit false

namespace DmarcReports.Xml

def changeFirst (p : Node → Bool) (f : Node → Node) : List Node → List Node
  | [] => []
  | n :: ns => if p n then f n :: ns else n :: changeFirst p f ns

/-- Whether two paths lead to different places, neither of them below the other. -/
def apart : List String → List String → Bool
  | a :: as, b :: bs => a != b || apart as bs
  | _, _ => false

namespace Node

def at? (n : Node) (path : List String) : Option Node :=
  path.foldl (fun e name => e.bind (·.child? name)) (some n)

/-- The value at the end of a path; empty where the path leads to no element. -/
def value (n : Node) (path : List String) : String :=
  ((n.at? path).map fun e => Text.trim e.leadingText).getD ""

def elements (n : Node) (path : List String) (name : String) : List Node :=
  ((n.at? path).map (·.named name)).getD []

def changeChildren (f : List Node → List Node) : Node → Node
  | element name attributes children => element name attributes (f children)
  | n => n

def changeAt (f : Node → Node) : List String → Node → Node
  | [], n => f n
  | name :: path, n => n.changeChildren (changeFirst (isNamed name) (changeAt f path))

def changeNamed (name : String) (f : Node → Node) (n : Node) : Node :=
  n.changeChildren fun ns => ns.map fun c => if c.isNamed name then f c else c

/-- That a change leaves to elements their names, and makes no elements of other nodes. -/
def KeepsNames (f : Node → Node) : Prop :=
  ∀ n name, (f n).isNamed name = n.isNamed name

end Node

open Node

section Lists

variable {p q : Node → Bool} {f : Node → Node}

private theorem find?_changeFirst (hf : ∀ n, p (f n) = p n) (ns : List Node) :
    (changeFirst p f ns).find? p = (ns.find? p).map f := by
  induction ns with
  | nil => rfl
  | cons n ns ih =>
    rw [changeFirst]
    split
    · rename_i hn
      rw [List.find?_cons_of_pos ((hf n).trans hn), List.find?_cons_of_pos hn, Option.map_some]
    · rename_i hn
      rw [List.find?_cons_of_neg hn, List.find?_cons_of_neg hn, ih]

private theorem filter_changeFirst (hf : ∀ n, q (f n) = q n) (hpq : ∀ n, p n = true → q n = false)
    (ns : List Node) : (changeFirst p f ns).filter q = ns.filter q := by
  induction ns with
  | nil => rfl
  | cons n ns ih =>
    rw [changeFirst]
    split
    · rename_i hn
      have hq : ¬q n = true := Bool.not_eq_true _ ▸ hpq n hn
      rw [List.filter_cons_of_neg (hf n ▸ hq), List.filter_cons_of_neg hq]
    · rw [List.filter_cons, List.filter_cons, ih]

private theorem filter_map_if (hp : ∀ n, p (f n) = p n) (ns : List Node) :
    (ns.map fun n => if p n then f n else n).filter p = (ns.filter p).map f := by
  induction ns with
  | nil => rfl
  | cons n ns ih =>
    by_cases hn : p n = true
    · rw [List.map_cons, if_pos hn, List.filter_cons_of_pos ((hp n).trans hn), ih,
        List.filter_cons_of_pos hn, List.map_cons]
    · rw [List.map_cons, if_neg hn, List.filter_cons_of_neg hn, ih, List.filter_cons_of_neg hn]

private theorem filter_map_if_of_disjoint (hf : ∀ n, q (f n) = q n)
    (hpq : ∀ n, p n = true → q n = false) (ns : List Node) :
    (ns.map fun n => if p n then f n else n).filter q = ns.filter q := by
  induction ns with
  | nil => rfl
  | cons n ns ih =>
    by_cases hn : p n = true
    · have hq : ¬q n = true := Bool.not_eq_true _ ▸ hpq n hn
      rw [List.map_cons, if_pos hn, List.filter_cons_of_neg (hf n ▸ hq), ih,
        List.filter_cons_of_neg hq]
    · rw [List.map_cons, if_neg hn, List.filter_cons, ih, List.filter_cons]

end Lists

theorem isNamed_disjoint {name other : String} (h : name ≠ other) (n : Node)
    (hn : n.isNamed name = true) : n.isNamed other = false := by
  cases n with
  | element own attributes children =>
    have hname : own.base = name := beq_iff_eq.mp hn
    exact beq_eq_false_iff_ne.mpr (hname ▸ h)
  | text | comment | instruction => rfl

namespace Node

variable {n : Node} {f : Node → Node} {name other : String} {path place : List String}

theorem keepsNames_changeChildren (g : List Node → List Node) : KeepsNames (changeChildren g) := by
  intro n name
  cases n <;> rfl

theorem keepsNames_changeAt (hf : KeepsNames f) (path : List String) :
    KeepsNames (changeAt f path) := by
  cases path with
  | nil => exact hf
  | cons => exact keepsNames_changeChildren _

private theorem child?_eq_head?_named (n : Node) (name : String) :
    n.child? name = (n.named name).head? :=
  List.head?_filter.symm

private theorem children_changeChildren {g : List Node → List Node} (hg : g [] = []) (n : Node) :
    (n.changeChildren g).children = g n.children := by
  cases n with
  | element => rfl
  | text | comment | instruction => exact hg.symm

theorem at?_cons (n : Node) (name : String) (path : List String) :
    n.at? (name :: path) = (n.child? name).bind (·.at? path) := by
  rw [at?, List.foldl_cons, Option.bind_some]
  cases n.child? name with
  | some e => rfl
  | none =>
    rw [Option.bind_none]
    induction path with
    | nil => rfl
    | cons next path ih => exact ih

private theorem child?_changeAt_self (hf : KeepsNames f) :
    (n.changeAt f (name :: path)).child? name = (n.child? name).map (changeAt f path) := by
  rw [child?, changeAt, children_changeChildren rfl,
    find?_changeFirst fun e => keepsNames_changeAt hf path e name]
  rfl

theorem named_changeAt_of_ne (hf : KeepsNames f) (h : name ≠ other) :
    (n.changeAt f (name :: path)).named other = n.named other := by
  rw [named, changeAt, children_changeChildren rfl,
    filter_changeFirst (fun e => keepsNames_changeAt hf path e other) (isNamed_disjoint h)]
  rfl

theorem named_changeNamed_self (hf : KeepsNames f) :
    (n.changeNamed name f).named name = (n.named name).map f := by
  rw [named, changeNamed, children_changeChildren rfl, filter_map_if fun e => hf e name]
  rfl

theorem named_changeNamed_of_ne (hf : KeepsNames f) (h : name ≠ other) :
    (n.changeNamed name f).named other = n.named other := by
  rw [named, changeNamed, children_changeChildren rfl,
    filter_map_if_of_disjoint (fun e => hf e other) (isNamed_disjoint h)]
  rfl

theorem at?_changeAt_self (hf : KeepsNames f) :
    (n.changeAt f path).at? path = (n.at? path).map f := by
  induction path generalizing n with
  | nil => rfl
  | cons name path ih =>
    rw [at?_cons, at?_cons, child?_changeAt_self hf]
    cases n.child? name with
    | none => rfl
    | some e => exact ih

theorem at?_changeAt_of_apart (hf : KeepsNames f) (h : apart place path = true) :
    (n.changeAt f place).at? path = n.at? path := by
  induction place generalizing n path with
  | nil => cases h
  | cons a as ih =>
    cases path with
    | nil => cases h
    | cons b bs =>
      -- The paths part here, or they go on to the same child and part below it.
      rw [at?_cons, at?_cons]
      by_cases hab : a = b
      · subst hab
        have has : apart as bs = true := by simpa [apart] using h
        rw [child?_changeAt_self hf]
        cases n.child? a with
        | none => rfl
        | some e => exact ih has
      · rw [child?_eq_head?_named, named_changeAt_of_ne hf hab, child?_eq_head?_named]

private theorem apart_singleton {a b : String} {bs : List String} (h : apart [a] (b :: bs) = true) :
    a ≠ b := by
  simpa [apart] using h

private theorem at?_changeNamed_of_apart (hf : KeepsNames f) (h : apart [name] path = true) :
    (n.changeNamed name f).at? path = n.at? path := by
  cases path with
  | nil => cases h
  | cons b bs =>
    rw [at?_cons, at?_cons, child?_eq_head?_named, named_changeNamed_of_ne hf (apart_singleton h),
      child?_eq_head?_named]

theorem value_changeNamed_of_apart (hf : KeepsNames f) (h : apart [name] path = true) :
    (n.changeNamed name f).value path = n.value path := by
  rw [value, at?_changeNamed_of_apart hf h, value]

end Node

end DmarcReports.Xml
