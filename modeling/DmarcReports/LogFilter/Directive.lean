import DmarcReports.LogFilter.Field
import DmarcReports.LogFilter.Level
import DmarcReports.Text.Blank
import DmarcReports.Text.ByteOffset

/-!
Directives: which messages of which target are let through, down to which level.

A directive is written `target[span{field=value}]=level`, and every part may be missing. Its parts
are cut from the whole text at positions that were counted without the blanks in front.
-/

set_option autoImplicit false
set_option relaxedAutoImplicit false

namespace DmarcReports.LogFilter

/-- Lets messages through down to a level, where target, span and field are as asked for. -/
structure Directive where
  target : Option (List Char) := none
  span : Option (List Char) := none
  field : Option Field := none
  level : Level := .trace

namespace Directive

/-- Where the reader of a directive stands, with the byte position at which the part began that it
is in. -/
inductive Stage where
  | start
  | levelOrTarget (start : Nat)
  | span (start : Nat)
  | field (start : Nat)
  | fieldEnd
  | spanEnd
  | level (start : Nat)
deriving DecidableEq, Repr

/-- A directive that is being read, and the byte position that the reader has come to. -/
structure Reader where
  stage : Stage := .start
  position : Nat := 0
  found : Directive := {}

def mayStart (c : Char) : Bool :=
  ['-', ':', '_'].contains c || Text.isAlphanumeric c

namespace Reader

/-- The stage after one more character, and the directive as far as it is known then; parts are cut
from `whole`. -/
def next (whole : List Char) (r : Reader) (c : Char) : Option (Stage × Directive) :=
  let behind := r.position + 1
  match r.stage with
  | .start =>
    if c = '[' then some (.span behind, r.found)
    else if mayStart c then some (.levelOrTarget r.position, r.found)
    else none
  | .levelOrTarget start =>
    if c = '=' ∨ c = '[' then
      (Text.ByteOffset.between? whole start r.position).map fun target =>
        (if c = '=' then .level behind else .span behind, { r.found with target := some target })
    else some (r.stage, r.found)
  | .span start =>
    if c = ']' ∨ c = '\x7b' then
      (Text.ByteOffset.between? whole start r.position).map fun name =>
        if c = ']' then (.spanEnd, { r.found with span := some name })
        else (.field behind, { r.found with span := if name = [] then none else some name })
    else some (r.stage, r.found)
  | .field start =>
    if c = '\x7d' then do
      let text ← Text.ByteOffset.between? whole start r.position
      let field ← if text = [] then none else Field.ofChars? text
      return (.fieldEnd, { r.found with field := some field })
    else some (r.stage, r.found)
  | .fieldEnd => if c = ']' then some (.spanEnd, r.found) else none
  | .spanEnd => if c = '=' then some (.level behind, r.found) else none
  | .level _ => some (r.stage, r.found)

def step (whole : List Char) (r : Reader) (c : Char) : Option Reader :=
  (r.next whole c).map fun (stage, found) => ⟨stage, r.position + c.utf8Size, found⟩

def finish (whole : List Char) (r : Reader) : Option Directive :=
  match r.stage with
  | .levelOrTarget start =>
    (Text.ByteOffset.behind? whole start).map fun text =>
      match Level.ofChars? text with
      | some level => { r.found with level := level }
      | none => { r.found with target := some text }
  | .spanEnd => some r.found
  | .level start => do
    let text ← Text.ByteOffset.behind? whole start
    let level ← if text = [] then some .trace else Level.ofChars? text
    return { r.found with level := level }
  | _ => none

end Reader

def ofChars? (cs : List Char) : Option Directive :=
  ((Text.trimChars cs).foldlM (Reader.step cs) {}).bind (Reader.finish cs)

/-- Whether spans or values of fields matter, which only a running program knows. -/
def isDynamic (d : Directive) : Bool :=
  d.span.isSome || d.field.isSome

/-- Whether the directive can be decided from the place of a message alone. -/
def isStatic (d : Directive) : Bool :=
  d.span.isNone && d.field.all (·.value.isNone)

def text (d : Directive) : String :=
  let place := String.ofList (d.target.getD []) ++
    if d.isDynamic then
      "[" ++ String.ofList (d.span.getD []) ++
        (d.field.map fun f => "\x7b" ++ f.text ++ "\x7d").getD "" ++ "]"
    else ""
  if d.target.isSome || d.isDynamic then place ++ "=" ++ d.level.label else d.level.label

def compareOptions {α : Type} (order : α → α → Ordering) : Option α → Option α → Ordering
  | none, none => .eq
  | none, some _ => .lt
  | some _, none => .gt
  | some a, some b => order a b

def byteLength (cs : List Char) : Nat :=
  cs.foldr (fun c n => c.utf8Size + n) 0

/-- The order of directives by how much they ask for: the length of the target, then whether there
are a span and a field, then what all of these are. -/
def compare (d e : Directive) : Ordering :=
  (compareOptions Ord.compare (d.target.map byteLength) (e.target.map byteLength)).then <|
  (Ord.compare d.span.isSome e.span.isSome).then <|
  (Ord.compare d.field.isSome e.field.isSome).then <|
  (compareOptions Ord.compare d.target e.target).then <|
  (compareOptions Ord.compare d.span e.span).then <|
  compareOptions Field.compare d.field e.field

/-- Adds a directive to those in falling order; it takes the place of one that asks for the same. -/
def insert (d : Directive) : List Directive → List Directive
  | [] => [d]
  | e :: es =>
    match d.compare e with
    | .gt => d :: e :: es
    | .eq => d :: es
    | .lt => e :: insert d es

/-- The directives in falling order, with the last one of those that ask for the same. -/
def arrange (ds : List Directive) : List Directive :=
  ds.foldl (fun es d => insert d es) []

end Directive

end DmarcReports.LogFilter
