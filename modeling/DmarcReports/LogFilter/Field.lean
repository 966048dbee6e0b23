import DmarcReports.Decimal.Numeral
import DmarcReports.LogFilter.Pattern

/-!
Fields of a message that a directive asks for: by name alone, or by name and value.

A value is read as the narrowest kind that its text allows. Fields have an order: those with a value
are greater than those without, then names and values count.
-/

set_option autoImplicit false
set_option relaxedAutoImplicit false

namespace DmarcReports.LogFilter

inductive FieldValue where
  | bool (b : Bool)
  | float (x : Float)
  | notANumber
  | natural (n : Nat)
  | integer (i : Int)
  | pattern (cs : List Char)

namespace FieldValue

/-- The value that a text tells; none for a text that is no pattern either. -/
def ofChars? (cs : List Char) : Option FieldValue :=
  if cs = "true".toList then some (.bool true)
  else if cs = "false".toList then some (.bool false)
  else match Text.unsigned? UInt64.size cs, Text.signed? Text.int64Bound cs, Decimal.float? cs with
    | some n, _, _ => some (.natural n)
    | none, some i, _ => some (.integer i)
    | none, none, some x => some (if x.isNaN then .notANumber else .float x)
    | none, none, none => if Pattern.isValid cs then some (.pattern cs) else none

def text : FieldValue → String
  | bool b => if b then "true" else "false"
  | float x => Decimal.render x
  | notANumber => "NaN"
  | natural n => n.repr
  | integer i => i.repr
  | pattern cs => String.ofList cs

def rank : FieldValue → Nat
  | bool _ => 0
  | float _ => 1
  | notANumber => 2
  | natural _ => 3
  | integer _ => 4
  | pattern _ => 5

def compareFloats (x y : Float) : Ordering :=
  if x < y then .lt else if y < x then .gt else .eq

def compare : FieldValue → FieldValue → Ordering
  | bool a, bool b => Ord.compare a b
  | float x, float y => compareFloats x y
  | natural m, natural n => Ord.compare m n
  | integer i, integer j => Ord.compare i j
  | pattern s, pattern t => Ord.compare s t
  | v, w => Ord.compare v.rank w.rank

end FieldValue

structure Field where
  name : List Char
  value : Option FieldValue := none

namespace Field

/-- The field that a text tells: a name, and a value behind the first sign of equality. -/
def ofChars? (cs : List Char) : Option Field :=
  match cs.span (· ≠ '=') with
  | (name, []) => some ⟨name, none⟩
  | (name, _ :: rest) =>
    (FieldValue.ofChars? (rest.takeWhile (· ≠ '='))).map fun value => ⟨name, some value⟩

def text (f : Field) : String :=
  String.ofList f.name ++ (f.value.map fun v => "=" ++ v.text).getD ""

def compareValues : Option FieldValue → Option FieldValue → Ordering
  | none, none => .eq
  | none, some _ => .lt
  | some _, none => .gt
  | some v, some w => v.compare w

def compare (f g : Field) : Ordering :=
  (Ord.compare f.value.isSome g.value.isSome).then
    ((Ord.compare f.name g.name).then (compareValues f.value g.value))

end Field

end DmarcReports.LogFilter
