import DmarcReports.Settings.Value
import DmarcReports.Toml.Key

/-!
Tables that are put together from entries and headers.

A header opens a table once. Keys with points make the tables on their way, and only such keys add
to these; a header may open a table that stands on the way of other headers only.
-/

set_option autoImplicit false
set_option relaxedAutoImplicit false

namespace DmarcReports.Toml

open Settings (Value lookup? put)

/-- What has made a table. -/
inductive Origin where
  /-- A header, or braces. -/
  | opened
  /-- It stands on the way of a header. -/
  | implied
  /-- It stands on the way of a key with points. -/
  | dotted
deriving DecidableEq, Repr

inductive Item where
  | value (v : Value)
  | table (origin : Origin) (entries : List (String × Item))
  /-- An array of tables, with the last one in front. -/
  | tables (ts : List (List (String × Item)))

/-- What stands under the names of a table. -/
abbrev Entries : Type := List (String × Item)

mutual

def Item.toValue : Item → Value
  | .value v => v
  | .table _ es => .table (entryValues es)
  | .tables ts => .array (tableValues ts).reverse

def entryValues : List (String × Item) → List (String × Value)
  | [] => []
  | (name, i) :: es => (name, i.toValue) :: entryValues es

def tableValues : List (List (String × Item)) → List Value
  | [] => []
  | es :: ts => .table (entryValues es) :: tableValues ts

end

namespace Entries

/-- Adds a value at the end of a path; none where something is in its way. -/
def addValue (name : String) (v : Value) : List String → Entries → Option Entries
  | [], es => if (lookup? name es).isSome then none else some (put name (.value v) es)
  | first :: path, es =>
    match lookup? first es with
    | none => (addValue name v path []).map fun t => put first (.table .dotted t) es
    | some (.table .dotted t) =>
      (addValue name v path t).map fun t' => put first (.table .dotted t') es
    | some (.table .implied t) =>
      if path = [] then none
      else (addValue name v path t).map fun t' => put first (.table .implied t') es
    | some (.tables (t :: ts)) =>
      if path = [] then none
      else (addValue name v path t).map fun t' => put first (.tables (t' :: ts)) es
    | _ => none

def addAll (vs : List (Key × Value)) (es : Entries) : Option Entries :=
  vs.foldlM (fun es v => addValue v.1.name v.2 v.1.path es) es

/-- Opens a table at the end of a path, or one more of an array of tables, and fills it with
entries. -/
def openTable (inArray : Bool) (name : String) (vs : List (Key × Value)) :
    List String → Entries → Option Entries
  | [], es =>
    match inArray, lookup? name es with
    | false, none => (addAll vs []).map fun t => put name (.table .opened t) es
    | false, some (.table .implied t) => (addAll vs t).map fun t' => put name (.table .opened t') es
    | true, none => (addAll vs []).map fun t => put name (.tables [t]) es
    | true, some (.tables ts) => (addAll vs []).map fun t => put name (.tables (t :: ts)) es
    | _, _ => none
  | first :: path, es =>
    match lookup? first es with
    | none => (openTable inArray name vs path []).map fun t => put first (.table .implied t) es
    | some (.table origin t) =>
      (openTable inArray name vs path t).map fun t' => put first (.table origin t') es
    | some (.tables (t :: ts)) =>
      (openTable inArray name vs path t).map fun t' => put first (.tables (t' :: ts)) es
    | _ => none

end Entries

end DmarcReports.Toml
