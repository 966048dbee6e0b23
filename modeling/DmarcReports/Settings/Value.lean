/-!
Values that settings are written as, and their layers.

A layer is a value laid over another one: tables are joined key by key and to any depth, and of all
other values the upper one counts.
-/

set_option autoImplicit false
set_option relaxedAutoImplicit false

namespace DmarcReports.Settings

/-- A value as files, variables and documents write it. -/
inductive Value where
  | null
  | boolean (b : Bool)
  | integer (i : Int)
  | float (x : Float)
  | string (s : String)
  | array (vs : List Value)
  | table (entries : List (String × Value))
deriving Inhabited

def lookup? {α : Type} (key : String) : List (String × α) → Option α
  | [] => none
  | (k, a) :: es => if k = key then some a else lookup? key es

/-- Sets the entry of a key, at the place of the old one if there is one. -/
def put {α : Type} (key : String) (a : α) : List (String × α) → List (String × α)
  | [] => [(key, a)]
  | (k, b) :: es => if k = key then (k, a) :: es else (k, b) :: put key a es

theorem lookup?_put {α : Type} (k key : String) (a : α) (es : List (String × α)) :
    lookup? k (put key a es) = if k = key then some a else lookup? k es := by
  induction es with
  | nil => simp [put, lookup?, eq_comm]
  | cons e es ih =>
    obtain ⟨l, b⟩ := e
    by_cases h : l = key
    · subst h
      by_cases hk : l = k
      · simp [put, lookup?, hk]
      · simp [put, lookup?, hk, Ne.symm hk]
    · by_cases hk : l = k
      · subst hk
        simp [put, lookup?, h]
      · simp [put, lookup?, h, hk, ih]

namespace Value

mutual

def lay (lower : Value) : Value → Value
  | table upper =>
    match lower with
    | table entries => table (layEntries entries upper)
    | _ => table upper
  | upper => upper

def layEntries (lower : List (String × Value)) : List (String × Value) → List (String × Value)
  | [] => lower
  | (key, upper) :: es =>
    let joined := match lookup? key lower with
      | some old => lay old upper
      | none => upper
    layEntries (put key joined lower) es

end

/-- The value that stands under a path of keys. -/
def nest (path : List String) (v : Value) : Value :=
  path.foldr (fun key inner => table [(key, inner)]) v

def at? : List String → Value → Option Value
  | [], v => some v
  | key :: path, table es => (lookup? key es).bind (at? path)
  | _ :: _, _ => none

end Value

end DmarcReports.Settings
