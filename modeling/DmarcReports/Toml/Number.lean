import DmarcReports.Decimal.Numeral
import DmarcReports.Settings.Value
import DmarcReports.Text.CodePoint
import DmarcReports.Text.Read

/-!
Numbers: whole ones to four bases, and those with a fraction or an exponent.

One underscore may stand between two digits. A whole number has 64 bits and a sign; a number that is
too large for a fraction of 64 bits is none.
-/

set_option autoImplicit false
set_option relaxedAutoImplicit false

namespace DmarcReports.Toml.Number

open Settings (Value)
open Text (Read)

/-- More digits behind a first one, without their underscores, and what follows. -/
def moreDigits (isDigit : Char → Bool) : List Char → List Char × List Char
  | '_' :: c :: cs =>
    if isDigit c then
      let (ds, rest) := moreDigits isDigit cs
      (c :: ds, rest)
    else ([], '_' :: c :: cs)
  | c :: cs =>
    if isDigit c then
      let (ds, rest) := moreDigits isDigit cs
      (c :: ds, rest)
    else ([], c :: cs)
  | [] => ([], [])

def digits (isDigit : Char → Bool) : Read (List Char)
  | c :: cs =>
    if isDigit c then
      let (ds, rest) := moreDigits isDigit cs
      some (c :: ds, rest)
    else none
  | [] => none

/-- Decimal digits without leading zeros. -/
def wholeDigits : Read (List Char)
  | '0' :: cs => some (['0'], cs)
  | cs => digits Char.isDigit cs

/-- Whether a minus sign comes first; a plus sign may as well. -/
def sign : List Char → Bool × List Char
  | '-' :: cs => (true, cs)
  | '+' :: cs => (false, cs)
  | cs => (false, cs)

def ofDigits (base : Nat) (ds : List Char) : Nat :=
  ds.foldl (fun n c => base * n + (Text.hexDigit? c).getD 0) 0

def inRange? (i : Int) : Option Value :=
  if -(Text.int64Bound : Int) ≤ i ∧ i < Text.int64Bound then some (.integer i) else none

def based (base : Nat) (isDigit : Char → Bool) : Read Value := fun cs => do
  let (ds, rest) ← digits isDigit cs
  return (← inRange? (ofDigits base ds), rest)

def whole : Read Value
  | '0' :: 'x' :: cs => based 16 (fun c => (Text.hexDigit? c).isSome) cs
  | '0' :: 'o' :: cs => based 8 (fun c => c.isDigit && c ≤ '7') cs
  | '0' :: 'b' :: cs => based 2 (fun c => c = '0' || c = '1') cs
  | cs => do
    let (negative, cs') := sign cs
    let (ds, rest) ← wholeDigits cs'
    let n := (ofDigits 10 ds : Int)
    return (← inRange? (if negative then -n else n), rest)

def exponent : Read Int
  | c :: cs =>
    if c = 'e' ∨ c = 'E' then do
      let (negative, cs') := sign cs
      let (ds, rest) ← digits Char.isDigit cs'
      let n := (ofDigits 10 ds : Int)
      return (if negative then -n else n, rest)
    else none
  | [] => none

/-- The digits behind the point, with an exponent that may follow, or an exponent alone. -/
def fraction : Read (List Char × Int)
  | '.' :: cs => do
    let (ds, rest) ← digits Char.isDigit cs
    return match exponent rest with
      | some (e, rest') => ((ds, e), rest')
      | none => ((ds, 0), rest)
  | cs => (exponent cs).map fun (e, rest) => (([], e), rest)

def magnitude : Read Float := fun cs => do
  let (ds, rest) ← wholeDigits cs
  let ((fs, e), rest') ← fraction rest
  return (Decimal.toFloat (ofDigits 10 (ds ++ fs)) (e - fs.length), rest')

def fractional : Read Value := fun cs => do
  let (negative, cs') := sign cs
  let (x, rest) ← magnitude cs'
  if x.isInf && !negative then none
  return (.float (if negative then -x else x), rest)

/-- Infinity and what is no number. -/
def special : Read Value := fun cs =>
  match sign cs with
  | (negative, 'i' :: 'n' :: 'f' :: rest) =>
    some (.float (if negative then -(1.0 / 0.0) else 1.0 / 0.0), rest)
  | (_, 'n' :: 'a' :: 'n' :: rest) => some (.float (0.0 / 0.0), rest)
  | _ => none

def number : Read Value := fun cs =>
  ((fractional cs).or (special cs)).or (whole cs)

end DmarcReports.Toml.Number
