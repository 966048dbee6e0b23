import DmarcReports.Deflate.Bits

/-!
Prefix codes, given by the length of each symbol's code word.

The code words of one length are assigned in the order of the symbols, shorter ones before longer
ones, from left to right.
-/

set_option autoImplicit false
set_option relaxedAutoImplicit false

namespace DmarcReports.Deflate

/-- A prefix code: each code word is the path to its symbol. -/
inductive Tree where
  /-- No code word goes on this way. -/
  | vacant
  | leaf (symbol : Nat)
  | fork (zero one : Tree)
deriving DecidableEq, Repr

namespace Tree

def maxLength : Nat := 15

/-- How many bits of a code word are looked up at once. A path that leaves a lone code word behind
them is taken for symbol 0; before that it is vacant. -/
def lookupLength : Nat := 10

/-- Grows the tree below a path of the given depth from code words in ascending order, which are
pairs of length and symbol; also returns those that are left. At most `levels` levels are added. -/
def grow : Nat → Nat → List (Nat × Nat) → Tree × List (Nat × Nat)
  | _, depth, [] => (if lookupLength < depth then leaf 0 else vacant, [])
  | 0, _, (_, symbol) :: rest => (leaf symbol, rest)
  | levels + 1, depth, (length, symbol) :: rest =>
    if length ≤ depth then (leaf symbol, rest)
    else
      let (zero, rest) := grow levels (depth + 1) ((length, symbol) :: rest)
      let (one, rest) := grow levels (depth + 1) rest
      (fork zero one, rest)

/-- The code words of these lengths in ascending order; length 0 stands for no code word. -/
def codeWords (lengths : List Nat) : List (Nat × Nat) :=
  (lengths.zipIdx.filter (·.1 ≠ 0)).mergeSort fun a b => a.1 ≤ b.1

/-- The part of all bit strings that the code words use up, in units of the longest ones. -/
def weight (lengths : List Nat) : Nat :=
  (lengths.filter (· ≠ 0)).foldr (fun n used => Nat.pow 2 (maxLength - n) + used) 0

def build (lengths : List Nat) : Tree :=
  match codeWords lengths with
  | [] => fork vacant vacant
  | words => (grow maxLength 0 words).1

/-- The code with words of these lengths, if they use up all bit strings; a code of one word at most
need not, where `lone` allows that. -/
def ofLengths? (lone : Bool) (lengths : List Nat) : Option Tree :=
  if weight lengths = Nat.pow 2 maxLength ∨ (lone = true ∧ (codeWords lengths).length ≤ 1) then
    some (build lengths)
  else none

def decode : Tree → Bits → Except Stop (Nat × Bits)
  | vacant, s => s.corrupt
  | leaf symbol, s => .ok (symbol, s)
  | fork zero one, s =>
    match s.next? with
    | .error stop => .error stop
    | .ok (true, s) => decode one s
    | .ok (false, s) => decode zero s

end Tree

end DmarcReports.Deflate
