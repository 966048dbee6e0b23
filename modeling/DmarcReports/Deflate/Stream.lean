import DmarcReports.Deflate.Tree

/-!
The tokens of a compressed stream: literal bytes, and copies of earlier output.

Which tokens a stream holds does not depend on the output, so they are read first and expanded
later.
-/

set_option autoImplicit false
set_option relaxedAutoImplicit false

namespace DmarcReports.Deflate

inductive Token where
  | literal (byte : UInt8)
  | copy (length distance : Nat)
deriving DecidableEq, Repr

structure Codes where
  literals : Tree
  distances : Tree

namespace Codes

def endSymbol : Nat := 256

/-- Least length and number of extra bits of the symbols behind `endSymbol`. -/
def lengthTable : List (Nat × Nat) := [
  (3, 0), (4, 0), (5, 0), (6, 0), (7, 0), (8, 0), (9, 0), (10, 0), (11, 1), (13, 1), (15, 1),
  (17, 1), (19, 2), (23, 2), (27, 2), (31, 2), (35, 3), (43, 3), (51, 3), (59, 3), (67, 4),
  (83, 4), (99, 4), (115, 4), (131, 5), (163, 5), (195, 5), (227, 5), (258, 0)]

/-- Least distance and number of extra bits of the distance symbols. -/
def distanceTable : List (Nat × Nat) := [
  (1, 0), (2, 0), (3, 0), (4, 0), (5, 1), (7, 1), (9, 2), (13, 2), (17, 3), (25, 3), (33, 4),
  (49, 4), (65, 5), (97, 5), (129, 6), (193, 6), (257, 7), (385, 7), (513, 8), (769, 8),
  (1025, 9), (1537, 9), (2049, 10), (3073, 10), (4097, 11), (6145, 11), (8193, 12), (12289, 12),
  (16385, 13), (24577, 13)]

def fixedLiteralLengths : List Nat :=
  List.replicate 144 8 ++ List.replicate 112 9 ++ List.replicate 24 7 ++ List.replicate 8 8

def fixedDistanceLengths : List Nat := List.replicate 32 5

def fixed : Codes :=
  ⟨Tree.build fixedLiteralLengths, Tree.build fixedDistanceLengths⟩

def ofLengths? (literals distances : List Nat) : Option Codes := do
  return ⟨← Tree.ofLengths? true literals, ← Tree.ofLengths? true distances⟩

/-- The order in which the lengths of the code for lengths are given. -/
def lengthOrder : List Nat :=
  [16, 17, 18, 0, 8, 7, 9, 6, 10, 5, 11, 4, 12, 3, 13, 2, 14, 1, 15]

def takeTriples? : Nat → Bits → Except Stop (List Nat × Bits)
  | 0, s => .ok ([], s)
  | n + 1, s => do
    let (v, s) ← s.take? 3
    let (vs, s) ← takeTriples? n s
    return (v :: vs, s)

def lengthCode? (given : List Nat) : Option Tree :=
  let pairs := lengthOrder.zip given
  Tree.ofLengths? false ((List.range 19).map fun n => (pairs.lookup n).getD 0)

/-- A run of equal lengths by its symbol: the length repeated, the least count and the number of
extra bits. Symbol 16 repeats the length before it, the others zero. -/
def runOf? (symbol : Nat) (before : Option Nat) : Option (Nat × Nat × Nat) :=
  if symbol < 16 then some (symbol, 1, 0)
  else if symbol = 16 then before.map fun n => (n, 3, 2)
  else if symbol = 17 then some (0, 3, 3)
  else some (0, 11, 7)

/-- Reads as many lengths as are missing; `done` has the last one read in front. Every round reads
one at least, so that many rounds are enough. -/
def takeLengths? (code : Tree) : Nat → Nat → List Nat → Bits → Except Stop (List Nat × Bits)
  | 0, _, done, s => .ok (done.reverse, s)
  | _, 0, done, s => .ok (done.reverse, s)
  | rounds + 1, missing, done, s => do
    let (symbol, s) ← code.decode s
    match runOf? symbol done.head? with
    | none => s.corrupt
    | some (length, least, extra) =>
      let (more, s) ← s.take? extra
      if missing < least + more then s.corrupt
      else
        takeLengths? code rounds (missing - (least + more))
          (List.replicate (least + more) length ++ done) s

def take? (s : Bits) : Except Stop (Codes × Bits) := do
  let (literals, s) ← s.take? 5
  let (distances, s) ← s.take? 5
  let (triples, s) ← s.take? 4
  let literals := literals + 257
  let distances := distances + 1
  if 286 < literals ∨ 30 < distances then s.corrupt
  else
    let (given, s) ← takeTriples? (triples + 4) s
    match lengthCode? given with
    | none => s.corrupt
    | some code =>
      let count := literals + distances
      let (lengths, s) ← takeLengths? code count count [] s
      match ofLengths? (lengths.take literals) (lengths.drop literals) with
      | none => s.corrupt
      | some codes => .ok (codes, s)

def valueOf? (table : List (Nat × Nat)) (symbol : Nat) (s : Bits) : Except Stop (Nat × Bits) :=
  match table[symbol]? with
  | none => s.corrupt
  | some (least, extra) => do
    let (more, s) ← s.take? extra
    return (least + more, s)

/-- Reads one token, or the end of the block. -/
def token? (c : Codes) (s : Bits) : Except Stop (Option Token × Bits) := do
  let (symbol, s) ← c.literals.decode s
  if symbol < endSymbol then return (some (.literal (UInt8.ofNat symbol)), s)
  else if symbol = endSymbol then return (none, s)
  else
    let (length, s) ← valueOf? lengthTable (symbol - endSymbol - 1) s
    let (symbol, s) ← c.distances.decode s
    let (distance, s) ← valueOf? distanceTable symbol s
    return (some (.copy length distance), s)

end Codes

/-- Where the reader of a stream stands; `last` tells that the block is the last one. -/
inductive Mode where
  | header
  | stored (missing : Nat) (last : Bool)
  | coded (codes : Codes) (last : Bool)

namespace Mode

def afterBlock (last : Bool) : Option Mode :=
  if last then none else some header

def afterStored (missing : Nat) (last : Bool) : Option Mode :=
  if missing = 0 then afterBlock last else some (stored missing last)

/-- Reads the length of a stored block, which is given twice, the second time with all bits
changed. -/
def takeStored? (last : Bool) (s : Bits) : Except Stop (Option Mode × Bits) := do
  let (length, s) ← s.align.take? 16
  let (check, s) ← s.take? 16
  if length + check = 0xFFFF then return (afterStored length last, s) else s.corrupt

def takeHeader? (s : Bits) : Except Stop (Option Mode × Bits) := do
  let (v, s) ← s.take? 3
  let last := v % 2 = 1
  match v / 2 with
  | 0 => takeStored? last s
  | 1 => return (some (coded Codes.fixed last), s)
  | 2 =>
    let (codes, s) ← Codes.take? s
    return (some (coded codes last), s)
  | _ => s.corrupt

/-- Reads on by one block header, token or block end. Returns the token, if there is one, and the
mode behind it, if the stream goes on. -/
def step (m : Mode) (s : Bits) : Except Stop (Option Token × Option Mode × Bits) :=
  match m with
  | header => do
    let (next, s) ← takeHeader? s
    return (none, next, s)
  | stored missing last => do
    let (byte, s) ← s.take? 8
    return (some (.literal (UInt8.ofNat byte)), afterStored (missing - 1) last, s)
  | coded codes last => do
    let (token, s) ← codes.token? s
    return (token, if token.isSome then some m else afterBlock last, s)

end Mode

structure Stream where
  /-- The tokens, each with the number of bits read behind it. -/
  tokens : List (Token × Nat)
  /-- The reader behind the stream, or why the stream stops short. -/
  rest : Except Stop Bits

namespace Stream

def push (found : List (Token × Nat)) (token : Option Token) (s : Bits) : List (Token × Nat) :=
  match token with
  | some t => (t, s.read) :: found
  | none => found

/-- Reads on; `found` has the last token in front. Every round reads a bit at least. -/
def readFrom : Nat → Mode → Bits → List (Token × Nat) → Stream
  | 0, _, _, found => ⟨found.reverse, .error .starved⟩
  | rounds + 1, m, s, found =>
    match m.step s with
    | .error stop => ⟨found.reverse, .error stop⟩
    | .ok (token, some m, s) => readFrom rounds m s (push found token s)
    | .ok (token, none, s) => ⟨(push found token s).reverse, .ok s⟩

def read (bytes : List UInt8) : Stream :=
  readFrom (8 * bytes.length + 1) .header ⟨bytes, 0, 0⟩ []

end Stream

end DmarcReports.Deflate
