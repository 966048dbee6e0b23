import DmarcReports.WorkPool

/-!
Whether the items of a batch are worked on one after the other or by a pool of workers.
-/

set_option autoImplicit false
set_option relaxedAutoImplicit false

namespace DmarcReports

/-- How the strategy for a batch is chosen. -/
inductive ExecutionMode where
  /-- By the number of items. -/
  | auto
  | sequential
  | parallel
deriving DecidableEq, Repr

namespace ExecutionMode

def all : List ExecutionMode := [auto, sequential, parallel]

def label : ExecutionMode → String
  | auto => "auto"
  | sequential => "sequential"
  | parallel => "parallel"

def ofLabel? (s : String) : Option ExecutionMode :=
  all.find? fun m => m.label == s

end ExecutionMode

inductive Strategy where
  | sequential
  | parallel (workers : Nat)
deriving DecidableEq, Repr

namespace Strategy

/-- A pool for many items, if it has more than one worker. -/
def auto (items minItems workers : Nat) : Strategy :=
  if minItems ≤ items ∧ 1 < workers then parallel workers else sequential

/-- How many workers a share of the cores in percent comes to: one at least, and no more than the
cap, where one is set. -/
def workersFor (cores cap percentage : Nat) : Nat :=
  let share := max 1 (cores * percentage / 100)
  if 0 < cap then min cap share else share

def select (mode : ExecutionMode) (items minItems workers : Nat) : Strategy :=
  match mode with
  | .sequential => sequential
  | .parallel => parallel workers
  | .auto => auto items minItems workers

/-- The results of all items in their order; `choice` is the order in which a pool moves. -/
def execute {α β : Type} (choice : Nat → Nat) (s : Strategy) (process : α → Option β)
    (items : List α) : Except WorkFault (List β) :=
  match s with
  | sequential =>
    match items.mapM process with
    | some results => .ok results
    | none => .error .panicked
  | parallel workers => WorkPool.execute choice workers process items

end Strategy

end DmarcReports
