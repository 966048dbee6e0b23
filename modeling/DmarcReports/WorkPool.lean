/-!
A pool of workers between two channels, each with room for so many messages.

A feeder puts the items into a queue, workers take them from it and post their results, and a reader
takes these in. Who finds a channel full or empty waits while anybody is left at its other end.
Which of them moves next is left open: `run` asks for a choice at every move.
-/

set_option autoImplicit false
set_option relaxedAutoImplicit false

namespace DmarcReports

inductive WorkFault where
  /-- A worker of a pool broke down. -/
  | workerPanicked
  /-- Some results never arrived. -/
  | incomplete (received total : Nat)
  /-- An item broke down outside of any pool. -/
  | panicked
deriving DecidableEq, Repr

def WorkFault.message : WorkFault → String
  | workerPanicked => "Worker thread panicked during parallel execution"
  | incomplete received total =>
    "Only " ++ toString received ++ " of " ++ toString total ++ " work items completed"
  | panicked => "a work item panicked"

inductive ReaderStage where
  /-- It still has ends of its own at both channels, which nobody may take for those of a worker. -/
  | preparing
  | reading
  | finished
deriving DecidableEq, Repr

/-- How many moves the reader makes at most without taking in a result. -/
def ReaderStage.left : ReaderStage → Nat
  | preparing => 2
  | reading => 1
  | finished => 0

structure WorkPool (α β : Type) where
  /-- How many messages either channel holds at most. -/
  room : Nat
  /-- How many results the reader expects. -/
  total : Nat
  /-- The items that the feeder has left, each with its place; the feeder goes when it has none. -/
  source : Option (List (Nat × α))
  /-- The items that no worker has taken. -/
  queue : List (Nat × α) := []
  /-- How many workers are free. -/
  idle : Nat
  /-- The items that workers are at. -/
  busy : List (Nat × α) := []
  /-- The results that workers are about to post, with the places of their items. -/
  ready : List (Nat × β) := []
  /-- The results that are posted and not taken in, the first one in front. -/
  mail : List (Nat × β) := []
  /-- The results that the reader has taken in, the last one to arrive in front. -/
  arrivals : List (Nat × β) := []
  stage : ReaderStage := .preparing
  broken : Bool := false

namespace WorkPool

variable {α β : Type}

/-- A pool for these items; a pool has one worker at least, and no more than items. -/
def start (workers : Nat) (items : List α) : WorkPool α β where
  room := max 1 workers * 2
  total := items.length
  source := some (items.zipIdx.map fun x => (x.2, x.1))
  idle := min (max 1 workers) items.length

def alive (p : WorkPool α β) : Nat :=
  p.idle + p.busy.length + p.ready.length

def unfed (p : WorkPool α β) : List (Nat × α) :=
  p.source.getD []

/-- The reader gives up its own ends of the channels and starts to read. -/
def prepare? (p : WorkPool α β) : Option (WorkPool α β) :=
  match p.stage with
  | .preparing => some { p with stage := .reading }
  | _ => none

/-- The feeder puts its next item into the queue. It goes when it has none, or when nobody is left to
take one. -/
def feed? (p : WorkPool α β) : Option (WorkPool α β) :=
  match p.source with
  | none => none
  | some [] => some { p with source := none }
  | some (x :: source) =>
    if p.alive = 0 ∧ p.stage ≠ .preparing then some { p with source := none }
    else if p.queue.length < p.room then
      some { p with source := some source, queue := p.queue ++ [x] }
    else none

/-- A free worker takes the first item, or goes when the queue is empty and stays so. -/
def take? (p : WorkPool α β) : Option (WorkPool α β) :=
  match p.idle, p.queue with
  | idle + 1, x :: queue => some { p with queue, idle, busy := p.busy ++ [x] }
  | idle + 1, [] => if p.source.isNone then some { p with idle } else none
  | 0, _ => none

/-- One of the busy workers gets to its result, or breaks down. -/
def finish? (process : α → Option β) (p : WorkPool α β) (worker : Nat) :
    Option (WorkPool α β) :=
  p.busy[worker]?.map fun x =>
    let busy := p.busy.eraseIdx worker
    match process x.2 with
    | some b => { p with busy, ready := p.ready ++ [(x.1, b)] }
    | none => { p with busy, broken := true }

/-- One of the workers with a result posts it, or goes when nobody reads it any more. -/
def post? (p : WorkPool α β) (worker : Nat) : Option (WorkPool α β) :=
  p.ready[worker]?.bind fun m =>
    let ready := p.ready.eraseIdx worker
    if p.stage = .finished then some { p with ready }
    else if p.mail.length < p.room then
      some { p with ready, idle := p.idle + 1, mail := p.mail ++ [m] }
    else none

/-- The reader takes in a result. It is finished with the last one, or when there is none and nobody
is left to post one. -/
def receive? (p : WorkPool α β) : Option (WorkPool α β) :=
  match p.stage, p.mail with
  | .reading, m :: mail =>
    let arrivals := m :: p.arrivals
    some { p with
      mail, arrivals, stage := if arrivals.length = p.total then .finished else .reading }
  | .reading, [] => if p.alive = 0 then some { p with stage := .finished } else none
  | _, _ => none

/-- The pool after each move that is possible now. -/
def moves (process : α → Option β) (p : WorkPool α β) : List (WorkPool α β) :=
  p.prepare?.toList ++ p.feed?.toList ++ p.take?.toList ++
    (List.range p.busy.length).filterMap (p.finish? process) ++
    (List.range p.ready.length).filterMap p.post? ++ p.receive?.toList

/-- A bound on the moves that a pool has before it: an item goes from the feeder to the reader in
five, and the feeder, every worker and the reader go once. -/
def ahead (p : WorkPool α β) : Nat :=
  (p.source.elim 0 fun xs => 5 * xs.length + 1) + 4 * p.queue.length + 3 * p.busy.length +
    2 * p.ready.length + p.mail.length + p.alive + p.stage.left

/-- Makes so many moves, as long as any is possible; `choice` picks one of them each time. -/
def run (process : α → Option β) (choice : Nat → Nat) : Nat → WorkPool α β → WorkPool α β
  | 0, p => p
  | n + 1, p =>
    let next := p.moves process
    match next[choice n % next.length]? with
    | some q => run process choice n q
    | none => p

/-- The results in the order of their places, from the messages in the order in which they arrived.
No message is read once all results are there. -/
def collect (total : Nat) (messages : List (Nat × β)) : Except WorkFault (List β) :=
  let received := messages.take total
  let slots := received.foldl (fun slots m => slots.set m.1 (some m.2)) (List.replicate total none)
  match slots.mapM id with
  | some results => .ok results
  | none => .error (.incomplete received.length total)

/-- What a pool that makes no more moves has to offer. -/
def outcome (p : WorkPool α β) : Except WorkFault (List β) :=
  if p.broken then .error .workerPanicked else collect p.total p.arrivals.reverse

def execute (choice : Nat → Nat) (workers : Nat) (process : α → Option β) (items : List α) :
    Except WorkFault (List β) :=
  if items.isEmpty then .ok []
  else
    let p : WorkPool α β := start workers items
    (run process choice p.ahead p).outcome

end WorkPool

end DmarcReports
