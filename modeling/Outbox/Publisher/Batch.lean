import Outbox.Broker
import Outbox.Store
import Outbox.Window

/-!
# Batches and their workers

How the records that a tick fetched are relayed.

## Workers

A worker takes one fetched record to its outcome. It looks whether the record was published lately,
publishes its message, remembers that, and writes the outcome to the store. Each of these is one
step, between which other workers may do theirs.
-/

namespace Outbox.Publisher

/-- What a publisher works with: a world of type `ω` with a clock, a store and a broker. -/
structure Surroundings (ω : Type) where
  clock : ω → Time.Instant × ω
  /-- The shape under which messages with a tag are published. -/
  resolve : String → Option Shape
  fetch : (limit : UInt64) → (ceiling : UInt32) → ω → Except Store.Error (List Record) × ω
  markProcessed : Identifier → ω → Answer Store.Error Unit × ω
  markFailed : Identifier → (reason : String) → ω → Answer Store.Error Unit × ω
  countRetry : Identifier → (reason : String) → (delay : Time.Span) → ω →
    Answer Store.Error Unit × ω
  publish : Message → Shape → ω → Answer Broker.Error Unit × ω

/-- What became of a record in a batch. -/
inductive Outcome
  | published
  /-- It was published lately and only had to be marked. -/
  | alreadyPublished
  | retrying
  | deadLettered
  deriving DecidableEq, Repr

/-- What is to be written of a record. -/
inductive Fate
  | processed
  | failed (reason : String)
  | retry (reason : String)
  deriving DecidableEq, Repr

/-- How a fate comes out, if it can be written. A record that was not published now but is processed
was published before. -/
def Fate.outcome : Fate → (published : Bool) → Outcome
  | .processed, true => .published
  | .processed, false => .alreadyPublished
  | .failed _, _ => .deadLettered
  | .retry _, _ => .retrying

/-- Writes a fate to the store. -/
def Surroundings.write {ω : Type} (p : Surroundings ω) (delay : Time.Span) (id : Identifier) :
    Fate → ω → Answer Store.Error Unit × ω
  | .processed => p.markProcessed id
  | .failed reason => p.markFailed id reason
  | .retry reason => p.countRetry id reason delay

/-- What a worker does next. -/
inductive Stage
  /-- It looks whether the record was published lately. -/
  | looking
  | publishing (m : Message) (s : Shape)
  /-- It remembers that the record was published. -/
  | remembering
  | writing (fate : Fate) (published : Bool)
  | finished (result : Answer Store.Error Outcome)

/-- A worker with its record. -/
structure Worker where
  record : Record
  stage : Stage := .looking

/-- Why a record is dead-lettered whose tag is unknown. -/
def unknownTag : String :=
  "type not found"

/-- Why a record is dead-lettered whose payload does not hold its message. -/
def undecodable (e : Undecodable) : String :=
  "deserialization failed: " ++ e.message

/-- The next stage for a record that was not published lately. -/
def route (resolve : String → Option Shape) (r : Record) : Stage :=
  match resolve r.typeTag with
  | none => .writing (.failed unknownTag) false
  | some s =>
    match s.decode r.payload with
    | .error e => .writing (.failed (undecodable e)) false
    | .ok m => .publishing m s

namespace Worker

variable {ω : Type}

/-- Whether the worker has nothing left to do. -/
def isFinished (k : Worker) : Bool :=
  match k.stage with
  | .finished _ => true
  | _ => false

/-- What the worker came to, once it is finished. -/
def result? (k : Worker) : Option (Answer Store.Error Outcome) :=
  match k.stage with
  | .finished result => some result
  | _ => none

/-- One step of a worker. Without a window nothing is looked up or remembered. -/
def step (p : Surroundings ω) (delay : Time.Span) (k : Worker) (window : Option Window) (w : ω) :
    Worker × Option Window × ω :=
  match k.stage with
  | .looking =>
    match window with
    | none => ({ k with stage := route p.resolve k.record }, none, w)
    | some win =>
      let (now, w) := p.clock w
      let (known, win) := win.lookUp now k.record.id
      let next := if known then .writing .processed false else route p.resolve k.record
      ({ k with stage := next }, some win, w)
  | .publishing m s =>
    match p.publish m s w with
    | (.ok (), w) => ({ k with stage := .remembering }, window, w)
    | (.error e, w) => ({ k with stage := .writing (.retry e.message) false }, window, w)
    | (.crash, w) => ({ k with stage := .finished .crash }, window, w)
  | .remembering =>
    match window with
    | none => ({ k with stage := .writing .processed true }, none, w)
    | some win =>
      let (now, w) := p.clock w
      ({ k with stage := .writing .processed true }, some (win.remember now k.record.id), w)
  | .writing fate published =>
    let (written, w) := p.write delay k.record.id fate w
    ({ k with stage := .finished (written.map fun () => fate.outcome published) }, window, w)
  | .finished _ => (k, window, w)

/-- Some steps of a worker, one after another. -/
def run (p : Surroundings ω) (delay : Time.Span) :
    (steps : Nat) → Worker → Option Window → ω → Worker × Option Window × ω
  | 0, k, window, w => (k, window, w)
  | n + 1, k, window, w =>
    let (k, window, w) := k.step p delay window w
    run p delay n k window w

/-- The steps that finish any worker. -/
def stepsToFinish : Nat :=
  4

end Worker

/-- Takes one record to its outcome without interruption. -/
def handle {ω : Type} (p : Surroundings ω) (delay : Time.Span) (r : Record)
    (window : Option Window) (w : ω) : Answer Store.Error Outcome × Option Window × ω :=
  let (k, window, w) := Worker.run p delay Worker.stepsToFinish { record := r } window w
  (k.result?.getD .crash, window, w)

end Outbox.Publisher

/-!
## Batches

A batch is a list of fetched records of which no more than some number are worked on at the same
time. The next record is started as soon as there is a free place; which worker takes the next step
is left to chance. `handleAll` is the schedule that finishes one record after another.
-/

namespace Outbox.Publisher

/-- How many records of a batch had each outcome. -/
structure Report where
  fetched : Nat := 0
  published : Nat := 0
  alreadyPublished : Nat := 0
  retried : Nat := 0
  deadLettered : Nat := 0
  deriving DecidableEq, Repr

/-- Why a batch failed. -/
inductive Failure
  | store (cause : Store.Error)
  /-- A worker crashed. -/
  | worker
  deriving DecidableEq

/-- What workers came to, in the order in which their records were fetched. -/
abbrev Results := List (Answer Store.Error Outcome)

namespace Results

/-- How many workers came to some outcome. -/
def count (rs : Results) (o : Outcome) : Nat :=
  rs.countP fun r => r.ok? = some o

/-- The report of a batch. -/
def report (rs : Results) : Report where
  fetched := rs.length
  published := rs.count .published
  alreadyPublished := rs.count .alreadyPublished
  retried := rs.count .retrying
  deadLettered := rs.count .deadLettered

/-- The failure of a worker, if it failed. -/
def failureOf : Answer Store.Error Outcome → Option Failure
  | .ok _ => none
  | .error e => some (.store e)
  | .crash => some .worker

/-- The first failure. -/
def failure? (rs : Results) : Option Failure :=
  rs.findSome? failureOf

end Results

/-- A batch in work. -/
structure Batch where
  /-- The records that no worker has yet. -/
  waiting : List Record
  /-- The workers that are not finished, in the order in which they started. -/
  active : List Worker := []
  /-- The finished workers, in the order in which they finished. -/
  finished : List Worker := []

namespace Batch

variable {ω : Type}

/-- Whether every record was taken to its outcome. -/
def isDone (b : Batch) : Bool :=
  b.waiting.isEmpty && b.active.isEmpty

/-- Whether the next record can be started. -/
def canStart (b : Batch) (places : Nat) : Bool :=
  !b.waiting.isEmpty && b.active.length < places

/-- Starts the next record, if there is a place for it. -/
def start (b : Batch) (places : Nat) : Batch :=
  match b.waiting with
  | [] => b
  | r :: rs =>
    if b.active.length < places then
      { b with waiting := rs, active := b.active ++ [{ record := r }] }
    else b

/-- Lets the worker at a position take a step. A worker that finishes leaves its place. -/
def advance (p : Surroundings ω) (delay : Time.Span) (b : Batch) (i : Nat)
    (window : Option Window) (w : ω) : Batch × Option Window × ω :=
  match b.active[i]? with
  | none => (b, window, w)
  | some k =>
    let (k, window, w) := k.step p delay window w
    if k.isFinished then
      ({ b with active := b.active.eraseIdx i, finished := b.finished ++ [k] }, window, w)
    else ({ b with active := b.active.set i k }, window, w)

/-- The batch after the worker at a position crashed. -/
def crash (b : Batch) (i : Nat) : Batch :=
  match b.active[i]? with
  | none => b
  | some k =>
    { b with
      active := b.active.eraseIdx i
      finished := b.finished ++ [{ k with stage := .finished .crash }] }

/-- One move of a schedule. -/
inductive Move
  /-- The next record is started. -/
  | start
  /-- The worker at a position takes a step. -/
  | advance (i : Nat)
  deriving DecidableEq, Repr

/-- The batch after a move. -/
def move (p : Surroundings ω) (delay : Time.Span) (places : Nat) (b : Batch) :
    Move → Option Window → ω → Batch × Option Window × ω
  | .start, window, w => (b.start places, window, w)
  | .advance i, window, w => b.advance p delay i window w

/-- The batch after the moves of a schedule. -/
def run (p : Surroundings ω) (delay : Time.Span) (places : Nat) :
    List Move → Batch → Option Window → ω → Batch × Option Window × ω
  | [], b, window, w => (b, window, w)
  | m :: ms, b, window, w =>
    let (b, window, w) := b.move p delay places m window w
    run p delay places ms b window w

/-- What the finished workers came to. -/
def results (b : Batch) : Results :=
  b.finished.filterMap Worker.result?

end Batch

/-- Takes records to their outcomes one after another. -/
def handleAll {ω : Type} (p : Surroundings ω) (delay : Time.Span) :
    List Record → Option Window → ω → Results × Option Window × ω
  | [], window, w => ([], window, w)
  | r :: rs, window, w =>
    let (result, window, w) := handle p delay r window w
    let (results, window, w) := handleAll p delay rs window w
    (result :: results, window, w)

end Outbox.Publisher
