import Outbox.Proofs.UnitOfWork.Capture
import Outbox.Proofs.UnitOfWork.Ground

/-!
# Workshops

A program that raises events on aggregates and commits them, with one unit of work after another,
all on one ground. A workshop keeps an account of what was raised and queued, and of which record
came of which message; no call reads that account.
-/

namespace Outbox
open UnitOfWork (Ground)

/-- Where a message comes from: an aggregate that raised it, or else the queue. -/
abbrev Workshop.Source :=
  Option Aggregate.Handle

/-- One of the messages of a source, by its number. -/
abbrev Workshop.Origin :=
  Workshop.Source × Nat

/-- That a record was written. -/
structure Workshop.Receipt where
  origin : Workshop.Origin
  record : Record
  /-- Whether the bus was to be told. -/
  announced : Bool

/-- A program at work on a ground with a bus of type `β`, and what it did so far. -/
structure Workshop (β : Type) where
  unit : UnitOfWork Store.Transaction := {}
  /-- Whether the unit of work tells the bus of what it committed. -/
  notifies : Bool := false
  table : Aggregate.Table
  ground : Ground β
  /-- The messages of each source, those included that an aggregate had at the start. -/
  history : Workshop.Source → List Message
  written : List Workshop.Receipt := []
  /-- What the commits came to. -/
  answers : List (Except UnitOfWork.Error (List Notice)) := []

namespace Workshop

variable {β ε : Type}

/-- The workshop before anything happens. -/
def start (table : Aggregate.Table) (g : Ground β) : Workshop β where
  table := table
  ground := g
  history
    | some h => (table h).events.toList
    | none => []

/-- What can happen in a workshop. -/
inductive Event
  /-- An aggregate raises an event. -/
  | raise (h : Aggregate.Handle) (m : Message)
  /-- An aggregate changes but for its events. -/
  | edit (h : Aggregate.Handle) (change : Aggregate → Aggregate)
  | track (h : Aggregate.Handle)
  | queue (m : Message)
  | begin
  | commit
  | rollback
  /-- The unit of work is left, and a new one is made. -/
  | renew
  /-- The unit of work is told to use the bus. -/
  | attach
  /-- The clock moves, and it is decided what happens to the next calls. -/
  | meet (now : Time.Instant) (verdicts : List (Option Store.Error))

/-- The message that an event adds to a source, if it adds one. -/
def Event.message? : Event → Source → Option Message
  | .raise h m, some h' => if h = h' then some m else none
  | .queue m, none => some m
  | _, _ => none

/-- The messages of a source that still wait to be recorded. -/
def waiting (d : Workshop β) : Source → List Message
  | some h => (d.table h).events.toList
  | none => d.unit.queued

/-- How many messages of a source do not wait any more. -/
def settled (d : Workshop β) (s : Source) : Nat :=
  (d.history s).length - (d.waiting s).length

/-- The sources of which the next commit records what waits, in order. -/
def sources (d : Workshop β) : List Source :=
  d.unit.tracked.map some ++ [none]

/-- The messages that the next commit records, by their origins. -/
def pending (d : Workshop β) : List Origin :=
  d.sources.flatMap fun s => (List.range' (d.settled s) (d.waiting s).length).map (s, ·)

/-- Where the unit of work writes. -/
def storage (send : Notice → β → Except ε Unit × β) (d : Workshop β) :
    UnitOfWork.Storage (Ground β) Store.Transaction :=
  Ground.storage (if d.notifies then some send else none)

/-- What a commit comes to now. -/
def tryCommit (send : Notice → β → Except ε Unit × β) (d : Workshop β) :
    Except UnitOfWork.Error (List Notice) × UnitOfWork Store.Transaction × Aggregate.Table ×
      Ground β :=
  d.unit.tryCommit (d.storage send) d.table d.ground

/-- The workshop after a commit. The records that are new are those of what was pending. -/
def commit (send : Notice → β → Except ε Unit × β) (d : Workshop β) : Workshop β :=
  let (answer, unit, table, ground) := d.tryCommit send
  -- A store keeps its records in the order in which they came.
  let new := ground.store.records.items.drop d.ground.store.records.size
  { d with
    unit, table, ground
    written := d.written ++ (d.pending.zip new).map fun (o, r) => ⟨o, r, d.notifies⟩
    answers := d.answers ++ [answer] }

/-- The messages of all sources once there is another one. -/
def noted (d : Workshop β) (s : Source) (m : Message) : Source → List Message := fun s' =>
  if s' = s then d.history s' ++ [m] else d.history s'

/-- The workshop after an event. An aggregate that is tracked cannot be tracked again. -/
def step (send : Notice → β → Except ε Unit × β) (d : Workshop β) : Event → Workshop β
  | .raise h m =>
    { d with table := d.table.change [h] (·.raise m), history := d.noted (some h) m }
  | .edit h change =>
    { d with table := d.table.change [h] fun a => { change a with events := a.events } }
  | .track h => if h ∈ d.unit.tracked then d else { d with unit := d.unit.track h }
  | .queue m => { d with unit := d.unit.queue m, history := d.noted none m }
  | .begin =>
    let (_, unit, ground) := d.unit.begin (d.storage send) d.ground
    { d with unit, ground }
  | .commit => d.commit send
  | .rollback =>
    let (_, unit, ground) := d.unit.rollback (d.storage send) d.ground
    { d with unit, ground }
  | .renew => { d with unit := {}, notifies := false }
  | .attach => { d with notifies := true }
  | .meet now verdicts => { d with ground := { d.ground with now, verdicts } }

/-- The workshop after some events. -/
def run (send : Notice → β → Except ε Unit × β) (d : Workshop β) (es : List Event) : Workshop β :=
  es.foldl (step send) d

end Workshop

end Outbox

/-!
## What the bus has no say in

Whatever the bus answers, nothing but the bus itself depends on it. `run_mute` says so of whole
runs: a workshop whose bus is forgotten goes on as one with a bus that does nothing.
-/

namespace Outbox

/-- A bus that does nothing. -/
def UnitOfWork.Ground.quiet : Notice → Unit → Except Empty Unit × Unit :=
  fun _ _ => (.ok (), ())

namespace UnitOfWork.Ground

variable {β ε : Type}

/-- A ground whose bus is forgotten, but not what it was told. -/
def mute (g : Ground β) : Ground Unit :=
  { g with bus := () }

/-- Verdicts do not depend on the bus. -/
lemma rule_mute (g : Ground β) : g.mute.rule = g.rule.map id mute := by
  obtain ⟨store, now, mint, verdicts, bus, handed⟩ := g
  cases verdicts <;> rfl

/-- Nor does a call that only stages. -/
lemma stage_mute (call : Store → Store.Transaction → Except Store.Error Store.Transaction) (t)
    (g : Ground β) : g.mute.stage call t = (g.stage call t).map id (Prod.map id mute) := by
  unfold stage
  rw [rule_mute]
  generalize g.rule = ruled
  obtain ⟨_ | _, g'⟩ := ruled
  · simp only [Prod.map, mute, id]
    cases call g'.store t <;> rfl
  · rfl

/-- All calls are the same when the bus is forgotten. -/
lemma carries_mute (send : Option (Notice → β → Except ε Unit × β)) :
    (storage send).Carries (storage (send.map fun _ => quiet)) mute where
  clock _ := rfl
  fresh _ := rfl
  start g := by
    show start g.mute = (start g).map id mute
    unfold start
    rw [rule_mute]
    generalize g.rule = ruled
    obtain ⟨_ | _, g'⟩ := ruled <;> rfl
  save e t g := stage_mute (fun s t => t.save s e) t g
  append r t g := stage_mute (fun _ t => .ok (t.append r)) t g
  commit t g := by
    show commit t g.mute = (commit t g).map id mute
    unfold commit
    rw [rule_mute]
    generalize g.rule = ruled
    obtain ⟨_ | _, g'⟩ := ruled
    · simp only [Prod.map, mute, id]
      cases t.commit g'.store <;> rfl
    · rfl
  rollback t g := by
    show rollback t g.mute = (rollback t g).map id mute
    unfold rollback
    rw [rule_mute]
    generalize g.rule = ruled
    obtain ⟨_ | _, g'⟩ := ruled <;> rfl
  announce n g := by cases send <;> rfl

end UnitOfWork.Ground

namespace Workshop
open UnitOfWork (Ground)

variable {β ε : Type} (send : Notice → β → Except ε Unit × β)

/-- A workshop whose bus is forgotten. -/
def mute (d : Workshop β) : Workshop Unit :=
  { d with ground := d.ground.mute }

/-- The calls of a unit of work do not depend on the bus. -/
lemma carries_storage (d : Workshop β) :
    (d.storage send).Carries (d.mute.storage Ground.quiet) Ground.mute := by
  have carries := Ground.carries_mute (if d.notifies then some send else none)
  rw [apply_ite (Option.map _)] at carries
  exact carries

/-- No event depends on the bus. -/
lemma step_mute (d : Workshop β) (e : Event) :
    (d.step send e).mute = d.mute.step Ground.quiet e := by
  have carries := d.carries_storage send
  cases e with
  | track h =>
    simp only [step]
    split
    · next tracked => exact (if_pos tracked).symm
    · next new => exact (if_neg new).symm
  | begin =>
    have called := carries.begin d.unit d.ground
    show _ = { d.mute with
      unit := (d.unit.begin (d.mute.storage Ground.quiet) d.ground.mute).2.1
      ground := (d.unit.begin (d.mute.storage Ground.quiet) d.ground.mute).2.2 }
    rw [called]
    rfl
  | commit =>
    have called : d.mute.tryCommit Ground.quiet =
        (d.tryCommit send).map id (Prod.map id (Prod.map id Ground.mute)) :=
      carries.tryCommit d.unit d.table d.ground
    show (d.commit send).mute = d.mute.commit Ground.quiet
    unfold commit
    rw [called]
    rfl
  | rollback =>
    have called := carries.giveUp d.unit d.ground
    show _ = { d.mute with
      unit := (d.unit.rollback (d.mute.storage Ground.quiet) d.ground.mute).2.1
      ground := (d.unit.rollback (d.mute.storage Ground.quiet) d.ground.mute).2.2 }
    rw [called]
    rfl
  -- the other events do not touch the storage
  | _ => rfl

/-- No run depends on the bus. -/
lemma run_mute (d : Workshop β) (es : List Event) :
    (d.run send es).mute = d.mute.run Ground.quiet es := by
  induction es generalizing d with
  | nil => rfl
  | cons e es ih =>
    refine (ih (d.step send e)).trans ?_
    rw [step_mute]
    rfl

end Workshop

end Outbox
