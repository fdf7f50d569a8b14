import Outbox.Store

/-!
# Units of work

Aggregates raise events; a unit of work makes them durable together with what they are about.
-/

/-!
## Raised events

The events that an aggregate has raised since its last commit, in the order in which it raised them.
-/

namespace Outbox

/-- Events waiting to be committed. -/
structure Events where
  toList : List Message := []

namespace Events

instance : Inhabited Events := ⟨{}⟩

/-- The events with another one at the end. -/
def raise (es : Events) (m : Message) : Events :=
  ⟨es.toList ++ [m]⟩

/-- No events. -/
def clear (_ : Events) : Events :=
  ⟨[]⟩

/-- The number of events. -/
def size (es : Events) : Nat :=
  es.toList.length

/-- Whether there is no event. -/
def isEmpty (es : Events) : Bool :=
  es.toList.isEmpty

end Events

/-- Whether a message has a shape's type. -/
def Message.isOf (m : Message) (s : Shape) : Bool :=
  m.shape.typeName = s.typeName

end Outbox

/-!
## Aggregates

An aggregate is a piece of the business that changes as a whole. It has a state to be saved, and it
keeps the events that it raised until they are committed.
-/

namespace Outbox

/-- A piece of the business that changes as a whole. -/
structure Aggregate where
  typeName : String
  id : Identifier
  version : UInt64
  /-- The state to be saved, or why there is none. -/
  state : Except Unwritable Json.Value
  events : Events := {}

namespace Aggregate

/-- The aggregate after it raised an event. -/
def raise (a : Aggregate) (m : Message) : Aggregate :=
  { a with events := a.events.raise m }

/-- The aggregate after its events were committed. -/
def settle (a : Aggregate) : Aggregate :=
  { a with events := a.events.clear }

/-- What a program calls an aggregate that it holds. -/
abbrev Handle := String

/-- The aggregates that a program holds. -/
abbrev Table := Handle → Aggregate

/-- The table after a change to the aggregates of some handles. -/
def Table.change (t : Table) (hs : List Handle) (f : Aggregate → Aggregate) : Table := fun h =>
  if h ∈ hs then f (t h) else t h

/-- The table with another aggregate under a handle. -/
def Table.put (t : Table) (h : Handle) (a : Aggregate) : Table :=
  t.change [h] fun _ => a

end Aggregate

end Outbox

/-!
## Units of work

A unit of work saves the aggregates that it tracks and records their events, all in one transaction.
Events leave their aggregates only after that transaction has committed, so that a commit that
failed can be tried again.
-/

namespace Outbox

/-- What a unit of work has to do before its next commit, with its open transaction of type `τ`. -/
structure UnitOfWork (τ : Type) where
  transaction : Option τ := none
  /-- The aggregates to save, in the order in which they were tracked. -/
  tracked : List Aggregate.Handle := []
  /-- The messages to record that no aggregate raised. -/
  queued : List Message := []

namespace UnitOfWork

/-- Where a unit of work writes: a world of type `ω` in which transactions can be opened. -/
structure Storage (ω τ : Type) where
  clock : ω → Time.Instant × ω
  /-- A fresh identifier. -/
  fresh : ω → Identifier × ω
  start : ω → Except Store.Error τ × ω
  save : Entity → τ → ω → Except Store.Error Unit × τ × ω
  append : Record → τ → ω → Except Store.Error Unit × τ × ω
  commit : τ → ω → Except Store.Error Unit × ω
  rollback : τ → ω → Except Store.Error Unit × ω
  /-- Tells listeners that a message was committed. -/
  announce : Notice → ω → ω := fun _ w => w

/-- Why a unit of work fails. -/
inductive Error
  | snapshot (aggregateType : String) (cause : Unwritable)
  | serialization (typeTag : String) (cause : Unwritable)
  | store (cause : Store.Error)
  | commit (cause : Store.Error)
  deriving DecidableEq

/-- The word that names the kind of an error. -/
def Error.kind : Error → String
  | .snapshot .. => "Snapshot"
  | .serialization .. => "Serialization"
  | .store _ => "Store"
  | .commit _ => "Commit"

/-- What is said of an error. -/
def Error.message : Error → String
  | .snapshot aggregateType cause =>
    "failed to serialize " ++ aggregateType ++ " state: " ++ cause.message
  | .serialization typeTag cause =>
    "failed to serialize event " ++ typeTag ++ ": " ++ cause.message
  | .store cause => "write failed: " ++ cause.message
  | .commit cause => "commit failed: " ++ cause.message

/-- A message as it is going to be recorded. -/
structure Draft where
  typeTag : String
  payload : String
  deriving DecidableEq

/-- The draft of a message. -/
def Draft.of (m : Message) : Except Error Draft :=
  match m.payload with
  | .ok payload => .ok ⟨m.tag, payload⟩
  | .error cause => .error (.serialization m.tag cause)

/-- The entity and the drafts of an aggregate. -/
def captureAggregate (a : Aggregate) : Except Error (Entity × List Draft) :=
  match a.state with
  | .error cause => .error (.snapshot a.typeName cause)
  | .ok state => do
    let drafts ← a.events.toList.mapM Draft.of
    return (⟨a.typeName, a.id, a.version, state⟩, drafts)

variable {ω τ : Type}

/-- The unit of work that also saves an aggregate. -/
def track (u : UnitOfWork τ) (h : Aggregate.Handle) : UnitOfWork τ :=
  { u with tracked := u.tracked ++ [h] }

/-- The unit of work that also records a message. -/
def queue (u : UnitOfWork τ) (m : Message) : UnitOfWork τ :=
  { u with queued := u.queued ++ [m] }

/-- Whether a transaction is open. -/
def isActive (u : UnitOfWork τ) : Bool :=
  u.transaction.isSome

/-- The messages that the next commit records. -/
def pending (u : UnitOfWork τ) (table : Aggregate.Table) : List Message :=
  (u.tracked.flatMap fun h => (table h).events.toList) ++ u.queued

/-- All that the next commit writes, before anything is written. -/
def capture (u : UnitOfWork τ) (table : Aggregate.Table) :
    Except Error (List Entity × List Draft) := do
  let captured ← u.tracked.mapM fun h => captureAggregate (table h)
  let queued ← u.queued.mapM Draft.of
  return (captured.map Prod.fst, captured.flatMap Prod.snd ++ queued)

/-- The records of some drafts, each with a fresh identifier. -/
def number (p : Storage ω τ) (now : Time.Instant) : List Draft → ω → List Record × ω
  | [], w => ([], w)
  | d :: ds, w =>
    let (id, w) := p.fresh w
    let (rs, w) := number p now ds w
    ({ id, typeTag := d.typeTag, payload := d.payload, occurredAt := now } :: rs, w)

/-- Makes one call for each of some items, up to the first call that fails. -/
def eachUntilError {α : Type} (call : α → τ → ω → Except Store.Error Unit × τ × ω) :
    List α → τ → ω → Except Store.Error Unit × τ × ω
  | [], t, w => (.ok (), t, w)
  | a :: as, t, w =>
    match call a t w with
    | (.ok (), t, w) => eachUntilError call as t w
    | (.error e, t, w) => (.error e, t, w)

/-- Stages entities and then records. -/
def stage (p : Storage ω τ) (entities : List Entity) (records : List Record) (t : τ) (w : ω) :
    Except Store.Error Unit × τ × ω :=
  match eachUntilError p.save entities t w with
  | (.ok (), t, w) => eachUntilError p.append records t w
  | (.error e, t, w) => (.error e, t, w)

/-- The open transaction, or a new one. -/
def ensureOpen (p : Storage ω τ) (u : UnitOfWork τ) (w : ω) : Except Store.Error τ × ω :=
  match u.transaction with
  | some t => (.ok t, w)
  | none => p.start w

/-- Opens a transaction, unless one is open. -/
def begin (p : Storage ω τ) (u : UnitOfWork τ) (w : ω) :
    Except Error Unit × UnitOfWork τ × ω :=
  match u.ensureOpen p w with
  | (.ok t, w) => (.ok (), { u with transaction := some t }, w)
  | (.error e, w) => (.error (.store e), u, w)

/-- Writes entities and records in one transaction. When staging fails the transaction stays open;
a commit ends it in any case. -/
def write (p : Storage ω τ) (u : UnitOfWork τ) (entities : List Entity) (records : List Record)
    (w : ω) : Except Error Unit × UnitOfWork τ × ω :=
  match u.ensureOpen p w with
  | (.error e, w) => (.error (.store e), u, w)
  | (.ok t, w) =>
    match stage p entities records t w with
    | (.error e, t, w) => (.error (.store e), { u with transaction := some t }, w)
    | (.ok (), t, w) =>
      let (committed, w) := p.commit t w
      (committed.mapError .commit, { u with transaction := none }, w)

/-- Rolls the open transaction back, if there is one. -/
def abort (p : Storage ω τ) (u : UnitOfWork τ) (w : ω) : UnitOfWork τ × ω :=
  match u.transaction with
  | none => (u, w)
  | some t => ({ u with transaction := none }, (p.rollback t w).2)

/-- Commits: saves every tracked aggregate and records every pending message, or changes nothing.
Afterwards the aggregates have no events, nothing is tracked or queued, and every message that was
recorded is announced. -/
def tryCommit (p : Storage ω τ) (u : UnitOfWork τ) (table : Aggregate.Table) (w : ω) :
    Except Error (List Notice) × UnitOfWork τ × Aggregate.Table × ω :=
  let (now, w) := p.clock w
  match u.capture table with
  | .error e =>
    let (u, w) := u.abort p w
    (.error e, u, table, w)
  | .ok (entities, drafts) =>
    let (records, w) := number p now drafts w
    match u.write p entities records w with
    | (.error e, u, w) =>
      let (u, w) := u.abort p w
      (.error e, u, table, w)
    | (.ok (), u, w) =>
      let notices := records.map Notice.ofRecord
      (.ok notices, { u with tracked := [], queued := [] },
        table.change u.tracked Aggregate.settle, notices.foldl (fun w n => p.announce n w) w)

/-- Gives up what is tracked and queued, and tells whether there was a transaction to roll back.
Events stay on their aggregates. -/
def rollback (p : Storage ω τ) (u : UnitOfWork τ) (w : ω) : Bool × UnitOfWork τ × ω :=
  let (v, w) := u.abort p w
  (u.isActive, { v with tracked := [], queued := [] }, w)

end UnitOfWork

end Outbox
