import Outbox.Bus
import Outbox.Publisher
import Outbox.UnitOfWork

/-!
# Rehearsals

A rehearsal is a world in memory in which publishers and units of work are tried out: a store, a
broker, a bus and a clock, of which single calls can be made to fail.
-/

namespace Outbox

/-- The calls that can be made to fail. -/
inductive Rehearsal.Call
  | fetch
  | markProcessed
  | markFailed
  | countRetry
  | start
  | save
  | append
  | commit
  | rollback
  deriving DecidableEq, Repr

/-- How a call is named in requests and in reasons. -/
def Rehearsal.Call.name : Call → String
  | fetch => "fetch"
  | markProcessed => "mark_processed"
  | markFailed => "mark_failed"
  | countRetry => "increment_retry"
  | start => "begin"
  | save => "save"
  | append => "append"
  | commit => "commit"
  | rollback => "rollback"

/-- All calls that can be made to fail. -/
def Rehearsal.Call.all : List Call :=
  [fetch, markProcessed, markFailed, countRetry, start, save, append, commit, rollback]

/-- A world in memory. -/
structure Rehearsal where
  now : Time.Instant
  store : Store := .empty
  /-- What the store's clock shows, where it has one of its own. -/
  storeNow : Option Time.Instant := none
  mint : Identifier.Mint
  broker : Broker.Memory := {}
  /-- The tags under which a publish crashes. -/
  brittle : List String := []
  /-- Records that the next fetch finds beyond those of the store. -/
  strays : List Record := []
  /-- How many of the next calls of each kind fail. -/
  faults : Rehearsal.Call → Nat := fun _ => 0
  /-- How often records were fetched. -/
  fetches : Nat := 0
  bus : Bus Notice := {}

namespace Rehearsal

/-- The instant that the store's clock shows. -/
def storeTime (w : Rehearsal) : Time.Instant :=
  w.storeNow.getD w.now

/-- The world in which the next calls of a kind fail. -/
def fail (w : Rehearsal) (c : Call) (times : Nat) : Rehearsal :=
  { w with faults := fun d => if d = c then times else w.faults d }

/-- The failure that meets a call, and the world in which one such failure less is to come. -/
def strike (w : Rehearsal) (c : Call) : Option Store.Error × Rehearsal :=
  match w.faults c with
  | 0 => (none, w)
  | n + 1 => (some (.storage ("injected " ++ c.name ++ " failure")), w.fail c n)

/-- A call that fails as long as failures are to come. -/
def guarded {ε α : Type} (w : Rehearsal) (c : Call) (refuse : Store.Error → ε)
    (call : Rehearsal → ε × α) (stay : Rehearsal → α) : ε × α :=
  match w.strike c with
  | (some e, w) => (refuse e, stay w)
  | (none, w) => call w

/-- The world after a call to its store. -/
def stored (w : Rehearsal) (called : Except Store.Error Store) : Except Store.Error Unit × Rehearsal :=
  match called with
  | .ok store => (.ok (), { w with store })
  | .error e => (.error e, w)

/-- The world after a call to its store that may crash. -/
def settled (w : Rehearsal) (called : Answer Store.Error Store) :
    Answer Store.Error Unit × Rehearsal :=
  match called with
  | .ok store => (.ok (), { w with store })
  | .error e => (.error e, w)
  | .crash => (.crash, w)

/-- Fetches records. Strays come last, beyond the limit. -/
def fetch (limit : UInt64) (ceiling : UInt32) (w : Rehearsal) :
    Except Store.Error (List Record) × Rehearsal :=
  guarded { w with fetches := w.fetches + 1 } .fetch .error
    (fun w => (.ok (w.store.fetch w.storeTime limit.toNat ceiling ++ w.strays), { w with strays := [] })) id

/-- Marks a record as processed. -/
def markProcessed (id_ : Identifier) (w : Rehearsal) : Answer Store.Error Unit × Rehearsal :=
  guarded w .markProcessed .error
    (fun w => w.settled (.ofExcept (w.store.markProcessed w.storeTime id_))) id

/-- Marks a record as failed for good. -/
def markFailed (id_ : Identifier) (reason : String) (w : Rehearsal) :
    Answer Store.Error Unit × Rehearsal :=
  guarded w .markFailed .error
    (fun w => w.settled (.ofExcept (w.store.markFailed w.storeTime id_ reason))) id

/-- Counts one more failure of a record. -/
def countRetry (id_ : Identifier) (reason : String) (delay : Time.Span) (w : Rehearsal) :
    Answer Store.Error Unit × Rehearsal :=
  guarded w .countRetry .error
    (fun w => w.settled (w.store.countRetry w.storeTime id_ reason delay)) id

/-- Publishes a message. A brittle tag crashes before the broker is asked. -/
def publish (m : Message) (s : Shape) (w : Rehearsal) : Answer Broker.Error Unit × Rehearsal :=
  if w.brittle.contains s.tag then (.crash, w)
  else
    let (published, broker) := w.broker.publish m s
    (.ofExcept published, { w with broker })

/-- What a publisher works with, whose clock may be one of its own. -/
def surroundings (registry : Registry) (own : Option Time.Instant) :
    Publisher.Surroundings Rehearsal where
  clock w := (own.getD w.now, w)
  resolve := registry.resolve
  fetch := fetch
  markProcessed := markProcessed
  markFailed := markFailed
  countRetry := countRetry
  publish := publish

/-- Rolls a transaction back. -/
def rollback (_ : Store.Transaction) (w : Rehearsal) : Except Store.Error Unit × Rehearsal :=
  guarded w .rollback .error (fun w => (.ok (), w)) id

/-- Commits a transaction. One that is made to fail writes nothing. -/
def commit (t : Store.Transaction) (w : Rehearsal) : Except Store.Error Unit × Rehearsal :=
  guarded w .commit .error (fun w => w.stored (t.commit w.store)) id

/-- Where a unit of work writes, whose clock may be one of its own. -/
def storage (own : Option Time.Instant) (announce : Notice → Rehearsal → Rehearsal) :
    UnitOfWork.Storage Rehearsal Store.Transaction where
  clock w := (own.getD w.now, w)
  fresh w :=
    let (id, mint) := w.mint.next
    (id, { w with mint })
  start w := guarded w .start .error (fun w => (.ok .opened, w)) id
  save e t w :=
    guarded w .save .error
      (fun w =>
        match t.save w.store e with
        | .ok t => (.ok (), t, w)
        | .error x => (.error x, t, w))
      fun w => (t, w)
  append r t w := guarded w .append .error (fun w => (.ok (), t.append r, w)) fun w => (t, w)
  commit := commit
  rollback := rollback
  announce := announce

/-- Announces a message on the bus of the world. -/
def announceOnBus (n : Notice) (w : Rehearsal) : Rehearsal :=
  { w with bus := (w.bus.publish (fun _ => true) n).2 }

end Rehearsal

end Outbox
