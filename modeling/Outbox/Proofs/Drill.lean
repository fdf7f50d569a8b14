import Outbox.Proofs.Publisher
import Outbox.Proofs.Store

/-!
# Drills

A publisher at a store of its own, where everything that it meets is laid down beforehand: what its
clock shows, what the broker answers and which calls to the store fail. The store goes by a clock of
its own, which may move at any time. What holds of every drill holds whatever the broker does and
whichever calls fail.
-/

namespace Outbox
open Publisher (Batch Course Fate Surroundings)

/-- What is laid down for a drill. -/
structure Drill.Script where
  /-- What the publisher's clock shows, one reading after another. -/
  watch : Nat → Time.Instant
  /-- What the broker answers, one publish after another. -/
  answer : Nat → Message → Shape → Answer Broker.Error Unit
  /-- Why a call to the store is made to fail, if it is, one call after another. -/
  fault : Nat → Option Store.Error

/-- What the broker was asked to take, and what it answered. -/
abbrev Drill.Publish :=
  Message × Shape × Answer Broker.Error Unit

/-- A store and a broker in a drill. -/
structure Drill where
  script : Drill.Script
  store : Store
  /-- What the store's clock shows. -/
  now : Time.Instant
  /-- How often the publisher has read its clock. -/
  readings : Nat := 0
  /-- How often the store was called. -/
  calls : Nat := 0
  /-- What the broker was asked to take, in order. -/
  asked : List Drill.Publish := []

namespace Drill

/-- What the broker took, in order. -/
def accepted (d : Drill) : List (Message × Shape) :=
  d.asked.filterMap fun x => x.2.2.ok?.map fun () => (x.1, x.2.1)

/-- A call to the store. One that is made to fail changes nothing. -/
def call (d : Drill) (called : Answer Store.Error Store) : Answer Store.Error Unit × Drill :=
  let d' := { d with calls := d.calls + 1 }
  match d.script.fault d.calls, called with
  | some e, _ => (.error e, d')
  | none, .ok store => (.ok (), { d' with store })
  | none, .error e => (.error e, d')
  | none, .crash => (.crash, d')

/-- What the publisher works with. -/
def surroundings (resolve : String → Option Shape) : Surroundings Drill where
  clock d := (d.script.watch d.readings, { d with readings := d.readings + 1 })
  resolve
  fetch limit ceiling d :=
    (match d.script.fault d.calls with
      | some e => .error e
      | none => .ok (d.store.fetch d.now limit.toNat ceiling), { d with calls := d.calls + 1 })
  markProcessed id d := d.call (.ofExcept (d.store.markProcessed d.now id))
  markFailed id reason d := d.call (.ofExcept (d.store.markFailed d.now id reason))
  countRetry id reason delay d := d.call (d.store.countRetry d.now id reason delay)
  publish m s d :=
    let answer := d.script.answer d.asked.length m s
    (answer, { d with asked := d.asked ++ [(m, s, answer)] })

/-- What can happen in a drill. -/
inductive Event
  /-- The publisher begins a tick. -/
  | tick
  /-- A move in the batch of the tick. -/
  | move (m : Batch.Move)
  /-- The tick ends if its batch is done. -/
  | conclude
  /-- The store's clock shows something else. -/
  | pass (now : Time.Instant)
  deriving DecidableEq

/-- What an event is in the course of the publisher. -/
def Event.toCourse : Event → Course.Event Drill
  | .tick => .tick
  | .move m => .move m
  | .conclude => .conclude
  | .pass now => .elsewhere fun d => { d with now }

/-- Whether an event leaves it open whether a batch is in work. -/
def Event.isInner : Event → Bool
  | .move _ | .pass _ => true
  | .tick | .conclude => false

/-- The course of the publisher after an event. -/
def step (resolve : String → Option Shape) (c : Course Drill) (e : Event) : Course Drill :=
  c.step (surroundings resolve) e.toCourse

/-- The course of the publisher after some events. -/
def run (resolve : String → Option Shape) (c : Course Drill) (es : List Event) : Course Drill :=
  es.foldl (step resolve) c

/-- The course in which nothing has happened yet. -/
def start (q : Publisher) (d : Drill) : Course Drill where
  publisher := q
  world := d

/-- A record of a message that a product is gone. -/
def gone (id : Identifier) : Record where
  id
  typeTag := Contract.productDeleted.tag
  payload := Form.write Contract.productDeleted.form (⟨7⟩, ())
  occurredAt := .epoch

/-- A store with one such record. -/
def lone : Store where
  records := ⟨[gone ⟨1⟩], by decide⟩
  entities := .empty

/-- A registry that takes every tag for that of a product that is gone. -/
def goneOnly (_ : String) : Option Shape :=
  some Contract.productDeleted

/-- Two workers take their steps by turns, the second one first. -/
def byTurns : List Batch.Move :=
  [.start, .start] ++ (List.replicate 4 [.advance 1, .advance 0]).flatten

/-- A tick of one worker, up to its end. -/
def single : List Event :=
  .tick :: (.start :: List.replicate 4 (.advance 0)).map .move

end Drill

end Outbox
