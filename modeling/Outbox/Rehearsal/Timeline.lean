import Outbox.Rehearsal

/-!
# Timelines

A timeline runs a publisher's loop against a clock of milliseconds that jumps from one event to the
next. The broker takes some time for each message, during which other records are worked on. Workers
go on in the order in which they become able to. The clock of the world shows no instant after the
last one: whoever reads it then crashes.
-/

namespace Outbox.Rehearsal

open Publisher

/-- The call that writes a fate. -/
def Call.ofFate : Fate → Call
  | .processed => .markProcessed
  | .failed _ => .markFailed
  | .retry _ => .countRetry

/-- A loop on a clock of milliseconds. -/
structure Timeline where
  surroundings : Surroundings Rehearsal
  loop : Loop Rehearsal
  /-- What the clock of the world shows at the beginning. -/
  start : Time.Instant
  /-- The milliseconds since the beginning. -/
  elapsed : Nat := 0
  /-- How long the broker takes for a message. -/
  delay : Nat := 0
  /-- When the active workers hear from the broker. -/
  wakes : List Nat := []
  /-- When the loop has slept long enough. -/
  pollAt : Nat := 0
  /-- The greatest number of messages that were at the broker at the same time. -/
  mostInFlight : Nat := 0

namespace Timeline

/-- A change to the world. -/
def change (t : Timeline) (f : Rehearsal → Rehearsal) : Timeline :=
  { t with loop.world := f t.loop.world }

/-- The timeline after an event of its loop. -/
def happen (t : Timeline) (e : Event) : Timeline :=
  { t with loop := t.loop.step t.surroundings e }

/-- The number of messages at the broker. -/
def inFlight (t : Timeline) : Nat :=
  t.wakes.length

/-- What the clock of the world shows, unless it has run out. -/
def now? (t : Timeline) : Option Time.Instant :=
  (Time.Span.ofMilliseconds? t.elapsed).bind t.start.add?

/-- Whether the time is past the last instant. -/
def ranOut (t : Timeline) : Bool :=
  t.now?.isNone

/-- The timeline at a later time. -/
def moveTo (t : Timeline) (elapsed : Nat) : Timeline :=
  let t := { t with elapsed }
  t.change fun w => { w with now := t.now?.getD w.now }

/-- The timeline after its loop crashed. -/
def crash (t : Timeline) : Timeline :=
  { t with loop.phase := .stopped }

/-- Whether the next step of a worker reads the clock. A call that is made to fail does not. -/
def readsClock (t : Timeline) (k : Worker) : Bool :=
  match k.stage with
  | .looking | .remembering => t.loop.publisher.window.isSome
  | .writing fate _ => t.loop.world.faults (.ofFate fate) = 0
  | .publishing .. | .finished _ => false

/-- Lets the worker at a position take a step, in which it may crash. -/
def stepWorker (t : Timeline) (i : Nat) : Timeline :=
  match t.loop.phase with
  | .working b =>
    match b.active[i]? with
    | none => t
    | some k =>
      if t.ranOut && t.readsClock k then { t with loop.phase := .working (b.crash i) }
      else t.happen (.move (.advance i))
  | _ => t

/-- Lets the worker at a position finish, which takes it no more than that many steps. -/
def finish (i : Nat) : (steps : Nat) → Timeline → Timeline
  | 0, t => t
  | n + 1, t =>
    let u := t.stepWorker i
    if u.loop.workers.length < t.loop.workers.length then u else finish i n u

/-- Whether the worker at a position is going to ask the broker. -/
def asksBroker (t : Timeline) (i : Nat) : Bool :=
  match t.loop.workers[i]? with
  | some { stage := .publishing .., .. } => true
  | _ => false

/-- Starts the next record, and lets its worker go on until it has to wait for the broker. -/
def startNext (t : Timeline) : Timeline :=
  let i := t.loop.workers.length
  let t := (t.happen (.move .start)).stepWorker i
  if 0 < t.delay && t.asksBroker i then
    let wakes := t.wakes ++ [t.elapsed + t.delay]
    { t with wakes, mostInFlight := max t.mostInFlight wakes.length }
  else finish i Worker.stepsToFinish t

/-- Starts records as long as there are free places, but no more than that many. -/
def fill : Nat → Timeline → Timeline
  | 0, t => t
  | n + 1, t =>
    match t.loop.phase with
    | .working b => if b.canStart t.loop.places then fill n t.startNext else t
    | _ => t

/-- Lets the workers finish that have heard from the broker, but no more than that many. -/
def release : Nat → Timeline → Timeline
  | 0, t => t
  | n + 1, t =>
    match t.wakes.findIdx? (· ≤ t.elapsed) with
    | none => t
    | some i => release n (finish i Worker.stepsToFinish { t with wakes := t.wakes.eraseIdx i })

/-- Ends a tick, and goes to sleep. After the clock has run out only a failed batch can end, and a
failure is noted with its time. -/
def conclude (t : Timeline) : Timeline :=
  let u := t.happen .conclude
  if t.ranOut then u.crash
  else { u with pollAt := t.elapsed + t.loop.publisher.settings.pollIntervalSeconds.toNat * 1000 }

/-- Works on the batch of a tick as far as that goes without waiting, and ends the tick if the batch
is done. -/
def work (t : Timeline) : Timeline :=
  match t.loop.phase with
  | .working b =>
    let t := fill b.waiting.length (release t.wakes.length t)
    match t.loop.phase with
    | .working b => if b.isDone then t.conclude else t
    | _ => t
  | _ => t

/-- Whether the loop reads the clock in a tick before it fetches. -/
def readsClockFirst (t : Timeline) : Bool :=
  let q := t.loop.publisher
  q.window.isSome || q.settings.breakerEnabled && q.breaker.opened

/-- Looks at the signal, and stops or begins a tick. One that begins after the clock has run out
crashes, when it fetches at the latest. -/
def check (t : Timeline) : Timeline :=
  if !t.ranOut then t.happen .check
  else if t.readsClockFirst then t.crash
  else (t.happen .check).crash

/-- What the loop does next without waiting. -/
def react (t : Timeline) : Timeline :=
  match t.loop.phase with
  | .checking =>
    let t := t.check
    let pollAt := t.elapsed + t.loop.publisher.settings.pollIntervalSeconds.toNat * 1000
    { t with pollAt }.work
  | .working _ => t.work
  | .sleeping => if t.pollAt ≤ t.elapsed then t.happen .poll else t.happen .notice
  | .stopped => t

/-- All that the loop does without waiting: it ends a tick, is woken up, goes through another tick,
and learns that nobody is there to stop it. -/
def settle (t : Timeline) : Timeline :=
  t.react.react.react.react.react.react

/-- When the loop goes on by itself. -/
def next? (t : Timeline) : Option Nat :=
  match t.loop.phase with
  | .working _ => t.wakes.min?
  | .sleeping => some t.pollAt
  | _ => none

/-- The timeline at a given time, reached by no more than that many jumps. What is due just then has
not happened yet. -/
def advance (time : Nat) : Nat → Timeline → Timeline
  | 0, t => t.moveTo time
  | n + 1, t =>
    let t := t.settle
    match t.next? with
    | none => t.moveTo time
    | some next => if next < time then advance time n (t.moveTo next) else t.moveTo time

/-- The timeline at a given time. Nothing happens if that is over: the loop goes on only while time
passes. -/
def advanceTo (t : Timeline) (time : Nat) : Timeline :=
  if t.elapsed < time then advance time (time - t.elapsed + 1) t else t

/-- The timeline at the time when its loop stops, if that takes no more than that many jumps. -/
def advanceToEnd : Nat → Timeline → Timeline
  | 0, t => t.settle
  | n + 1, t =>
    let t := t.settle
    match t.next? with
    | none => t
    | some next => advanceToEnd n (t.moveTo next)

/-- The milliseconds from the first day to the last, after which any clock has run out. -/
def lifetime : Nat :=
  ((Time.lastDay + 1 - Time.firstDay) * 86400000).toNat

/-- The timeline at the time when its loop stops: it was told to, or its clock has run out. Each jump
takes a millisecond or more, and after the clock has run out the rest of a batch is worked off. -/
def join (t : Timeline) : Timeline :=
  advanceToEnd (lifetime + t.loop.publisher.settings.batchSize.toNat + 1) t

end Timeline

end Outbox.Rehearsal
