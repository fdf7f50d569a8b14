import Outbox.Breaker
import Outbox.Publisher.Batch
import Outbox.Settings

/-!
# The publisher

At each tick the publisher fetches one batch of records and relays them. It remembers for a while
what it published, skips ticks while its breaker is open, and keeps count of what it did. Only a
batch that fails as a whole counts towards the breaker: a broker that refuses a message does not.
-/

namespace Outbox

/-- What a publisher did since it was built. The counts have no upper bound here. Counters of 64 bits
come to the same: one tick or one record adds 1 to a count, so that no run gets a count to 2 ^ 64,
which would take 584 years of a billion of them a second. -/
structure Publisher.Stats where
  batches : Nat := 0
  published : Nat := 0
  alreadyPublished : Nat := 0
  retried : Nat := 0
  deadLettered : Nat := 0
  failedBatches : Nat := 0
  /-- The ticks that were skipped because the breaker was open. -/
  skips : Nat := 0
  deriving DecidableEq, Repr

/-- A publisher with all that it remembers. -/
structure Publisher where
  settings : Settings
  retryDelay : Time.Span
  breakerReset : Time.Span
  breaker : Breaker := .initial
  /-- The records published lately, if the settings ask for that. -/
  window : Option Window
  stats : Publisher.Stats := {}

namespace Publisher

/-- A publisher with some settings, unless one of them is out of its range. -/
def build (s : Settings) : Answer Settings.OutOfRange Publisher :=
  match s.validate with
  | .error e => .error e
  | .ok () =>
    match s.retryDelay?, s.breakerReset?, s.window? with
    | some retryDelay, some breakerReset, some length =>
      .ok { settings := s, retryDelay, breakerReset,
            window := if s.windowEnabled then some (.ofLength length) else none }
    | _, _, _ => .crash

/-- What a tick comes to. -/
inductive Tick
  /-- The breaker is open, and nothing was fetched. -/
  | skipped
  /-- There was nothing to relay. -/
  | idle
  | processed (report : Report)
  | failed (failure : Failure)
  deriving DecidableEq

/-- The stats after a batch. -/
def Stats.add (s : Stats) (r : Report) (failed : Bool) : Stats where
  batches := s.batches + 1
  published := s.published + r.published
  alreadyPublished := s.alreadyPublished + r.alreadyPublished
  retried := s.retried + r.retried
  deadLettered := s.deadLettered + r.deadLettered
  failedBatches := s.failedBatches + if failed then 1 else 0
  skips := s.skips

variable {ω : Type}

/-- The publisher without what it remembers for too long. -/
def purge (p : Surroundings ω) (q : Publisher) (w : ω) : Publisher × ω :=
  match q.window with
  | none => (q, w)
  | some win =>
    let (now, w) := p.clock w
    ({ q with window := some (win.purge now) }, w)

/-- Fetches the records of a batch. -/
def fetch (p : Surroundings ω) (q : Publisher) (w : ω) : Except Store.Error (List Record) × ω :=
  p.fetch q.settings.batchSize q.settings.retryCeiling w

/-- Fetches and relays one batch. -/
def runBatch (p : Surroundings ω) (q : Publisher) (w : ω) :
    (Report × Option Failure) × Publisher × ω :=
  let (q, w) := q.purge p w
  match q.fetch p w with
  | (.error e, w) => (({}, some (.store e)), q, w)
  | (.ok records, w) =>
    let (results, window, w) := handleAll p q.retryDelay records q.window w
    ((results.report, results.failure?), { q with window }, w)

/-- Whether the breaker keeps the publisher from working, and the publisher after it was asked. -/
def askBreaker (p : Surroundings ω) (q : Publisher) (w : ω) : Bool × Publisher × ω :=
  let (now, w) := p.clock w
  let (opened, breaker) := q.breaker.ask q.breakerReset now
  (opened, { q with breaker }, w)

/-- The publisher after a batch failed: its breaker opens once enough batches in a row have. -/
def recordFailure (p : Surroundings ω) (q : Publisher) (w : ω) : Publisher × ω :=
  let (now, w) := p.clock w
  let breaker := q.breaker.recordFailure now
  if q.settings.breakerEnabled && q.settings.breakerThreshold ≤ breaker.failures then
    let (now, w) := p.clock w
    ({ q with breaker := breaker.trip now }, w)
  else ({ q with breaker }, w)

/-- What a batch comes to, and the publisher after it took notice. -/
def conclude (p : Surroundings ω) (q : Publisher) (report : Report) (failure : Option Failure)
    (w : ω) : Tick × Publisher × ω :=
  let q := { q with stats := q.stats.add report failure.isSome }
  match failure with
  | none =>
    let q := { q with breaker := q.breaker.recordSuccess }
    (if report.fetched = 0 then .idle else .processed report, q, w)
  | some f =>
    let (q, w) := q.recordFailure p w
    (.failed f, q, w)

/-- Whether a tick is skipped, and the publisher after it found that out. -/
def skips (p : Surroundings ω) (q : Publisher) (w : ω) : Bool × Publisher × ω :=
  if q.settings.breakerEnabled then
    let (opened, q, w) := q.askBreaker p w
    (opened, if opened then { q with stats.skips := q.stats.skips + 1 } else q, w)
  else (false, q, w)

/-- One tick: relays a batch, unless the breaker is open. -/
def tick (p : Surroundings ω) (q : Publisher) (w : ω) : Tick × Publisher × ω :=
  match q.skips p w with
  | (true, q, w) => (.skipped, q, w)
  | (false, q, w) =>
    let ((report, failure), q, w) := q.runBatch p w
    q.conclude p report failure w

/-- Relays one batch without regard to the breaker or the stats. -/
def processBatch (p : Surroundings ω) (q : Publisher) (w : ω) :
    Except Failure Report × Publisher × ω :=
  let ((report, failure), q, w) := q.runBatch p w
  (match failure with
    | none => .ok report
    | some f => .error f, q, w)

end Publisher

end Outbox

/-!
## The publisher's loop

The loop ticks, waits for the next poll, and ticks again until it is told to stop. It looks at its
signal between ticks only, so that a tick which has begun is always worked off. Which event comes
next is left to chance; an event that cannot happen now changes nothing.
-/

namespace Outbox.Publisher

/-- The signal that a loop listens to. -/
structure Signal where
  /-- Whether it says to stop. -/
  stop : Bool := false
  /-- Whether it was sent since the loop last noticed it. -/
  unseen : Bool := false
  /-- Whether it can never be sent again. -/
  closed : Bool := false
  deriving DecidableEq, Repr

namespace Signal

/-- The signal after it was sent. -/
def send (s : Signal) (stop : Bool) : Signal :=
  { s with stop, unseen := true }

/-- The signal after its sender is gone. -/
def close (s : Signal) : Signal :=
  { s with closed := true }

end Signal

/-- Where a loop stands. -/
inductive Phase
  /-- It is going to look at its signal. -/
  | checking
  /-- It works off the batch of a tick. -/
  | working (b : Batch)
  /-- It waits for the next poll or for its signal. -/
  | sleeping
  | stopped

/-- A publisher's loop in a world of type `ω`. -/
structure Loop (ω : Type) where
  publisher : Publisher
  world : ω
  signal : Signal := {}
  phase : Phase := .checking

/-- What can happen to a loop. -/
inductive Event
  /-- It looks at its signal, and stops or begins a tick. -/
  | check
  /-- A move in the batch of its tick. -/
  | move (m : Batch.Move)
  /-- It ends a tick whose batch is done. -/
  | conclude
  /-- It has waited long enough. -/
  | poll
  /-- It notices that its signal was sent, or that it never will be. -/
  | notice
  /-- Somebody sends the signal. -/
  | send (stop : Bool)
  /-- Whoever could send the signal is gone. -/
  | close
  deriving DecidableEq, Repr

variable {ω : Type}

/-- Begins a tick: leaves the batch to be worked off, unless there is nothing to do. -/
def beginTick (p : Surroundings ω) (q : Publisher) (w : ω) : Phase × Publisher × ω :=
  match q.skips p w with
  | (true, q, w) => (.sleeping, q, w)
  | (false, q, w) =>
    let (q, w) := q.purge p w
    match q.fetch p w with
    | (.error e, w) =>
      let (_, q, w) := q.conclude p {} (some (.store e)) w
      (.sleeping, q, w)
    | (.ok records, w) => (.working { waiting := records }, q, w)

namespace Loop

/-- The number of workers that may be active at the same time. -/
def places (l : Loop ω) : Nat :=
  l.publisher.settings.parallelism.toNat

/-- Whether the loop has stopped. -/
def isStopped (l : Loop ω) : Bool :=
  match l.phase with
  | .stopped => true
  | _ => false

/-- The workers that are active. -/
def workers (l : Loop ω) : List Worker :=
  match l.phase with
  | .working b => b.active
  | _ => []

/-- The loop after it looked at its signal. -/
def check (p : Surroundings ω) (l : Loop ω) : Loop ω :=
  if l.signal.stop then { l with phase := .stopped }
  else
    let (phase, publisher, world) := beginTick p l.publisher l.world
    { l with phase, publisher, world }

/-- The loop after a move in its batch. -/
def work (p : Surroundings ω) (l : Loop ω) (b : Batch) (m : Batch.Move) : Loop ω :=
  let (b, window, world) := b.move p l.publisher.retryDelay l.places m l.publisher.window l.world
  { l with phase := .working b, publisher := { l.publisher with window }, world }

/-- The loop after it ended a tick. -/
def conclude (p : Surroundings ω) (l : Loop ω) (b : Batch) : Loop ω :=
  let (_, publisher, world) :=
    l.publisher.conclude p b.results.report b.results.failure? l.world
  { l with phase := .sleeping, publisher, world }

/-- The loop after its signal woke it up. -/
def notice (l : Loop ω) : Loop ω :=
  if l.signal.unseen then { l with phase := .checking, signal.unseen := false }
  else if l.signal.closed then { l with phase := .stopped }
  else l

/-- The loop after an event. -/
def step (p : Surroundings ω) (l : Loop ω) (e : Event) : Loop ω :=
  match e, l.phase with
  | .send stop, _ => { l with signal := l.signal.send stop }
  | .close, _ => { l with signal := l.signal.close }
  | .check, .checking => l.check p
  | .move m, .working b => l.work p b m
  | .conclude, .working b => if b.isDone then l.conclude p b else l
  | .poll, .sleeping => { l with phase := .checking }
  | .notice, .sleeping => l.notice
  | _, _ => l

/-- The loop after some events. -/
def run (p : Surroundings ω) : List Event → Loop ω → Loop ω
  | [], l => l
  | e :: es, l => run p es (l.step p e)

end Loop

end Outbox.Publisher
