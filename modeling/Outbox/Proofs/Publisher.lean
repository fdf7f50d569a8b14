import Mathlib.Tactic.Lemma
import Outbox.Proofs.Publisher.Batch
import Outbox.Publisher

/-!
# Publishers in the course of time

What all statements about publishers are made of: how a publisher is built, what it goes through, and
what that does to the world around it.

## The parts of a publisher

What a publisher is when it was built, and what a purge does to its window.
-/

namespace Outbox

namespace Settings

/-- Settings are valid if each lies in its range, or else the first one that does not is named. -/
lemma validate_inv (s : Settings) :
    (s.validate = .ok () ∧ ∀ f ∈ s.ranges, f.least ≤ f.value ∧ f.value ≤ f.greatest) ∨
      ∃ before e behind, s.validate = .error e ∧ s.ranges = before ++ e :: behind ∧
        (∀ f ∈ before, f.least ≤ f.value ∧ f.value ≤ f.greatest) ∧
        (e.value < e.least ∨ e.greatest < e.value) := by
  have inside {f : OutOfRange} (fits : f.holds = false) :
      f.least ≤ f.value ∧ f.value ≤ f.greatest := by
    simp only [OutOfRange.holds, Bool.or_eq_false_iff, decide_eq_false_iff_not] at fits
    omega
  unfold validate
  cases found : s.ranges.find? OutOfRange.holds with
  | none =>
    have fits := List.find?_eq_none.1 found
    exact .inl ⟨rfl, fun f mem => inside (Bool.eq_false_iff.2 (fits f mem))⟩
  | some e =>
    obtain ⟨outside, before, behind, split, fits⟩ := List.find?_eq_some_iff_append.1 found
    refine .inr ⟨before, e, behind, rfl, split, fun f mem => inside ?_, ?_⟩
    · simpa using fits f mem
    · simpa [OutOfRange.holds] using outside

variable {s : Settings} (valid : s.validate = .ok ())
include valid

/-- Settings that pass the check lie in their ranges. -/
lemma inside_of_validate {e : OutOfRange} (mem : e ∈ s.ranges) :
    e.least ≤ e.value ∧ e.value ≤ e.greatest := by
  obtain ⟨-, inside⟩ | ⟨_, _, _, refused, -⟩ := s.validate_inv
  · exact inside e mem
  · cases valid.symm.trans refused

/-- Valid settings leave a batch at least one place. -/
lemma places_of_validate : 0 < s.parallelism.toNat :=
  (inside_of_validate valid (e := ⟨"max_degree_of_parallelism", s.parallelism.toNat, 1, 32⟩)
    (by simp [ranges])).1

/-- Valid settings let at least one failed batch pass before the breaker opens. -/
lemma breakerThreshold_of_validate : 0 < s.breakerThreshold.toNat :=
  (inside_of_validate valid
    (e := ⟨"circuit_breaker_failure_threshold", s.breakerThreshold.toNat, 1, 100⟩)
    (by simp [ranges])).1

/-- Valid settings let a tick fetch at least one record. -/
lemma batchSize_of_validate : 0 < s.batchSize.toNat :=
  (inside_of_validate valid (e := ⟨"batch_size", s.batchSize.toNat, 1, 1000⟩) (by simp [ranges])).1

/-- Settings in their ranges let every fresh record be relayed. -/
lemma retryCeiling_of_validate : 0 < s.retryCeiling :=
  UInt32.lt_iff_toNat_lt.2
    (inside_of_validate valid (e := ⟨"max_retry_count", s.retryCeiling.toNat, 1, 100⟩)
      (by simp [ranges])).1

omit valid in
/-- Seconds that a span can hold are that many billions of nanoseconds. -/
lemma nanoseconds_of_ofSeconds? {n : Int} {span : Time.Span}
    (here : Time.Span.ofSeconds? n = some span) : span.nanoseconds = n * 1000000000 := by
  obtain ⟨_, same⟩ := Option.dite_none_right_eq_some.1 here
  cases same
  rfl

omit valid in
/-- A word below the middle of its range means the same with a sign as without. -/
lemma signed_eq_toNat {n : UInt64} (small : n.toNat < 9223372036854775808) :
    signed n = n.toNat := by
  have half : 2 * n.toNat < 18446744073709551616 := by omega
  exact BitVec.toInt_eq_toNat_of_lt half

/-- The timeout of the breaker has as many seconds as the settings say, an hour at most. -/
lemma breakerReset_of_validate {reset : Time.Span} (span : s.breakerReset? = some reset) :
    reset.nanoseconds = s.breakerResetSeconds.toNat * 1000000000 ∧
      s.breakerResetSeconds.toNat ≤ 3600 := by
  have most : s.breakerResetSeconds.toNat ≤ 3600 := (inside_of_validate valid
    (e := ⟨"circuit_breaker_reset_timeout_seconds", s.breakerResetSeconds.toNat, 10, 3600⟩)
    (by simp [ranges])).2
  refine ⟨?_, most⟩
  rw [nanoseconds_of_ofSeconds? span, signed_eq_toNat (by omega)]

/-- The window has as many hours as the settings say. -/
lemma window_of_validate {length : Time.Span} (span : s.window? = some length) :
    length.nanoseconds = s.windowHours.toNat * 3600 * 1000000000 := by
  have most : s.windowHours.toNat ≤ 720 := (inside_of_validate valid
    (e := ⟨"idempotency_cache_hours", s.windowHours.toNat, 1, 720⟩) (by simp [ranges])).2
  rw [nanoseconds_of_ofSeconds? span, signed_eq_toNat (by omega)]

/-- Valid settings let the loop wait for five minutes at most. -/
lemma pollInterval_of_validate : s.pollIntervalSeconds.toNat ≤ 300 :=
  (inside_of_validate valid (e := ⟨"poll_interval_seconds", s.pollIntervalSeconds.toNat, 1, 300⟩)
    (by simp [ranges])).2

end Settings

namespace Publisher

/-- A publisher that was built has settings in their ranges and the spans that they stand for, and
remembers nothing. -/
lemma build_inv {s : Settings} {q : Publisher} (built : build s = .ok q) :
    ∃ retryDelay breakerReset length,
      s.validate = .ok () ∧ s.retryDelay? = some retryDelay ∧
      s.breakerReset? = some breakerReset ∧ s.window? = some length ∧
      q = { settings := s, retryDelay, breakerReset,
            window := if s.windowEnabled then some (.ofLength length) else none } := by
  unfold build at built
  split at built
  · cases built
  · next valid =>
    split at built
    · next delay reset length =>
      cases built
      exact ⟨_, _, _, valid, delay, reset, length, rfl⟩
    · cases built

/-- A window of a publisher that was just built is empty. -/
lemma find?_window_build {s : Settings} {q : Publisher} (built : build s = .ok q) {win}
    (here : q.window = some win) (id : Identifier) : win.seen.find? id = none := by
  obtain ⟨_, _, length, -, -, -, -, rfl⟩ := build_inv built
  obtain ⟨-, same⟩ := Option.ite_none_right_eq_some.1 here
  cases same
  rfl

/-- A purge takes old entries out of the window, if there is one. -/
lemma purge_inv {ω : Type} {p : Surroundings ω} {q q' : Publisher} {w w' : ω}
    (st : q.purge p w = (q', w')) :
    (q.window = none ∧ q' = q ∧ w' = w) ∨
      ∃ win now, q.window = some win ∧ p.clock w = (now, w') ∧
        q' = { q with window := some (win.purge now) } := by
  unfold purge at st
  split at st
  · next none =>
    cases st
    exact .inl ⟨none, rfl, rfl⟩
  · next win here =>
    cases st
    exact .inr ⟨win, _, here, rfl, rfl⟩

/-- A purge changes only the window. -/
lemma breaker_purge {ω : Type} {p : Surroundings ω} {q q' : Publisher} {w w' : ω}
    (st : q.purge p w = (q', w')) :
    q'.breaker = q.breaker ∧ q'.settings = q.settings ∧ q'.breakerReset = q.breakerReset := by
  obtain ⟨-, rfl, -⟩ | ⟨_, _, -, -, rfl⟩ := purge_inv st <;> exact ⟨rfl, rfl, rfl⟩

/-- A tick is over at once, or the records that it fetched are to be worked off. -/
lemma beginTick_inv {ω : Type} {p : Surroundings ω} {q q' : Publisher} {w w' : ω} {phase}
    (begun : beginTick p q w = (phase, q', w')) :
    phase = .sleeping ∨
      ∃ records w₁, phase = .working { waiting := records } ∧ q'.fetch p w₁ = (.ok records, w') := by
  unfold beginTick at begun
  split at begun
  · cases begun
    exact .inl rfl
  · simp only at begun
    split at begun
    · cases begun
      exact .inl rfl
    · next fetched =>
      cases begun
      exact .inr ⟨_, _, rfl, fetched⟩

end Publisher

end Outbox

/-!
## Courses

What one publisher does in the course of time: ticks, and batches without regard to the breaker, one
after another. Inside a batch the workers take their steps in any order that the number of places
allows. Between all this the world may change by itself. A course keeps a list of the records whose
messages the broker took; no call reads it.
-/

namespace Outbox.Publisher

/-- A publisher in a world of type `ω`, and what it did there. -/
structure Course (ω : Type) where
  publisher : Publisher
  world : ω
  /-- The batch in work, if there is one, and whether it is the batch of a tick. -/
  work : Option (Bool × Batch) := none
  /-- The records whose messages the broker took, each with the world just after that. -/
  taken : List (Identifier × ω) := []

namespace Course

/-- What can happen in a course. -/
inductive Event (ω : Type)
  /-- A tick begins. -/
  | tick
  /-- A batch begins without regard to the breaker. -/
  | process
  /-- A move in the batch. -/
  | move (m : Batch.Move)
  /-- The call ends whose batch is done. -/
  | conclude
  /-- Something happens elsewhere in the world. -/
  | elsewhere (change : ω → ω)

variable {ω : Type}

/-- The number of workers that may be active at the same time. -/
def places (c : Course ω) : Nat :=
  c.publisher.settings.parallelism.toNat

/-- The course after a tick began. -/
def tick (p : Surroundings ω) (c : Course ω) : Course ω :=
  match beginTick p c.publisher c.world with
  | (.working b, publisher, world) => { c with publisher, world, work := some (true, b) }
  | (_, publisher, world) => { c with publisher, world }

/-- The course after a batch began without regard to the breaker. -/
def process (p : Surroundings ω) (c : Course ω) : Course ω :=
  let (publisher, w) := c.publisher.purge p c.world
  match publisher.fetch p w with
  | (.ok records, world) =>
    { c with publisher, world, work := some (false, { waiting := records }) }
  | (.error _, world) => { c with publisher, world }

/-- The record whose message the broker takes in the next step of a worker, if it takes one. -/
def takes (p : Surroundings ω) (k : Worker) (w : ω) : Option Identifier :=
  match k.stage with
  | .publishing m s => (p.publish m s w).1.ok?.map fun () => k.record.id
  | _ => none

/-- The record whose message the broker takes in a move, if it takes one. -/
def takesIn (p : Surroundings ω) (b : Batch) (w : ω) : Batch.Move → Option Identifier
  | .start => none
  | .advance i => b.active[i]?.bind (takes p · w)

/-- The course after a move in its batch. -/
def move (p : Surroundings ω) (c : Course ω) (ticking : Bool) (b : Batch) (m : Batch.Move) :
    Course ω :=
  let (b', window, world) :=
    b.move p c.publisher.retryDelay c.places m c.publisher.window c.world
  -- The broker takes a message at some time before the worker that published it goes on.
  { publisher := { c.publisher with window }, world, work := some (ticking, b'),
    taken := c.taken ++ (takesIn p b c.world m).toList.map (·, world) }

/-- The course after a call ended whose batch is done. -/
def conclude (p : Surroundings ω) (c : Course ω) (ticking : Bool) (b : Batch) : Course ω :=
  if ticking then
    let (_, publisher, world) :=
      c.publisher.conclude p b.results.report b.results.failure? c.world
    { c with publisher, world, work := none }
  else { c with work := none }

/-- The course after an event. One that cannot happen now changes nothing. -/
def step (p : Surroundings ω) (c : Course ω) (e : Event ω) : Course ω :=
  match e, c.work with
  | .tick, none => c.tick p
  | .process, none => c.process p
  | .move m, some (ticking, b) => c.move p ticking b m
  | .conclude, some (ticking, b) => if b.isDone then c.conclude p ticking b else c
  | .elsewhere change, _ => { c with world := change c.world }
  | _, _ => c

/-- The course after some events. -/
def run (p : Surroundings ω) (c : Course ω) (es : List (Event ω)) : Course ω :=
  es.foldl (step p) c

end Course

end Outbox.Publisher

/-!
## What the calls of a publisher lead to

If every single call leads from a world to one that is in some relation to it, then so does every
part of a tick, and every event of a course but for what happens elsewhere (`of_event`). The
relation may say that a part of the world is the same, or that it only grows.
-/

namespace Outbox.Publisher

variable {ω : Type}

/-- Every call leads to a world in some relation to the one before, and so do several calls. -/
structure Surroundings.Keeps (p : Surroundings ω) (r : ω → ω → Prop) : Prop where
  refl : ∀ w, r w w
  trans : ∀ ⦃w w' w''⦄, r w w' → r w' w'' → r w w''
  clock : ∀ w, r w (p.clock w).2
  fetch : ∀ limit ceiling w, r w (p.fetch limit ceiling w).2
  markProcessed : ∀ id w, r w (p.markProcessed id w).2
  markFailed : ∀ id reason w, r w (p.markFailed id reason w).2
  countRetry : ∀ id reason delay w, r w (p.countRetry id reason delay w).2
  publish : ∀ m s w, r w (p.publish m s w).2

namespace Surroundings.Keeps

variable {p : Surroundings ω} {r : ω → ω → Prop} (keeps : p.Keeps r) {w w' : ω}
include keeps

/-- To write the fate of a record keeps what single calls keep, whichever of the three calls it is.
-/
lemma of_write (delay : Time.Span) (id : Identifier) (fate : Fate) (w : ω) :
    r w (p.write delay id fate w).2 := by
  cases fate with
  | processed => exact keeps.markProcessed id w
  | failed reason => exact keeps.markFailed id reason w
  | retry reason => exact keeps.countRetry id reason delay w

/-- A step of a worker makes one call at most. -/
lemma of_step {delay a stage stage' win win'}
    (st : Worker.Step p delay a stage win w stage' win' w') : r w w' := by
  cases st with
  | skipped | forgotten | rested => exact keeps.refl w
  | known clock _ | unknown clock _ | remembered clock =>
    have kept := keeps.clock w
    rwa [clock] at kept
  | @taken m s _ _ _ pub | @refused m s _ _ _ _ pub | @crashed m s _ _ _ pub =>
    have kept := keeps.publish m s w
    rwa [pub] at kept
  | @written fate _ _ _ _ _ wr =>
    have kept := keeps.of_write delay a.id fate w
    rwa [wr] at kept

/-- Asking the breaker makes one call at most. -/
lemma of_skips (q : Publisher) (w : ω) : r w (q.skips p w).2.2 := by
  unfold skips
  split
  · exact keeps.clock w
  · exact keeps.refl w

/-- A purge makes one call at most. -/
lemma of_purge (q : Publisher) (w : ω) : r w (q.purge p w).2 := by
  unfold purge
  split
  · exact keeps.refl w
  · exact keeps.clock w

/-- Noting a failure reads the clock once, and once more where it opens the breaker. -/
lemma of_recordFailure (q : Publisher) (w : ω) : r w (q.recordFailure p w).2 := by
  unfold recordFailure
  simp only
  split
  · exact keeps.trans (keeps.clock w) (keeps.clock _)
  · exact keeps.clock w

/-- Only a batch that failed makes calls when it ends. -/
lemma of_conclude (q : Publisher) (report : Report) (failure : Option Failure) (w : ω) :
    r w (q.conclude p report failure w).2.2 := by
  unfold conclude
  cases failure with
  | none => exact keeps.refl w
  | some f => exact keeps.of_recordFailure ..

/-- A fetch after a purge keeps what single calls keep. -/
lemma of_fetch {q q' : Publisher} {w' w''} {fetched} (pg : q.purge p w = (q', w'))
    (ft : q'.fetch p w' = (fetched, w'')) : r w w'' := by
  have purged := keeps.of_purge q w
  rw [pg] at purged
  have kept := keeps.fetch q'.settings.batchSize q'.settings.retryCeiling w'
  rw [show p.fetch q'.settings.batchSize q'.settings.retryCeiling w' = _ from ft] at kept
  exact keeps.trans purged kept

/-- The begin of a tick keeps what single calls keep, wherever the tick may end already. -/
lemma of_beginTick (q : Publisher) (w : ω) : r w (beginTick p q w).2.2 := by
  have asked := keeps.of_skips q w
  unfold beginTick
  generalize q.skips p w = next at asked
  obtain ⟨_ | _, q₁, w₁⟩ := next
  · simp only
    generalize pg : q₁.purge p w₁ = purged
    obtain ⟨q₂, w₂⟩ := purged
    generalize ft : q₂.fetch p w₂ = fetched
    obtain ⟨e | records, w₃⟩ := fetched
    · have concluded := keeps.of_conclude q₂ {} (some (.store e)) w₃
      exact keeps.trans asked (keeps.trans (keeps.of_fetch pg ft) concluded)
    · exact keeps.trans asked (keeps.of_fetch pg ft)
  · exact asked

/-- A move of a batch makes the calls of the one worker that it is about. -/
lemma of_move (delay : Time.Span) (places : Nat) (b : Batch) (m : Batch.Move)
    (win : Option Window) (w : ω) : r w (b.move p delay places m win w).2.2 := by
  cases m with
  | start => exact keeps.refl w
  | advance i =>
    show r w (b.advance p delay i win w).2.2
    generalize st : b.advance p delay i win w = next
    obtain ⟨b', win', w'⟩ := next
    obtain ⟨-, -, -, rfl⟩ | ⟨_, _, _, _, -, -, -, st, -⟩ := Batch.advance_inv st
    · exact keeps.refl _
    · exact keeps.of_step st

/-- An event in a course keeps what single calls keep, unless it happens elsewhere. -/
lemma of_event (c : Course ω) {e : Course.Event ω} (inside : ∀ change, e ≠ .elsewhere change) :
    r c.world (c.step p e).world := by
  unfold Course.step
  split
  · have begun := keeps.of_beginTick c.publisher c.world
    unfold Course.tick
    split
    · next e =>
      rw [e] at begun
      exact begun
    · next e =>
      rw [e] at begun
      exact begun
  · unfold Course.process
    generalize pg : c.publisher.purge p c.world = purged
    obtain ⟨q, w⟩ := purged
    simp only
    generalize ft : q.fetch p w = fetched
    obtain ⟨e | records, w'⟩ := fetched <;> exact keeps.of_fetch pg ft
  · exact keeps.of_move ..
  · split
    · unfold Course.conclude
      split
      · exact keeps.of_conclude ..
      · exact keeps.refl _
    · exact keeps.refl _
  -- what happens elsewhere may change anything
  · exact absurd rfl (inside _)
  · exact keeps.refl _

end Surroundings.Keeps

end Outbox.Publisher

/-!
## Clocks that never move back

Surroundings in which time goes on and no leap second is ever read. There an instant is as good as
its number of nanoseconds, and every part of a tick either leaves it or lets it grow; the parts that
do not relay records leave the window of the publisher as it is.
-/

namespace Outbox.Publisher

variable {ω : Type}

/-- No call to the surroundings takes the world back in time, and no reading of the clock lies
before the call, after it, or in a leap second. -/
structure Surroundings.Timely (p : Surroundings ω) (time : ω → Time.Instant) : Prop where
  noLeap : ∀ w, (time w).isLeap = false
  reading : ∀ w, (p.clock w).1.isLeap = false
  since : ∀ w, time w ≤ (p.clock w).1
  until_ : ∀ w, (p.clock w).1 ≤ time (p.clock w).2
  fetch : ∀ limit ceiling w, time w ≤ time (p.fetch limit ceiling w).2
  markProcessed : ∀ id w, time w ≤ time (p.markProcessed id w).2
  markFailed : ∀ id reason w, time w ≤ time (p.markFailed id reason w).2
  countRetry : ∀ id reason delay w, time w ≤ time (p.countRetry id reason delay w).2
  publish : ∀ m s w, time w ≤ time (p.publish m s w).2

namespace Surroundings.Timely

variable {p : Surroundings ω} {time : ω → Time.Instant} (tm : p.Timely time) {w w' : ω}
include tm

/-- Of two worlds the later one has the greater number of nanoseconds. -/
lemma total_le (le : time w ≤ time w') : (time w).total ≤ (time w').total :=
  (Time.Instant.rank_le_iff_total_le (tm.noLeap w) (tm.noLeap w')).1 le

/-- A reading of the clock lies between the worlds before and after it. -/
lemma of_clock {now} (read : p.clock w = (now, w')) :
    now.isLeap = false ∧ (time w).total ≤ now.total ∧ now.total ≤ (time w').total := by
  have leap := tm.reading w
  have since := (Time.Instant.rank_le_iff_total_le (tm.noLeap w) leap).1 (tm.since w)
  have until_ := (Time.Instant.rank_le_iff_total_le leap (tm.noLeap _)).1 (tm.until_ w)
  rw [read] at leap since until_
  exact ⟨leap, since, until_⟩

/-- No call takes the world back in time. -/
lemma keeps : p.Keeps fun w w' => (time w).total ≤ (time w').total where
  refl _ := Int.le_refl _
  trans _ _ _ := Int.le_trans
  clock w := tm.total_le (Int.le_trans (tm.since w) (tm.until_ w))
  fetch limit ceiling w := tm.total_le (tm.fetch limit ceiling w)
  markProcessed id w := tm.total_le (tm.markProcessed id w)
  markFailed id reason w := tm.total_le (tm.markFailed id reason w)
  countRetry id reason delay w := tm.total_le (tm.countRetry id reason delay w)
  publish m s w := tm.total_le (tm.publish m s w)

/-- A fetch does not take the world back in time. -/
lemma of_fetch {q : Publisher} {a} (ft : q.fetch p w = (a, w')) :
    (time w).total ≤ (time w').total := by
  have le := tm.fetch q.settings.batchSize q.settings.retryCeiling w
  rw [show p.fetch q.settings.batchSize q.settings.retryCeiling w = (a, w') from ft] at le
  exact tm.total_le le

/-- A step of a worker does not take the world back in time. -/
lemma of_step {delay r stage stage' win win'}
    (st : Worker.Step p delay r stage win w stage' win' w') :
    (time w).total ≤ (time w').total :=
  tm.keeps.of_step st

/-- Asking the breaker takes its time and leaves the window as it is. -/
lemma of_skips {q q' : Publisher} {b} (sk : q.skips p w = (b, q', w')) :
    q'.window = q.window ∧ (time w).total ≤ (time w').total := by
  have le := tm.keeps.of_skips q w
  rw [sk] at le
  refine ⟨?_, le⟩
  unfold skips askBreaker at sk
  simp only at sk
  split at sk
  · generalize q.breaker.ask q.breakerReset (p.clock w).1 = asked at sk
    obtain ⟨_ | _, breaker⟩ := asked <;> cases sk <;> rfl
  · cases sk
    rfl

/-- Ending a tick takes its time and leaves the window as it is. -/
lemma of_conclude {q q' : Publisher} {report failure t}
    (cn : q.conclude p report failure w = (t, q', w')) :
    q'.window = q.window ∧ (time w).total ≤ (time w').total := by
  have le := tm.keeps.of_conclude q report failure w
  rw [cn] at le
  refine ⟨?_, le⟩
  unfold conclude recordFailure at cn
  cases failure with
  | none =>
    cases cn
    rfl
  | some f =>
    simp only at cn
    split at cn <;> cases cn <;> rfl

end Surroundings.Timely

end Outbox.Publisher
