import Outbox.Proofs.Drill.Isolation
import Outbox.Proofs.Time

/-!
# Time near the ends of its range

What the bounds of time do to a publisher. Settings that are out of their ranges are refused, so that
a publisher that was built has the spans that it was asked for (`build_cases`). Then the clocks may
show whatever they like: every difference of two readings is a span, and the only instant that may
not be there is that at which a record is to be tried again. The main statement `run_in_range` says
which worker fails then, that it writes nothing, and what becomes of its tick.
-/

namespace Outbox

namespace Publisher

/-- A publisher has the spans that its settings ask for, and each of them takes some time. -/
structure Timed (s : Settings) (q : Publisher) : Prop where
  settings : q.settings = s
  inside : ∀ f ∈ s.ranges, f.least ≤ f.value ∧ f.value ≤ f.greatest
  retryDelay : q.retryDelay.nanoseconds = s.retryDelaySeconds.toNat * 1000000000 ∧
    .zero < q.retryDelay
  breakerReset : q.breakerReset.nanoseconds = s.breakerResetSeconds.toNat * 1000000000 ∧
    .zero < q.breakerReset
  window : s.windowEnabled = true → ∃ win, q.window = some win ∧
    win.length.nanoseconds = s.windowHours.toNat * 3600 * 1000000000 ∧ .zero < win.length
  windowless : s.windowEnabled = false → q.window = none

/-- A publisher is built if its settings lie in their ranges. Otherwise the first one that does not
is named. -/
lemma build_cases (s : Settings) :
    (∃ before e behind, build s = .error e ∧ s.ranges = before ++ e :: behind ∧
      (∀ f ∈ before, f.least ≤ f.value ∧ f.value ≤ f.greatest) ∧
      (e.value < e.least ∨ e.greatest < e.value)) ∨
    ∃ q, build s = .ok q ∧ Timed s q := by
  obtain ⟨valid, inside⟩ | ⟨before, e, behind, refused, first⟩ := s.validate_inv
  · right
    have delays : 1 ≤ s.retryDelaySeconds.toNat ∧ s.retryDelaySeconds.toNat ≤ 3600 :=
      inside ⟨"retry_delay_seconds", _, 1, 3600⟩ (by simp [Settings.ranges])
    have resets : 10 ≤ s.breakerResetSeconds.toNat ∧ s.breakerResetSeconds.toNat ≤ 3600 :=
      inside ⟨"circuit_breaker_reset_timeout_seconds", _, 10, 3600⟩ (by simp [Settings.ranges])
    have hours : 1 ≤ s.windowHours.toNat ∧ s.windowHours.toNat ≤ 720 :=
      inside ⟨"idempotency_cache_hours", _, 1, 720⟩ (by simp [Settings.ranges])
    -- Each count is so small that it is the same number with a sign, and its span is in range.
    obtain ⟨retryDelay, delay, delay_eq⟩ : ∃ span, s.retryDelay? = some span ∧
        span.nanoseconds = s.retryDelaySeconds.toNat * 1000000000 := by
      rw [Settings.retryDelay?, Settings.signed_eq_toNat (by omega)]
      exact Time.Span.ofSeconds?_isSome (by omega) (by omega)
    obtain ⟨breakerReset, reset, reset_eq⟩ : ∃ span, s.breakerReset? = some span ∧
        span.nanoseconds = s.breakerResetSeconds.toNat * 1000000000 := by
      rw [Settings.breakerReset?, Settings.signed_eq_toNat (by omega)]
      exact Time.Span.ofSeconds?_isSome (by omega) (by omega)
    obtain ⟨length, window, length_eq⟩ : ∃ span, s.window? = some span ∧
        span.nanoseconds = s.windowHours.toNat * 3600 * 1000000000 := by
      rw [Settings.window?, Settings.signed_eq_toNat (by omega)]
      exact Time.Span.ofSeconds?_isSome (by omega) (by omega)
    have positive {span : Time.Span} {n : Nat} (pos : 0 < n)
        (eq : span.nanoseconds = n * 1000000000) : .zero < span := by
      rw [Time.Span.lt_iff, eq]
      exact Int.mul_pos (Int.natCast_pos.2 pos) (by decide)
    have built : build s = .ok {
        settings := s, retryDelay, breakerReset
        window := if s.windowEnabled then some (.ofLength length) else none } := by
      simp only [build, valid, delay, reset, window]
    refine ⟨_, built, rfl, inside, ⟨delay_eq, positive (by omega) delay_eq⟩,
      ⟨reset_eq, positive (by omega) reset_eq⟩, ?_, ?_⟩
    · intro enabled
      exact ⟨_, if_pos enabled, length_eq, positive (n := s.windowHours.toNat * 3600) (by omega)
        (length_eq.trans (by omega))⟩
    · intro disabled
      exact if_neg (Bool.eq_false_iff.1 disabled)
  · left
    exact ⟨before, e, behind, by simp only [build, refused], first⟩

namespace Course

variable {ω : Type} {p : Surroundings ω} {c : Course ω}

/-- After every event the workers of a batch in work are active until they are finished. -/
lemma sorted_step (sorted : ∀ x ∈ c.work, x.2.Sorted) (e : Event ω) :
    ∀ x ∈ (c.step p e).work, x.2.Sorted := by
  unfold step
  split
  · unfold tick
    split
    · next begun =>
      obtain waits | ⟨_, _, works, -⟩ := beginTick_inv begun
      · cases waits
      · cases works
        rintro _ ⟨⟩
        exact Batch.sorted_waiting _
    · exact sorted
  · unfold process
    simp only
    split
    · rintro _ ⟨⟩
      exact Batch.sorted_waiting _
    · exact sorted
  · next m _ b work =>
    rintro _ ⟨⟩
    exact (sorted _ work).move ..
  · split
    · unfold conclude
      split <;> nofun
    · exact sorted
  · exact sorted
  · exact sorted

/-- The workers of a course stay sorted. -/
lemma sorted_run (sorted : ∀ x ∈ c.work, x.2.Sorted) (es : List (Event ω)) :
    ∀ x ∈ (c.run p es).work, x.2.Sorted := by
  induction es generalizing c with
  | nil => exact sorted
  | cons e es ih => exact ih (sorted_step sorted e)

end Course

/-- A batch that fails counts once, whether or not it opens the breaker. -/
lemma failures_conclude {ω : Type} (p : Surroundings ω) (q : Publisher) (report : Report)
    (f : Failure) (w : ω) :
    (q.conclude p report (some f) w).2.1.breaker.failures = saturatingSucc q.breaker.failures := by
  simp only [conclude, recordFailure]
  split <;> rfl

end Publisher

/-- A store crashes if and only if a retry is due after the last instant. -/
lemma Store.settle_crashes_iff {s : Store} {delay : Time.Span} {now id} {fate : Publisher.Fate} :
    s.settle delay now id fate = .crash ↔
      (∃ reason, fate = .retry reason) ∧ now.add? delay = none := by
  have calm (called : Except Error Store) : Answer.ofExcept called ≠ .crash := by
    cases called <;> rintro ⟨⟩
  cases fate with
  | processed | failed => exact iff_of_false (calm _) (by rintro ⟨⟨_, ⟨⟩⟩, _⟩)
  | retry reason =>
    simp only [settle, countRetry, Publisher.Fate.retry.injEq, exists_eq', true_and]
    cases now.add? delay with
    | none => exact iff_of_true rfl rfl
    | some next => exact iff_of_false (calm _) (by rintro ⟨⟩)

namespace Drill
open Publisher (Batch Course Fate Worker)

variable {resolve : String → Option Shape} {c : Course Drill} {b : Batch} {i : Nat} {k : Worker}

/-- A worker is to count a retry of its record, and the range of instants ends before that would be
due. -/
structure Overruns (c : Course Drill) (k : Worker) : Prop where
  retries : ∃ reason published, k.stage = .writing (.retry reason) published
  /-- The call to the store is not made to fail by itself. -/
  unhindered : c.world.script.fault c.world.calls = none
  late : c.world.now.secondsLeft < c.publisher.settings.retryDelaySeconds.toNat

/-- A call that crashes was not made to fail, and changes nothing. -/
lemma call_crash_iff {d : Drill} {called : Answer Store.Error Store} :
    (d.call called).1 = .crash ↔ d.script.fault d.calls = none ∧ called = .crash := by
  unfold call
  cases d.script.fault d.calls <;> cases called <;> simp

/-- A call that crashes leaves the store as it was. -/
lemma store_call_crash {d : Drill} {called : Answer Store.Error Store}
    (crashed : (d.call called).1 = .crash) : (d.call called).2.store = d.store := by
  obtain ⟨fault, rfl⟩ := call_crash_iff.1 crashed
  simp only [call, fault]

/-- A worker changes nothing in the store unless it writes there without a crash. -/
lemma store_of_step {delay : Time.Span} {r stage stage' win win'} {d d' : Drill}
    (st : Worker.Step (surroundings resolve) delay r stage win d stage' win' d')
    (unwritten : (∀ fate published, stage ≠ .writing fate published) ∨ stage' = .finished .crash) :
    d'.store = d.store := by
  cases st with
  | skipped | forgotten | rested => rfl
  | known clock | unknown clock | remembered clock =>
    cases clock
    rfl
  | taken pub | refused pub | crashed pub =>
    cases (Prod.mk.inj pub).2
    rfl
  | @written fate published answer _ _ _ wr =>
    obtain none | crashed := unwritten
    · exact absurd rfl (none fate published)
    · cases answer with
      | crash =>
        rw [write_eq] at wr
        have same := store_call_crash (congrArg Prod.fst wr)
        rwa [wr] at same
      | ok | error => cases crashed

/-- A move in a drill is a move in its batch. -/
lemma step_move (resolve : String → Option Shape) (work : c.work = some (true, b))
    (m : Batch.Move) :
    step resolve c (.move m) = c.move (surroundings resolve) true b m := by
  simp only [step, Event.toCourse, Course.step, work]

/-- While a batch is in work its finished workers stay finished, and the breaker is left alone. -/
lemma run_inner (resolve : String → Option Shape) (work : c.work = some (true, b))
    {es : List Event} (inner : ∀ e ∈ es, e.isInner = true) :
    ∃ b', (run resolve c es).work = some (true, b') ∧ b.finished <+: b'.finished ∧
      (run resolve c es).publisher.breaker = c.publisher.breaker := by
  induction es generalizing c b with
  | nil => exact ⟨b, work, List.prefix_rfl, rfl⟩
  | cons e es ih =>
    have behind : ∀ e ∈ es, e.isInner = true := fun e mem => inner e (List.mem_cons_of_mem _ mem)
    cases e with
    | tick | conclude => cases inner _ List.mem_cons_self
    | pass now => exact ih (c := step resolve c (.pass now)) work behind
    | move m =>
      have moved := step_move resolve work m
      have grows := Batch.finished_prefix_move (surroundings resolve) c.publisher.retryDelay
        c.places b m c.publisher.window c.world
      obtain ⟨b', work', grows', breaker⟩ := ih (congrArg Course.work moved) behind
      refine ⟨b', work', grows.trans grows', breaker.trans ?_⟩
      rw [moved]
      rfl

/-- A tick that began before the course `c` is to fail in the course `c'`, in which its batch is
done: the breaker counts that once, and the store stays as it is. -/
structure Fails (resolve : String → Option Shape) (c c' : Course Drill) (b : Batch) : Prop where
  told : ∃ f, ticks resolve c' [.conclude] = [(.failed f, b.results)]
  counted : (step resolve c' .conclude).publisher.breaker.failures =
    saturatingSucc c.publisher.breaker.failures
  ended : (step resolve c' .conclude).work = none
  store : (step resolve c' .conclude).world.store = c'.world.store

/-- A tick fails if one of its workers crashed. -/
lemma fails_of_crashed {c' : Course Drill} (work : c'.work = some (true, b))
    (done : b.isDone = true) (mem : k ∈ b.finished) (crashed : k.stage = .finished .crash)
    (same : c'.publisher.breaker = c.publisher.breaker) : Fails resolve c c' b := by
  have bad : .crash ∈ b.results := List.mem_filterMap.2 ⟨k, mem, by rw [Worker.result?, crashed]⟩
  obtain ⟨f, failure⟩ : ∃ f, b.results.failure? = some f := by
    cases failure : b.results.failure? with
    | some f => exact ⟨f, rfl⟩
    | none =>
      obtain ⟨o, good⟩ := Publisher.Results.failure?_eq_none_iff.1 failure _ bad
      cases good
  have tick : b.results.tick = .failed f := by simp only [Publisher.Results.tick, failure]
  have told := over?_conclude resolve work done
  have ended : step resolve c' .conclude = c'.conclude (surroundings resolve) true b := by
    simp only [step, Event.toCourse, Course.step, work, done, if_true]
  refine ⟨⟨f, ?_⟩, ?_, ?_, ?_⟩
  · simp only [ticks, List.map_cons, Event.toCourse, Course.ticks, told, tick]
    rfl
  · have counted := Publisher.failures_conclude (surroundings resolve) c'.publisher
      b.results.report f c'.world
    rw [ended, ← same, ← counted, ← failure]
    rfl
  · rw [ended]
    rfl
  · obtain ⟨_, _, _, concluded, -⟩ := conclude_eq resolve c'.publisher b.results.report
      b.results.failure? c'.world
    rw [ended]
    simp only [Course.conclude, if_true, concluded]

/-- What the worker at a place of a batch does in its next step, as far as time is concerned. -/
structure InRange (resolve : String → Option Shape) (c : Course Drill) (b : Batch) (i : Nat)
    (k : Worker) : Prop where
  /-- It crashes only with the broker, or if a retry would be due after the last instant. -/
  crashes : (step resolve c (.move (.advance i))).work = some (true, b.crash i) ↔
    (∃ m s, k.stage = .publishing m s ∧ c.world.script.answer c.world.asked.length m s = .crash) ∨
      Overruns c k
  /-- In the latter case it leaves the store as it is, as all its steps did before that. -/
  spares : (∀ fate published, k.stage ≠ .writing fate published) ∨ Overruns c k →
    (step resolve c (.move (.advance i))).world.store = c.world.store
  /-- Its tick goes on until the batch is done, and then it fails. -/
  fails : Overruns c k → ∀ during : List Event, (∀ e ∈ during, e.isInner = true) →
    let c' := run resolve c (.move (.advance i) :: during)
    (∃ (ms : List Batch.Move) (b' : Batch),
      (run resolve c' (ms.map .move)).work = some (true, b') ∧ b'.isDone = true) ∧
    ∀ b', c'.work = some (true, b') → b'.isDone = true → Fails resolve c c' b'

section
variable (pos : 0 < c.publisher.settings.retryDelaySeconds.toNat)
  (whole : c.publisher.retryDelay.nanoseconds =
    c.publisher.settings.retryDelaySeconds.toNat * 1000000000)
include pos whole

/-- The store crashes under a worker if and only if that overruns. -/
lemma overruns_iff :
    (∃ fate published, k.stage = .writing fate published ∧
      ((surroundings resolve).write c.publisher.retryDelay k.record.id fate c.world).1 = .crash) ↔
      Overruns c k := by
  constructor
  · rintro ⟨fate, published, writing, crashed⟩
    rw [write_eq, call_crash_iff, Store.settle_crashes_iff] at crashed
    obtain ⟨unhindered, ⟨reason, rfl⟩, late⟩ := crashed
    exact ⟨⟨reason, published, writing⟩, unhindered,
      (Time.Instant.add?_eq_none_iff pos whole).1 late⟩
  · rintro ⟨⟨reason, published, writing⟩, unhindered, late⟩
    refine ⟨.retry reason, published, writing, ?_⟩
    rw [write_eq, call_crash_iff, Store.settle_crashes_iff]
    exact ⟨unhindered, ⟨reason, rfl⟩, (Time.Instant.add?_eq_none_iff pos whole).2 late⟩

/-- The next step of a busy worker is as `InRange` says. -/
lemma inRange (room : 0 < c.places) (work : c.work = some (true, b))
    (here : b.active[i]? = some k) (busy : k.isFinished = false) : InRange resolve c b i k := by
  have moved := step_move resolve work (.advance i)
  have crashes := Worker.step_crashes_iff (surroundings resolve) c.publisher.retryDelay busy
    c.publisher.window c.world
  rw [overruns_iff pos whole] at crashes
  -- A worker is lost just when its step ends in a crash.
  have lost : (step resolve c (.move (.advance i))).work = some (true, b.crash i) ↔
      (k.step (surroundings resolve) c.publisher.retryDelay c.publisher.window c.world).1.stage =
        .finished .crash := by
    rw [moved, ← Batch.advance_eq_crash_iff here]
    show some (true, (b.advance _ _ i _ _).1) = _ ↔ _
    rw [Option.some_inj, Prod.mk.injEq, and_iff_right rfl]
  refine ⟨lost.trans crashes, fun unwritten => ?_, fun overruns during inner => ?_⟩
  · have same : (step resolve c (.move (.advance i))).world = (k.step (surroundings resolve)
        c.publisher.retryDelay c.publisher.window c.world).2.2 := by
      rw [moved]
      exact congrArg Prod.snd (Batch.advance_snd here)
    rw [same]
    generalize next : k.step (surroundings resolve) c.publisher.retryDelay c.publisher.window
      c.world = stepped at crashes
    obtain ⟨k', win', d'⟩ := stepped
    refine store_of_step (Worker.step_inv next).2 (unwritten.imp_right fun overruns => ?_)
    exact crashes.2 (.inr overruns)
  · have crashed := (lost.trans crashes).2 (.inr overruns)
    obtain ⟨b', work', grows, breaker⟩ := run_inner resolve crashed inner
    refine ⟨exists_isDone work' ?_, fun b'' work'' done => ?_⟩
    · rw [Course.places, settings_run]
      exact room
    · cases work'.symm.trans work''
      have mem : { k with stage := .finished .crash } ∈ (b.crash i).finished := by
        simp [Batch.crash, here]
      refine fails_of_crashed work' done (grows.subset mem) rfl (breaker.trans ?_)
      rw [moved]
      rfl

end

/-- Whatever the settings are, and whatever the clocks show: if a setting is out of its range, the
first one is named. Otherwise a publisher is built that has the spans which its settings ask for, and
then the span between two readings of a clock is always there. The only instant that may not be there
is that of the next attempt at a record, if the range of instants ends before that. The worker that
finds this out changes nothing in the store, and its tick fails, which its breaker counts once. -/
theorem run_in_range (s : Settings) :
    (∃ before e behind, Publisher.build s = .error e ∧ s.ranges = before ++ e :: behind ∧
      (∀ f ∈ before, f.least ≤ f.value ∧ f.value ≤ f.greatest) ∧
      (e.value < e.least ∨ e.greatest < e.value)) ∨
    ∃ q, Publisher.build s = .ok q ∧ Publisher.Timed s q ∧
      (∀ later earlier : Time.Instant, Time.Span.ofNanoseconds?
        (later.total - earlier.total + later.leapBetween earlier * 1000000000) =
          some (later.elapsed earlier)) ∧
      (∀ now : Time.Instant,
        now.add? q.retryDelay = none ↔ now.secondsLeft < s.retryDelaySeconds.toNat) ∧
      ∀ (resolve : String → Option Shape) (d : Drill) (es : List Event),
        let c := run resolve (start q d) es
        c.publisher.design = q.design ∧
        ∀ b, c.work = some (true, b) → ∀ i k, b.active[i]? = some k → InRange resolve c b i k := by
  refine (Publisher.build_cases s).imp_right ?_
  rintro ⟨q, built, timed⟩
  obtain ⟨whole, -⟩ := timed.retryDelay
  have delays : 1 ≤ s.retryDelaySeconds.toNat ∧ s.retryDelaySeconds.toNat ≤ 3600 :=
    timed.inside ⟨"retry_delay_seconds", _, 1, 3600⟩ (by simp [Settings.ranges])
  refine ⟨q, built, timed, Time.Span.ofNanoseconds?_elapsed,
    fun now => Time.Instant.add?_eq_none_iff delays.1 whole, ?_⟩
  intro resolve d es c
  -- The spans are those that the publisher was built with.
  have design : c.publisher.design = q.design := design_run ..
  refine ⟨design, fun b work i k here => ?_⟩
  obtain ⟨settings, spans⟩ := Prod.mk.inj design
  obtain ⟨retryDelay, -⟩ := Prod.mk.inj spans
  rw [timed.settings] at settings
  have sorted : b.Sorted := by
    refine Course.sorted_run (p := surroundings resolve) (c := start q d) (by rintro _ ⟨⟩)
      (es.map Event.toCourse) (true, b) ?_
    rw [← run_eq]
    exact work
  refine inRange ?_ ?_ ?_ work here (sorted.active k (List.mem_of_getElem? here))
  · rw [settings]
    exact delays.1
  · rw [settings, retryDelay]
    exact whole
  · rw [Course.places, settings, ← timed.settings]
    exact Publisher.room_of_build built

/-- A record in a store whose clock shows the last second, with a broker that refuses every message.
-/
def belated : Drill where
  script := ⟨fun _ => .epoch, fun _ _ _ => .error (.unavailable ""), fun _ => none⟩
  store := lone
  now := { Time.Instant.epoch with
    day := Time.lastDay, second := 86399, first_le := by decide, le_last := by decide,
    second_lt := by decide }

/-- The record is refused and was to be tried again a minute after the last second. Its tick fails,
the breaker has counted that, and the record is as it was. -/
theorem run_in_range_belated :
    ∃ q, Publisher.build {} = .ok q ∧ Publisher.Timed {} q ∧
      let c := run goneOnly (start q belated) (single.take 4)
      ∃ b k, c.work = some (true, b) ∧ b.active[0]? = some k ∧ Overruns c k ∧
        let c' := step goneOnly c (.move (.advance 0))
        ∃ b', c'.work = some (true, b') ∧ b' = b.crash 0 ∧ b'.isDone = true ∧
          Fails goneOnly c c' b' ∧ (step goneOnly c' .conclude).publisher.breaker.failures = 1 ∧
          c'.world.store.get? ⟨1⟩ = some (gone ⟨1⟩) := by
  obtain ⟨_, _, _, refused, -⟩ | ⟨q, built, timed, -, -, every⟩ := run_in_range {}
  · cases refused
  · cases built
    refine ⟨_, rfl, timed, ?_⟩
    intro c
    obtain ⟨-, all⟩ := every goneOnly belated (single.take 4)
    have late : c.world.now.secondsLeft < c.publisher.settings.retryDelaySeconds.toNat := by
      decide +kernel
    have waits : (c.work.bind fun x => x.2.active[0]?.map fun k => (x.1, (x.2.crash 0).isDone,
        match k.stage with | .writing (.retry _) _ => true | _ => false)) =
          some (true, true, true) := by decide +kernel
    obtain ⟨⟨ticking, b⟩, work, waits⟩ := Option.bind_eq_some_iff.1 waits
    obtain ⟨k, here, waits⟩ := Option.map_eq_some_iff.1 waits
    simp only [Prod.mk.injEq] at waits
    obtain ⟨rfl, only, retries⟩ := waits
    have writing : ∃ reason published, k.stage = .writing (.retry reason) published := by
      split at retries
      · next stage => exact ⟨_, _, stage⟩
      · cases retries
    have range := all b work 0 k here
    have overruns : Overruns c k := ⟨writing, by decide +kernel, late⟩
    have crashed := range.crashes.2 (.inr overruns)
    have fails := (range.fails overruns [] (by decide)).2 _ crashed only
    refine ⟨b, k, work, here, overruns, _, crashed, rfl, only, fails, ?_, ?_⟩
    · refine fails.counted.trans ?_
      decide +kernel
    · refine (congrArg (·.get? ⟨1⟩) (range.spares (.inr overruns))).trans ?_
      decide +kernel

end Drill

end Outbox
