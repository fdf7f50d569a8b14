import Outbox.Proofs.Breaker
import Outbox.Proofs.Publisher

/-!
# Streaks of failed batches

When a publisher skips a tick. The verdicts of a course are those of the ticks that were not
skipped, and its breaker goes by them (`Heeds`): every event keeps that, whatever the store and the
broker do and whatever the clock shows. The main statement `skips_iff_cooling` says of whole courses
that a tick is skipped if and only if the verdicts since the last reset demand it.
-/

namespace Outbox.Publisher
open Breaker (Verdict Strained sinceReset Cooling Follows Passed)

variable {ω : Type} {p : Surroundings ω}

/-- A publisher asks its breaker, and counts the tick if it is to be skipped. -/
lemma skips_inv {q q' : Publisher} {w w' : ω} {opened} (enabled : q.settings.breakerEnabled = true)
    (sk : q.skips p w = (opened, q', w')) :
    ∃ breaker, q.breaker.ask q.breakerReset (p.clock w).1 = (opened, breaker) ∧
      w' = (p.clock w).2 ∧
      q' = { q with
        breaker, stats.skips := if opened then q.stats.skips + 1 else q.stats.skips } := by
  unfold skips askBreaker at sk
  simp only [enabled, if_true] at sk
  generalize q.breaker.ask q.breakerReset (p.clock w).1 = asked at sk
  obtain ⟨_ | _, breaker⟩ := asked <;> cases sk <;> exact ⟨_, rfl, rfl, rfl⟩

/-- What a batch comes to: it fails, or found nothing to do, or has a report. -/
lemma conclude_fst (p : Surroundings ω) (q : Publisher) (report : Report)
    (failure : Option Failure) (w : ω) :
    (q.conclude p report failure w).1 =
      match failure with
      | none => if report.fetched = 0 then .idle else .processed report
      | some f => .failed f := by
  cases failure <;> rfl

/-- A tick is skipped if the breaker says so. -/
lemma tick_eq_skipped_iff {q : Publisher} {w : ω} :
    (q.tick p w).1 = .skipped ↔ (q.skips p w).1 = true := by
  unfold tick
  split
  · next asked => simp [asked]
  · next asked =>
    rw [asked, conclude_fst]
    split
    · split <;> simp
    · simp

/-- The verdict on a batch that was over in some world. What counts is when the failure had been
noted. -/
def verdict (p : Surroundings ω) : Tick × ω → Verdict
  | (.failed _, w) => .failed (p.clock (p.clock w).2).1
  | _ => .good

/-- A publisher that lets a batch through goes by the verdict on it. -/
lemma follows_conclude {q q' : Publisher} {w w' : ω} {report failure t vs}
    (enabled : q.settings.breakerEnabled = true) (pos : 0 < q.settings.breakerThreshold.toNat)
    (ps : Passed q.settings.breakerThreshold vs q.breaker)
    (cn : q.conclude p report failure w = (t, q', w')) :
    Follows q.settings.breakerThreshold (verdict p (t, w) :: vs) q'.breaker ∧
      q'.settings = q.settings ∧ q'.breakerReset = q.breakerReset := by
  unfold conclude at cn
  cases failure with
  | none =>
    cases cn
    refine ⟨?_, rfl, rfl⟩
    split <;> exact ps.recordSuccess pos
  | some f =>
    simp only [recordFailure] at cn
    split at cn
    · next many =>
      cases cn
      exact ⟨ps.trip (of_decide_eq_true (Bool.and_eq_true_iff.1 many).2) _, rfl, rfl⟩
    · next few =>
      cases cn
      refine ⟨ps.recordFailure (fun many => few ?_) _, rfl, rfl⟩
      exact Bool.and_eq_true_iff.2 ⟨enabled, decide_eq_true many⟩

/-- A batch failed if one of its workers did. -/
lemma Results.failure?_eq_none_iff {rs : Results} :
    rs.failure? = none ↔ ∀ r ∈ rs, ∃ o, r = .ok o := by
  unfold Results.failure?
  rw [List.findSome?_eq_none_iff]
  refine forall₂_congr fun r _ => ?_
  cases r <;> simp [failureOf]

namespace Course

/-- What a tick that was not skipped comes to, if it comes to its end in an event, and the world in
which its batch was over. -/
def ends? (p : Surroundings ω) (c : Course ω) (e : Event ω) : Option (Tick × ω) :=
  match e, c.work with
  | .tick, none =>
    match c.publisher.skips p c.world with
    | (true, _, _) => none
    | (false, q, w) =>
      let (q, w) := q.purge p w
      match q.fetch p w with
      | (.error e, w) => some ((q.conclude p {} (some (.store e)) w).1, w)
      | (.ok _, _) => none
  | .conclude, some (true, b) =>
    if b.isDone then
      some ((c.publisher.conclude p b.results.report b.results.failure? c.world).1, c.world)
    else none
  | _, _ => none

/-- The verdicts on the ticks that come to their ends in some events, the latest first. -/
def verdicts (p : Surroundings ω) : Course ω → List (Event ω) → List Verdict
  | _, [] => []
  | c, e :: es => verdicts p (c.step p e) es ++ ((c.ends? p e).map (verdict p)).toList

/-- The breaker of a course goes by the verdicts so far. In the batch of a tick it has let that
through. -/
structure Heeds (s : Settings) (reset : Time.Span) (vs : List Verdict) (c : Course ω) : Prop where
  settings : c.publisher.settings = s
  reset : c.publisher.breakerReset = reset
  passed : ∀ b, c.work = some (true, b) → Passed s.breakerThreshold vs c.publisher.breaker
  follows : (∀ b, c.work ≠ some (true, b)) → Follows s.breakerThreshold vs c.publisher.breaker

namespace Heeds

variable {s : Settings} {reset : Time.Span} {vs : List Verdict} {c : Course ω}

/-- Nothing but a tick concerns the breaker. -/
lemma of_same {c' : Course ω} (hd : Heeds s reset vs c)
    (settings : c'.publisher.settings = c.publisher.settings)
    (same : c'.publisher.breakerReset = c.publisher.breakerReset)
    (breaker : c'.publisher.breaker = c.publisher.breaker)
    (work : (∃ b, c'.work = some (true, b)) ↔ ∃ b, c.work = some (true, b)) :
    Heeds s reset vs c' where
  settings := settings.trans hd.settings
  reset := same.trans hd.reset
  passed b ticking := by
    obtain ⟨b', ticking'⟩ := work.1 ⟨b, ticking⟩
    exact breaker ▸ hd.passed b' ticking'
  follows idle := by
    refine breaker ▸ hd.follows fun b ticking => ?_
    obtain ⟨b', ticking'⟩ := work.2 ⟨b, ticking⟩
    exact idle b' ticking'

variable (enabled : s.breakerEnabled = true) (pos : 0 < s.breakerThreshold.toNat)
include enabled pos

/-- Before a tick the breaker tells whether it is cooling. If it is, the publisher only counts that.
-/
lemma skips (hd : Heeds s reset vs c) (idle : c.work = none) {opened q w}
    (sk : c.publisher.skips p c.world = (opened, q, w)) :
    (opened = true ↔ Cooling s.breakerThreshold.toNat reset vs (p.clock c.world).1) ∧
      (opened = true → w = (p.clock c.world).2 ∧
        q = { c.publisher with stats.skips := c.publisher.stats.skips + 1 }) ∧
      (opened = false → Passed s.breakerThreshold vs q.breaker ∧ q.settings = s ∧
        q.breakerReset = reset) := by
  obtain ⟨rfl, rfl, -, follows⟩ := hd
  obtain ⟨breaker, asked, rfl, rfl⟩ := skips_inv enabled sk
  obtain ⟨cooling, same, passed⟩ := (follows (by simp [idle])).ask pos asked
  refine ⟨cooling, fun here => ⟨rfl, ?_⟩, fun here => ⟨passed here, rfl, rfl⟩⟩
  cases same here
  simp [here]

/-- The verdict on a batch that is over is heeded. -/
lemma of_conclude {q q' : Publisher} {w w' : ω} {report failure t taken}
    (ps : Passed s.breakerThreshold vs q.breaker) (settings : q.settings = s)
    (same : q.breakerReset = reset) (cn : q.conclude p report failure w = (t, q', w')) :
    Heeds s reset (verdict p (t, w) :: vs)
      { publisher := q', world := w', work := none, taken } := by
  subst settings same
  obtain ⟨follows, settings, same⟩ := follows_conclude enabled pos ps cn
  exact ⟨settings, same, nofun, fun _ => follows⟩

/-- A tick keeps a course heedful, whether it is skipped, fails to fetch or leaves a batch. -/
lemma tick (hd : Heeds s reset vs c) (idle : c.work = none) :
    Heeds s reset (((c.ends? p .tick).map (verdict p)).toList ++ vs) (c.tick p) := by
  unfold ends? Course.tick beginTick
  simp only [idle]
  generalize sk : c.publisher.skips p c.world = asked
  obtain ⟨_ | _, q, w⟩ := asked
  · obtain ⟨-, -, passed⟩ := hd.skips enabled pos idle sk
    obtain ⟨ps, settings, same⟩ := passed rfl
    simp only
    generalize pg : q.purge p w = purged
    obtain ⟨q', w'⟩ := purged
    obtain ⟨breaker, settings', same'⟩ := breaker_purge pg
    rw [← breaker] at ps
    simp only
    generalize ft : q'.fetch p w' = fetched
    obtain ⟨e | records, w''⟩ := fetched
    · exact of_conclude enabled pos ps (settings'.trans settings) (same'.trans same)
        (show q'.conclude p {} (some (.store e)) w'' = (_, _, _) from rfl)
    · exact ⟨settings'.trans settings, same'.trans same, fun _ _ => ps,
        fun none => absurd rfl (none _)⟩
  · obtain ⟨-, skipped, -⟩ := hd.skips enabled pos idle sk
    obtain ⟨rfl, rfl⟩ := skipped rfl
    exact hd.of_same rfl rfl rfl (by simp [idle])

omit enabled pos in
/-- A call that processes one batch does not ask the breaker. -/
lemma process (hd : Heeds s reset vs c) (idle : c.work = none) :
    Heeds s reset vs (c.process p) := by
  unfold Course.process
  generalize pg : c.publisher.purge p c.world = purged
  obtain ⟨q, w⟩ := purged
  obtain ⟨breaker, settings, same⟩ := breaker_purge pg
  simp only
  split <;> exact hd.of_same settings same breaker (by simp [idle])

/-- The end of a call keeps a course heedful: that of a tick with a verdict, any other without. -/
lemma conclude {ticking b} (hd : Heeds s reset vs c) (work : c.work = some (ticking, b))
    (done : b.isDone = true) :
    Heeds s reset (((c.ends? p .conclude).map (verdict p)).toList ++ vs)
      (c.conclude p ticking b) := by
  unfold ends? Course.conclude
  cases ticking with
  | true =>
    simp only [work, done, if_true]
    exact of_conclude enabled pos (hd.passed b work) hd.settings hd.reset rfl
  | false =>
    simp only [work]
    exact hd.of_same rfl rfl rfl (by simp [work])

/-- Every event keeps a course heedful. -/
lemma step (hd : Heeds s reset vs c) (e : Event ω) :
    Heeds s reset (((c.ends? p e).map (verdict p)).toList ++ vs) (c.step p e) := by
  cases here : c.work with
  | none =>
    cases e with
    | tick => simpa only [Course.step, here] using hd.tick enabled pos here
    | process =>
      simp only [Course.step, ends?, here]
      exact hd.process here
    | elsewhere change => exact hd.of_same rfl rfl rfl Iff.rfl
    | _ =>
      simp only [Course.step, ends?, here]
      exact hd
  | some work =>
    obtain ⟨ticking, b⟩ := work
    cases e with
    | move m =>
      simp only [Course.step, ends?, here]
      exact hd.of_same rfl rfl rfl (by simp [Course.move, here])
    | conclude =>
      by_cases done : b.isDone = true
      · simpa only [Course.step, here, done, if_true] using hd.conclude enabled pos here done
      · cases ticking <;>
          simp only [Course.step, ends?, here, done, Bool.false_eq_true, if_false] <;> exact hd
    | elsewhere change => exact hd.of_same rfl rfl rfl Iff.rfl
    | _ =>
      simp only [Course.step, ends?, here]
      exact hd

/-- Every run keeps a course heedful. -/
lemma run (hd : Heeds s reset vs c) (es : List (Event ω)) :
    Heeds s reset (verdicts p c es ++ vs) (c.run p es) := by
  induction es generalizing c vs with
  | nil => exact hd
  | cons e es ih =>
    -- The verdicts of later events stand in front.
    rw [verdicts, List.append_assoc]
    exact ih (hd.step enabled pos e)

end Heeds

/-- A publisher that was just built heeds that there was no batch. -/
lemma heeds_of_build {s : Settings} {q : Publisher} (built : build s = .ok q) (w : ω) :
    ∃ reset, s.breakerReset? = some reset ∧
      Heeds s reset [] { publisher := q, world := w } := by
  obtain ⟨_, reset, _, valid, -, span, -, rfl⟩ := build_inv built
  exact ⟨reset, span, rfl, rfl, nofun,
    fun _ => Breaker.follows_initial (Settings.breakerThreshold_of_validate valid)⟩

/-- The verdicts of a later stretch stand in front of those of an earlier one. -/
lemma verdicts_append (p : Surroundings ω) (c : Course ω) (es es' : List (Event ω)) :
    verdicts p c (es ++ es') = verdicts p (c.run p es) es' ++ verdicts p c es := by
  induction es generalizing c with
  | nil => exact (List.append_nil _).symm
  | cons e es ih =>
    rw [List.cons_append, verdicts, ih, verdicts, List.append_assoc]
    rfl

/-- Whether the next call could be a tick that is skipped. -/
def Skips (p : Surroundings ω) (c : Course ω) : Prop :=
  c.work = none ∧ (c.publisher.tick p c.world).1 = .skipped

/-- The course after a tick that did nothing but count that it was skipped. -/
def skipped (p : Surroundings ω) (c : Course ω) : Course ω :=
  { c with
    publisher.stats.skips := c.publisher.stats.skips + 1
    world := (p.clock c.world).2 }

/-- A heedful course skips its next tick if it is cooling. Then it does nothing else. -/
lemma Heeds.skips_iff {s : Settings} {reset : Time.Span} {vs : List Verdict} {c : Course ω}
    (hd : Heeds s reset vs c) (enabled : s.breakerEnabled = true)
    (pos : 0 < s.breakerThreshold.toNat) (idle : c.work = none) :
    (c.Skips p ↔ Cooling s.breakerThreshold.toNat reset vs (p.clock c.world).1) ∧
      (c.Skips p → c.step p .tick = c.skipped p ∧
        (c.publisher.tick p c.world).2 = ((c.skipped p).publisher, (c.skipped p).world)) := by
  unfold Skips
  rw [tick_eq_skipped_iff, Course.step.eq_def, Course.tick, beginTick, Publisher.tick]
  simp only [idle, true_and]
  generalize sk : c.publisher.skips p c.world = asked
  obtain ⟨opened, q, w⟩ := asked
  obtain ⟨cooling, skipped, -⟩ := hd.skips enabled pos idle sk
  refine ⟨cooling, fun here => ?_⟩
  cases here
  obtain ⟨rfl, rfl⟩ := skipped rfl
  obtain ⟨_, _, _, _⟩ := c
  cases idle
  exact ⟨rfl, rfl⟩

/-- The batch of a tick that is done is judged by what its workers came to, and at once. -/
lemma ends?_conclude {c : Course ω} {b} (work : c.work = some (true, b)) (done : b.isDone = true) :
    ∃ t, c.ends? p .conclude = some (t, c.world) ∧
      ((∃ f, t = .failed f) ↔ ∃ r ∈ b.results, ∀ o, r ≠ .ok o) := by
  have ends : c.ends? p .conclude =
      some ((c.publisher.conclude p b.results.report b.results.failure? c.world).1, c.world) := by
    simp only [ends?, work, done, if_true]
  refine ⟨_, ends, ?_⟩
  rw [conclude_fst]
  cases failure : b.results.failure? with
  | none =>
    have good := Results.failure?_eq_none_iff.1 failure
    refine iff_of_false ?_ ?_
    · simp only
      split <;> nofun
    · rintro ⟨r, mem, bad⟩
      obtain ⟨o, ok⟩ := good r mem
      exact bad o ok
  | some f =>
    refine iff_of_true ⟨f, rfl⟩ (Classical.byContradiction fun none => ?_)
    have good := Results.failure?_eq_none_iff.2 fun r mem => Classical.byContradiction fun bad =>
      none ⟨r, mem, fun o ok => bad ⟨o, ok⟩⟩
    exact absurd (failure.symm.trans good) nofun

/-- Of a publisher with a breaker, whatever the store, the broker and the clock do and in whatever
order ticks, batches, the steps of their workers and what happens elsewhere follow each other: a
tick is skipped if and only if since the last reset the last ticks that were not skipped failed, as
many as the threshold, and no more than the timeout has passed since the last of them. Such a tick
only counts that it was skipped. It never comes before so many failures in a row, nor before as many
again once a skipped tick was followed by one that was not. A batch that was worked off fails once,
however many of its workers fail; and a worker fails by a crash or by what the store does not write,
never by what the broker refuses. -/
theorem skips_iff_cooling {s : Settings} {q : Publisher} (built : build s = .ok q)
    (enabled : s.breakerEnabled = true) (p : Surroundings ω) (w : ω) :
    ∃ reset, s.breakerReset? = some reset ∧ ∀ es : List (Event ω),
      let c := run p { publisher := q, world := w } es
      let vs := verdicts p { publisher := q, world := w } es
      (c.work = none →
        (c.Skips p ↔ Cooling s.breakerThreshold.toNat reset vs (p.clock c.world).1)) ∧
      (c.Skips p →
        c.step p .tick = c.skipped p ∧
        (c.publisher.tick p c.world).2 = ((c.skipped p).publisher, (c.skipped p).world) ∧
        Strained s.breakerThreshold.toNat vs ∧
        ∀ es₁ es₂, es = es₁ ++ es₂ →
          let c₁ := run p { publisher := q, world := w } es₁
          c₁.Skips p → verdicts p c₁ es₂ ≠ [] →
            Strained s.breakerThreshold.toNat (verdicts p c₁ es₂)) ∧
      (∀ b, c.work = some (true, b) → b.isDone = true →
        ∃ t, c.ends? p .conclude = some (t, c.world) ∧
          ((∃ f, t = .failed f) ↔ ∃ r ∈ b.results, ∀ o, r ≠ .ok o)) ∧
      (∀ (k k' : Worker) win' w' r, k.isFinished = false →
        k.step p c.publisher.retryDelay c.publisher.window c.world = (k', win', w') →
        k'.stage = .finished r → (∀ o, r ≠ .ok o) →
          (∃ m s, k.stage = .publishing m s ∧ (p.publish m s c.world).1 = .crash) ∨
            ∃ fate published, k.stage = .writing fate published ∧
              (p.write c.publisher.retryDelay k.record.id fate c.world).1 ≠ .ok ()) := by
  obtain ⟨reset, span, fresh⟩ := heeds_of_build built w
  obtain ⟨_, _, _, valid, -⟩ := build_inv built
  have pos := Settings.breakerThreshold_of_validate valid
  have heeds (es : List (Event ω)) :=
    List.append_nil (verdicts p { publisher := q, world := w } es) ▸
      fresh.run (p := p) enabled pos es
  refine ⟨reset, span, fun es => ⟨?_, ?_, fun b work done => ends?_conclude work done, ?_⟩⟩
  · intro idle
    exact ((heeds es).skips_iff enabled pos idle).1
  · intro skips
    obtain ⟨cooling, only⟩ := (heeds es).skips_iff (p := p) enabled pos skips.1
    obtain ⟨strained, -⟩ := cooling.1 skips
    refine ⟨(only skips).1, (only skips).2, strained.of_prefix (Breaker.sinceReset_prefix _ _), ?_⟩
    -- A batch ran after the earlier skip, so the breaker was reset in between.
    rintro es₁ es₂ rfl c₁ skips₁ some
    obtain ⟨cooling₁, -⟩ := (heeds es₁).skips_iff (p := p) enabled pos skips₁.1
    obtain ⟨strained₁, -⟩ := cooling₁.1 skips₁
    rw [verdicts_append] at strained
    exact strained.of_prefix (Breaker.sinceReset_append strained₁ some)
  · intro k k' win' w' r unfinished st fin bad
    obtain ⟨-, st⟩ := Worker.step_inv st
    rw [fin] at st
    refine st.failed (fun x same => ?_) bad
    rw [Worker.isFinished, same] at unfinished
    cases unfinished

/-- A world that counts the seconds of a day, with a store that cannot be reached. -/
def away : Surroundings Nat where
  clock n :=
    ({ Time.Instant.epoch with
        second := n % 86400
        second_lt := Nat.mod_lt _ (by decide) }, n)
  resolve _ := none
  fetch _ _ n := (.error (.storage "away"), n)
  markProcessed _ n := (.error (.storage "away"), n)
  markFailed _ _ n := (.error (.storage "away"), n)
  countRetry _ _ _ n := (.error (.storage "away"), n)
  publish _ _ n := (.ok (), n)

/-- Two ticks at once and some seconds after that. -/
def twice (seconds : Nat) : List (Event Nat) :=
  [.tick, .tick, .elsewhere (· + seconds)]

/-- With a threshold of two and a timeout of ten seconds, a tick is skipped for ten seconds after
two fetches failed, and not in the next one. -/
theorem skips_iff_cooling_away :
    ∃ q, build { breakerThreshold := 2, breakerResetSeconds := 10 } = .ok q ∧
      ¬ (run away { publisher := q, world := 0 } (twice 11)).Skips away ∧
      let c := run away { publisher := q, world := 0 } (twice 10)
      c.work = none ∧ c.Skips away ∧
      ∃ reset, Settings.breakerReset? { breakerThreshold := 2, breakerResetSeconds := 10 } =
          some reset ∧
        Cooling 2 reset (verdicts away { publisher := q, world := 0 } (twice 10))
          (away.clock c.world).1 := by
  obtain ⟨reset, span, all⟩ :=
    skips_iff_cooling (s := { breakerThreshold := 2, breakerResetSeconds := 10 }) rfl rfl away 0
  refine ⟨_, rfl, ?_, rfl, ?skips, reset, span, ((all (twice 10)).1 rfl).1 ?skips⟩
  · rintro ⟨-, skipped⟩
    revert skipped
    decide
  · exact ⟨rfl, by decide⟩

end Course

end Outbox.Publisher
