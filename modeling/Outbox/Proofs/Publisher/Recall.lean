import Outbox.Proofs.Publisher.Idempotency
import Outbox.Proofs.Publisher.Streak

/-!
# What a publisher still knows after its breaker was open

While the breaker is open, the window of the publisher runs out. Ticks are skipped for no more than
the timeout since the last failure (`Waits.total_le`), so the first tick that is not skipped begins
at most one pause later than that. `recalled_after_pauses` says how much longer than both the window
must be for the publisher to know in that tick what the broker took before; a window as long as the
timeout is too short (`taken_twice_after_pauses`).
-/

namespace Outbox.Publisher

variable {ω : Type} {p : Surroundings ω} {time : ω → Time.Instant}

/-- A tick that is skipped changes no more than the number of those. The breaker noted a failure not
longer ago than its timeout. -/
lemma skips_true {q q' : Publisher} {w w' : ω} (sk : q.skips p w = (true, q', w')) :
    q' = { q with stats.skips := q.stats.skips + 1 } ∧ w' = (p.clock w).2 ∧
      ∃ at_, q.breaker.lastFailure = some at_ ∧ (p.clock w).1.elapsed at_ ≤ q.breakerReset := by
  cases enabled : q.settings.breakerEnabled with
  | false =>
    simp only [skips, enabled, Bool.false_eq_true, if_false] at sk
    cases sk
  | true =>
    obtain ⟨breaker, asked, rfl, rfl⟩ := skips_inv enabled sk
    obtain ⟨rfl, last⟩ := Breaker.ask_true asked
    exact ⟨rfl, rfl, last⟩

/-- A worker that looks up a record finds it if the broker took it not longer ago than the window
lasts. -/
lemma Guarded.known {win : Window} {waiting active taken} {w : ω} {k : Worker} {e}
    (tm : p.Timely time) (gd : Guarded win waiting active (time w).total taken) (here : k ∈ active)
    (looking : k.stage = .looking) (mem : e ∈ taken) (same : e.1 = k.record.id)
    (short : (p.clock w).1.total - e.2 < win.length.nanoseconds) (delay : Time.Span) :
    (k.step p delay (some win) w).1 = { k with stage := .writing .processed false } := by
  generalize st : k.step p delay (some win) w = next
  obtain ⟨k', win', w'⟩ := next
  obtain ⟨same', st⟩ := Worker.step_inv st
  obtain ⟨r, stage⟩ := k
  obtain ⟨_, stage'⟩ := k'
  cases same'
  cases looking
  generalize window : some win = win₁ at st
  cases st with
  | skipped => cases window
  | known => rfl
  | @unknown now _ _ _ _ clock look =>
    -- Then the record would be out of the window, but so long ago it was not taken.
    cases window
    obtain ⟨leap, since, -⟩ := tm.of_clock clock
    obtain ⟨-, stale, -⟩ := Window.lookUp_false look
    have lapsed : win.length.nanoseconds ≤ now.total - e.2 :=
      (gd.later since).expired here nofun
        (fun x found leap' => expired_of_stale (stale x found) leap leap') e mem same
    rw [clock] at short
    change now.total - e.2 < _ at short
    omega

namespace Course

/-- The last failure that the breaker noted is past, and its timeout is as it was. -/
structure Noted (time : ω → Time.Instant) (reset : Time.Span) (q : Publisher) (w : ω) : Prop where
  reset : q.breakerReset = reset
  past : ∀ at_, q.breaker.lastFailure = some at_ → at_.isLeap = false ∧ at_.total ≤ (time w).total

namespace Noted

variable {reset : Time.Span} {q q' : Publisher} {w w' : ω}

/-- What was noted stays in the past as time goes on. -/
lemma later (nt : Noted time reset q w) (same : q'.breakerReset = q.breakerReset)
    (last : q'.breaker.lastFailure = q.breaker.lastFailure)
    (le : (time w).total ≤ (time w').total) : Noted time reset q' w' := by
  refine ⟨same.trans nt.reset, fun at_ here => ?_⟩
  obtain ⟨leap, past⟩ := nt.past at_ (last ▸ here)
  exact ⟨leap, Int.le_trans past le⟩

variable (tm : p.Timely time)
include tm

/-- Asking the breaker leaves the last failure in the past. -/
lemma skips (nt : Noted time reset q w) {opened} (sk : q.skips p w = (opened, q', w')) :
    Noted time reset q' w' := by
  have le := tm.keeps.of_skips q w
  rw [sk] at le
  cases enabled : q.settings.breakerEnabled with
  | false =>
    simp only [Publisher.skips, enabled, Bool.false_eq_true, if_false] at sk
    cases sk
    exact nt
  | true =>
    obtain ⟨breaker, asked, -, rfl⟩ := skips_inv enabled sk
    refine ⟨nt.reset, fun at_ last => ?_⟩
    obtain ⟨leap, past⟩ := nt.past at_ (Breaker.lastFailure_ask asked last)
    exact ⟨leap, Int.le_trans past le⟩

/-- A purge and a fetch leave the last failure in the past. -/
lemma fetch (nt : Noted time reset q w) {fetched w''} (pg : q.purge p w = (q', w'))
    (ft : q'.fetch p w' = (fetched, w'')) : Noted time reset q' w'' := by
  obtain ⟨breaker, -, same⟩ := breaker_purge pg
  exact nt.later same (breaker ▸ rfl) (tm.keeps.of_fetch pg ft)

/-- A failure that is noted at the end of a batch has happened by then. -/
lemma conclude (nt : Noted time reset q w) {report failure t}
    (cn : q.conclude p report failure w = (t, q', w')) : Noted time reset q' w' := by
  unfold Publisher.conclude at cn
  cases failure with
  | none =>
    cases cn
    exact nt.later rfl rfl (Int.le_refl _)
  | some f =>
    simp only [recordFailure] at cn
    split at cn
    · cases cn
      refine ⟨nt.reset, ?_⟩
      rintro _ ⟨⟩
      obtain ⟨leap, -, until_⟩ := tm.of_clock (w := (p.clock w).2) rfl
      exact ⟨leap, until_⟩
    · cases cn
      refine ⟨nt.reset, ?_⟩
      rintro _ ⟨⟩
      obtain ⟨leap, -, until_⟩ := tm.of_clock (w := w) rfl
      exact ⟨leap, until_⟩

/-- Every event leaves the last failure in the past. -/
lemma step {c : Course ω} {e} (nt : Noted time reset c.publisher c.world)
    (forward : e.Forward time) :
    Noted time reset (c.step p e).publisher (c.step p e).world := by
  -- Only the end of a batch notes a failure; all other parts let time go on.
  unfold Course.step
  split
  · unfold Course.tick beginTick
    generalize sk : c.publisher.skips p c.world = asked
    obtain ⟨_ | _, q, w⟩ := asked
    · simp only
      generalize pg : q.purge p w = purged
      obtain ⟨q', w'⟩ := purged
      simp only
      generalize ft : q'.fetch p w' = fetched
      obtain ⟨e | records, w''⟩ := fetched
      · exact ((nt.skips tm sk).fetch tm pg ft).conclude tm
          (show q'.conclude p {} (some (.store e)) w'' = (_, _, _) from rfl)
      · exact (nt.skips tm sk).fetch tm pg ft
    · exact nt.skips tm sk
  · unfold Course.process
    generalize pg : c.publisher.purge p c.world = purged
    obtain ⟨q, w⟩ := purged
    simp only
    generalize ft : q.fetch p w = fetched
    obtain ⟨_ | _, w'⟩ := fetched <;> exact nt.fetch tm pg ft
  · exact nt.later rfl rfl (tm.keeps.of_move ..)
  · next b _ =>
    split
    · unfold Course.conclude
      split
      · exact nt.conclude tm (t := (c.publisher.conclude p b.results.report b.results.failure?
          c.world).1) rfl
      · exact nt
    · exact nt
  · exact nt.later rfl rfl (tm.total_le (forward _))
  · exact nt

/-- Every run leaves the last failure in the past. -/
lemma run {c : Course ω} {es} (nt : Noted time reset c.publisher c.world)
    (forward : ∀ e ∈ es, e.Forward time) :
    Noted time reset (c.run p es).publisher (c.run p es).world := by
  induction es generalizing c with
  | nil => exact nt
  | cons e es ih =>
    obtain ⟨here, behind⟩ := List.forall_mem_cons.1 forward
    exact ih (nt.step tm here) behind

end Noted

/-- A tick is skipped only while no more than the timeout has passed since the last failure. -/
lemma Skips.warm {c : Course ω} (sk : c.Skips p) :
    c.step p .tick = c.skipped p ∧ ∃ at_, c.publisher.breaker.lastFailure = some at_ ∧
      (p.clock c.world).1.elapsed at_ ≤ c.publisher.breakerReset := by
  obtain ⟨idle, skipped⟩ := sk
  have opened := tick_eq_skipped_iff.1 skipped
  generalize asked : c.publisher.skips p c.world = next at opened
  obtain ⟨_, q, w⟩ := next
  cases opened
  obtain ⟨rfl, rfl, last⟩ := skips_true asked
  refine ⟨?_, last⟩
  simp only [Course.step, idle, Course.tick, beginTick, asked]
  obtain ⟨_, _, _, _⟩ := c
  cases idle
  rfl

/-- Some events bring nothing but ticks that are skipped and what happens elsewhere. No tick begins
more than a pause after the one before, and they end no later than that; the tick before the first
one counts from some instant on. -/
def Waits (p : Surroundings ω) (time : ω → Time.Instant) (pause : Time.Span) :
    Time.Instant → Course ω → List (Event ω) → Prop
  | since, c, [] => (time c.world).elapsed since ≤ pause
  | since, c, .tick :: es =>
    (time c.world).elapsed since ≤ pause ∧ c.Skips p ∧
      Waits p time pause (time c.world) (c.step p .tick) es
  | since, c, .elsewhere change :: es => Waits p time pause since (c.step p (.elsewhere change)) es
  | _, _, _ => False

instance (c : Course ω) : Decidable (c.Skips p) :=
  inferInstanceAs (Decidable (_ = none ∧ _ = _))

instance Waits.decidable {pause : Time.Span} : (since : Time.Instant) → (c : Course ω) →
    (es : List (Event ω)) → Decidable (Waits p time pause since c es)
  | _, _, [] => inferInstanceAs (Decidable (_ ≤ _))
  | _, c, .tick :: es =>
    have : Decidable (Waits p time pause (time c.world) (c.step p .tick) es) := decidable ..
    inferInstanceAs (Decidable (_ ≤ _ ∧ c.Skips p ∧ _))
  | since, c, .elsewhere change :: es => decidable since (c.step p (.elsewhere change)) es
  | _, _, .process :: _ | _, _, .move _ :: _ | _, _, .conclude :: _ =>
    inferInstanceAs (Decidable False)

/-- The ticks after a failure are skipped for no longer than the timeout, and the next one begins at
most one pause later. -/
lemma Waits.total_le {pause : Time.Span} {since : Time.Instant} {c : Course ω} {es} {limit : Int}
    (wt : Waits p time pause since c es) (tm : p.Timely time)
    (past : ∀ at_, c.publisher.breaker.lastFailure = some at_ →
      at_.isLeap = false ∧ at_.total ≤ limit)
    (leap : since.isLeap = false)
    (le : since.total ≤ limit + c.publisher.breakerReset.nanoseconds) :
    (time (c.run p es).world).total ≤
      limit + c.publisher.breakerReset.nanoseconds + pause.nanoseconds := by
  induction es generalizing since c with
  | nil =>
    have wait : (time c.world).elapsed since ≤ pause := wt
    rw [Time.Span.le_iff, Time.Instant.nanoseconds_elapsed (tm.noLeap _) leap] at wait
    show (time c.world).total ≤ _
    omega
  | cons e es ih =>
    cases e with
    | tick =>
      -- the breaker was still open, so the clock had not come past the timeout
      obtain ⟨-, sk, wt⟩ := wt
      obtain ⟨step, at_, last, warm⟩ := sk.warm
      obtain ⟨leap', past'⟩ := past at_ last
      obtain ⟨leap'', since', -⟩ := tm.of_clock (w := c.world) rfl
      rw [Time.Span.le_iff, Time.Instant.nanoseconds_elapsed leap'' leap'] at warm
      have le' : (time c.world).total ≤ limit + c.publisher.breakerReset.nanoseconds := by omega
      rw [step] at wt
      show (time ((c.step p .tick).run p es).world).total ≤ _
      rw [step]
      exact ih wt past (tm.noLeap _) le'
    | elsewhere change => exact ih wt past leap le
    | _ => exact absurd wt id

/-- What the broker took once stays taken. -/
lemma taken_prefix_run (c : Course ω) (es : List (Event ω)) : c.taken <+: (c.run p es).taken := by
  induction es generalizing c with
  | nil => exact List.prefix_rfl
  | cons e es ih =>
    refine List.IsPrefix.trans ?_ (ih (c.step p e))
    unfold Course.step
    split
    · unfold Course.tick
      split <;> exact List.prefix_rfl
    · unfold Course.process
      simp only
      split <;> exact List.prefix_rfl
    · exact List.prefix_append ..
    · split
      · unfold Course.conclude
        split <;> exact List.prefix_rfl
      · exact List.prefix_rfl
    · exact List.prefix_rfl
    · exact List.prefix_rfl

/-- Of a publisher with a window: once the broker took a record, ticks may be skipped, none of which
begins more than a pause after the one before. If the window lasts longer than the timeout of the
breaker, such a pause and the work on the record take together, then whoever looks up the record in
the first tick that is not skipped goes on to mark it processed and publishes nothing. What counts
as work is the time from the taking to the end of that tick, and from the beginning of the later
tick to the look-up. With pauses as long as the poll interval, a window of two hours leaves at least
55 minutes for that. -/
theorem recalled_after_pauses {s : Settings} {q : Publisher} (tm : p.Timely time)
    (distinct : Distinct p) (built : build s = .ok q) (enabled : s.windowEnabled = true) (w : ω) :
    ∃ length reset, s.window? = some length ∧ s.breakerReset? = some reset ∧
      (2 ≤ s.windowHours.toNat →
        reset.nanoseconds + (s.pollIntervalSeconds.toNat + 3300) * 1000000000 ≤
          length.nanoseconds) ∧
      ∀ (es pauses es' : List (Event ω)) (pause : Time.Span),
        (∀ e ∈ es ++ pauses ++ es', e.Forward time) →
        let c₁ := run p { publisher := q, world := w } es
        let c₂ := run p c₁ pauses
        let c₃ := run p c₂ es'
        Waits p time pause (time c₁.world) c₁ pauses →
        ∀ e ∈ c₁.taken, ∀ k ∈ c₃.batch.active, k.record.id = e.1 → k.stage = .looking →
          ((time c₁.world).elapsed (time e.2)).nanoseconds + reset.nanoseconds +
              pause.nanoseconds + ((p.clock c₃.world).1.elapsed (time c₂.world)).nanoseconds <
            length.nanoseconds →
          (k.step p c₃.publisher.retryDelay c₃.publisher.window c₃.world).1 =
            { k with stage := .writing .processed false } := by
  obtain ⟨length, len, fresh⟩ := guarded_of_build built enabled time w
  obtain ⟨_, reset, _, valid, -, span, -, new⟩ := build_inv built
  have noted : Noted time reset q w := by
    subst new
    exact ⟨rfl, fun _ last => by cases last⟩
  obtain ⟨seconds, most⟩ := Settings.breakerReset_of_validate valid span
  have hours := Settings.window_of_validate valid len
  have poll := Settings.pollInterval_of_validate valid
  refine ⟨length, reset, len, span, fun two => by omega, ?_⟩
  intro es pauses es' pause forward c₁ c₂ c₃ wt e mem k here same looking short
  obtain ⟨forward₂, forward₃⟩ := List.forall_mem_append.1 forward
  obtain ⟨forward₁, -⟩ := List.forall_mem_append.1 forward₂
  have nt : Noted time reset c₁.publisher c₁.world := noted.run tm forward₁
  -- The later tick begins at most the timeout and one pause after the end of the earlier one.
  have begins := wt.total_le tm nt.past (tm.noLeap _)
    (Int.le_add_of_nonneg_right (by rw [nt.reset]; omega))
  have all : run p { publisher := q, world := w } (es ++ pauses ++ es') = c₃ := by
    simp only [run, List.foldl_append, c₃, c₂, c₁]
  -- Whatever was taken is guarded in between, and so is it at the look-up.
  have gd := fresh.run tm distinct forward
  rw [all] at gd
  obtain ⟨win, window, rfl, gd⟩ := gd
  rw [window]
  have mem' : (e.1, (time e.2).total) ∈ c₃.taken.map fun e => (e.1, (time e.2).total) :=
    List.mem_map_of_mem (((taken_prefix_run c₁ pauses).trans (taken_prefix_run c₂ es')).subset mem)
  refine gd.known tm here looking mem' same.symm ?_ _
  rw [Time.Instant.nanoseconds_elapsed (tm.noLeap _) (tm.noLeap _),
    Time.Instant.nanoseconds_elapsed (tm.reading _) (tm.noLeap _)] at short
  rw [nt.reset] at begins
  show _ - (time e.2).total < _
  change (time c₂.world).total ≤ _ at begins
  omega

/-- Settings with ticks five minutes apart, whose breaker opens at once and stays open for an
hour. -/
def slow (hours : UInt64) : Settings where
  pollIntervalSeconds := 300
  breakerThreshold := 1
  breakerResetSeconds := 3600
  windowHours := hours

/-- What a clock shows. -/
def Dial.shows (w : Dial) : Time.Instant :=
  w.1

/-- The events of a tick with one record. -/
def attempt : List (Event Dial) :=
  [.tick, .move .start] ++ List.replicate 4 (.move (.advance 0)) ++ [.conclude]

/-- The clock goes on to so many times five minutes after the start. -/
def onTo (n : Nat) : Event Dial :=
  .elsewhere (.reach (.at (300 * n % 86400) (Nat.mod_lt _ (by decide))))

/-- One tick after the other for an hour, and five minutes more. -/
def hour : List (Event Dial) :=
  (List.range' 1 12).flatMap (fun n => [onTo n, .tick]) ++ [onTo 13]

/-- The clock is never taken back. -/
lemma forward_hour {e} (mem : e ∈ attempt ++ hour ++ [.tick, .move .start]) :
    e.Forward Dial.shows := by
  cases e with
  | elsewhere change =>
    have reach : ∃ goal, change = .reach goal := by
      simp [attempt, hour, onTo] at mem
      obtain ⟨_, -, rfl⟩ | rfl := mem <;> exact ⟨_, rfl⟩
    obtain ⟨goal, rfl⟩ := reach
    intro w
    unfold Dial.reach
    split
    · assumption
    · exact Int.le_refl _
  | _ => trivial

/-- With a window of two hours the record is still known after the ticks of an hour were skipped. -/
theorem recalled_after_pauses_slow :
    ∃ q pause, build (slow 2) = .ok q ∧ Time.Span.ofSeconds? 300 = some pause ∧
      let c₁ := run stuck { publisher := q, world := .at 0 (by decide) } attempt
      let c₂ := run stuck c₁ hour
      let c₃ := run stuck c₂ [.tick, .move .start]
      Waits stuck Dial.shows pause (Dial.shows c₁.world) c₁ hour ∧
        ∃ k ∈ c₃.batch.active,
          (k.step stuck c₃.publisher.retryDelay c₃.publisher.window c₃.world).1 =
            { k with stage := .writing .processed false } := by
  have tm : stuck.Timely Dial.shows := timely_stuck
  have distinct : Distinct stuck := by
    rintro _ _ _ _ _ ⟨⟩
    exact List.nodup_singleton _
  obtain ⟨length, reset, len, span, -, all⟩ :=
    recalled_after_pauses tm distinct (s := slow 2) rfl rfl (.at 0 (by decide))
  cases len
  cases span
  refine ⟨_, _, rfl, rfl, ?waits, _, List.mem_of_getElem? (i := 0) rfl, ?_⟩
  · decide +kernel
  · exact all attempt hour [.tick, .move .start] _ (fun _ => forward_hour) ?waits _
      (List.mem_of_getElem? (i := 0) rfl) _ (List.mem_of_getElem? (i := 0) rfl) rfl rfl
      (by decide +kernel)

/-- With a window of one hour the record is taken again after the ticks of an hour were skipped. -/
theorem taken_twice_after_pauses :
    ∃ q pause, build (slow 1) = .ok q ∧ Time.Span.ofSeconds? 300 = some pause ∧
      let c₁ := run stuck { publisher := q, world := .at 0 (by decide) } attempt
      let c₂ := run stuck c₁ hour
      Waits stuck Dial.shows pause (Dial.shows c₁.world) c₁ hour ∧ ¬ c₂.Skips stuck ∧
        (run stuck c₂ attempt).taken.map (fun e => (e.1, e.2.1.second)) =
          [(⟨0⟩, 0), (⟨0⟩, 3900)] := by
  exact ⟨_, _, rfl, rfl, by decide +kernel, by decide +kernel, by decide +kernel⟩

end Course

end Outbox.Publisher
