import Outbox.Proofs.Publisher.Accounts
import Outbox.Proofs.Publisher.Recall

/-!
# Looks at the breaker

Whoever looks whether the breaker is open closes it once its timeout is over, and clears what it
counted. The publisher would have done the same before its next tick: a course that was looked at is
the same course, or the one has closed a breaker that the other will close before it matters
(`Glanced`). Every event and every look keeps that, so no tick, store, broker or count tells how
often somebody looked (`glances_unnoticed`).
-/

namespace Outbox

namespace Breaker

variable {b : Breaker} {reset : Time.Span} {now now' : Time.Instant}

/-- Nothing is older at an earlier instant than at a later one, and so a timeout that is over stays
over. -/
lemma hasCooled_of_le (noLeap : ∀ at_, b.lastFailure = some at_ → at_.isLeap = false)
    (leap : now.isLeap = false) (leap' : now'.isLeap = false) (le : now.total ≤ now'.total)
    (cooled : b.hasCooled reset now = true) : b.hasCooled reset now' = true := by
  unfold hasCooled at cooled ⊢
  cases last : b.lastFailure with
  | none => rfl
  | some at_ =>
    have past := noLeap at_ last
    simp only [last, decide_eq_true_eq, Time.Span.lt_iff] at cooled ⊢
    rw [Time.Instant.nanoseconds_elapsed leap past] at cooled
    rw [Time.Instant.nanoseconds_elapsed leap' past]
    omega

/-- Asking a breaker leaves it as it is, or closes it because its timeout is over. -/
lemma ask_cases (b : Breaker) (reset : Time.Span) (now : Time.Instant) :
    b.ask reset now = (b.opened, b) ∨
      b.opened = true ∧ b.hasCooled reset now = true ∧ b.ask reset now = (false, initial) := by
  unfold Breaker.ask
  cases opened : b.opened with
  | false => exact .inl rfl
  | true =>
    cases cooled : b.hasCooled reset now with
    | false => exact .inl rfl
    | true => exact .inr ⟨rfl, rfl, rfl⟩

/-- An open breaker whose timeout is over is closed and cleared by whoever asks. -/
lemma ask_cooled (opened : b.opened = true) (cooled : b.hasCooled reset now = true) :
    b.ask reset now = (false, initial) := by
  simp only [Breaker.ask, opened, cooled, Bool.not_true, Bool.false_eq_true, if_false, if_true]

/-- A breaker that lets a batch through is closed then. -/
lemma closed_ask {b' : Breaker} (asked : b.ask reset now = (false, b')) : b'.opened = false := by
  obtain same | ⟨-, -, same⟩ := b.ask_cases reset now <;> rw [same, Prod.mk.injEq] at asked
  · obtain ⟨closed, rfl⟩ := asked
    exact closed
  · obtain ⟨-, rfl⟩ := asked
    rfl

/-- Who asks twice at the same time gets the same answer. -/
lemma ask_ask (b : Breaker) (reset : Time.Span) (now : Time.Instant) :
    (b.ask reset now).2.ask reset now = b.ask reset now := by
  obtain same | ⟨-, -, same⟩ := b.ask_cases reset now
  · rw [same]
    exact same
  · rw [same]
    rfl

/-- What a breaker answers depends on no more than the number of nanoseconds. -/
lemma ask_congr (noLeap : ∀ at_, b.lastFailure = some at_ → at_.isLeap = false)
    (leap : now.isLeap = false) (leap' : now'.isLeap = false) (same : now.total = now'.total) :
    b.ask reset now = b.ask reset now' := by
  have cooled : b.hasCooled reset now = b.hasCooled reset now' := Bool.eq_iff_iff.2
    ⟨hasCooled_of_le noLeap leap leap' (Int.le_of_eq same),
      hasCooled_of_le noLeap leap' leap (Int.le_of_eq same.symm)⟩
  unfold Breaker.ask
  rw [cooled]

end Breaker

namespace Publisher

variable {ω : Type} {p : Surroundings ω} {time : ω → Time.Instant}

/-- Of a publisher without a breaker, the breaker is closed. -/
def Shut (q : Publisher) : Prop :=
  q.breaker.opened = true → q.settings.breakerEnabled = true

/-- A closed breaker may belong to any publisher. -/
lemma shut_of_closed {q : Publisher} (closed : q.breaker.opened = false) : q.Shut :=
  fun opened => absurd (closed.symm.trans opened) nofun

/-- A publisher that goes on with a tick has a closed breaker. -/
lemma Shut.closed_skips {q q' : Publisher} {w w' : ω} (shut : q.Shut)
    (sk : q.skips p w = (false, q', w')) : q'.breaker.opened = false := by
  cases enabled : q.settings.breakerEnabled with
  | false =>
    simp only [skips, enabled, Bool.false_eq_true, if_false] at sk
    cases sk
    exact Bool.eq_false_iff.2 fun opened =>
      Bool.false_ne_true (enabled.symm.trans (shut opened))
  | true =>
    obtain ⟨breaker, asked, -, rfl⟩ := skips_inv enabled sk
    exact Breaker.closed_ask asked

/-- A failure opens a closed breaker only of a publisher that has one. -/
lemma shut_conclude {q q' : Publisher} {report failure t} {w w' : ω}
    (closed : q.breaker.opened = false) (cn : q.conclude p report failure w = (t, q', w')) :
    q'.Shut := by
  unfold conclude recordFailure at cn
  cases failure with
  | none =>
    cases cn
    exact shut_of_closed closed
  | some f =>
    simp only at cn
    split at cn <;> cases cn
    · next many => exact fun _ => (Bool.and_eq_true_iff.1 many).1
    · exact shut_of_closed closed

namespace Course

/-- A breaker that is open belongs to a publisher that has one, and no tick is going on. What it
noted last is past. -/
structure Sober (time : ω → Time.Instant) (reset : Time.Span) (c : Course ω) : Prop where
  noted : Noted time reset c.publisher c.world
  shut : c.publisher.Shut
  closed : ∀ b, c.work = some (true, b) → c.publisher.breaker.opened = false

namespace Sober

variable {reset : Time.Span} {c : Course ω}

/-- A tick leaves no breaker open that the publisher does not have, and none at all if it goes on.
-/
lemma tick (sb : c.Sober time reset) (idle : c.work = none) :
    (c.tick p).publisher.Shut ∧
      ∀ b, (c.tick p).work = some (true, b) → (c.tick p).publisher.breaker.opened = false := by
  unfold Course.tick beginTick
  generalize sk : c.publisher.skips p c.world = asked
  obtain ⟨_ | _, q, w⟩ := asked
  · have closed := sb.shut.closed_skips sk
    simp only
    generalize pg : q.purge p w = purged
    obtain ⟨q', w'⟩ := purged
    obtain ⟨same, -⟩ := breaker_purge pg
    rw [← same] at closed
    simp only
    generalize q'.fetch p w' = fetched
    obtain ⟨e | records, w''⟩ := fetched
    · have shut := shut_conclude (p := p) closed
        (show q'.conclude p {} (some (.store e)) w'' = (_, _, _) from rfl)
      exact ⟨shut, fun b work => absurd (idle.symm.trans work) nofun⟩
    · exact ⟨shut_of_closed closed, fun _ _ => closed⟩
  · obtain ⟨rfl, -⟩ := skips_true sk
    exact ⟨sb.shut, fun b work => absurd (idle.symm.trans work) nofun⟩

/-- Every event keeps a course sober. -/
lemma step (sb : c.Sober time reset) (tm : p.Timely time) {e : Event ω}
    (forward : e.Forward time) : (c.step p e).Sober time reset := by
  -- That the last failure is past was shown for all events already.
  suffices (c.step p e).publisher.Shut ∧ ∀ b, (c.step p e).work = some (true, b) →
      (c.step p e).publisher.breaker.opened = false from
    ⟨sb.noted.step tm forward, this.1, this.2⟩
  unfold Course.step
  split
  · next idle => exact sb.tick idle
  · unfold Course.process
    generalize pg : c.publisher.purge p c.world = purged
    obtain ⟨q, w⟩ := purged
    obtain ⟨breaker, settings, -⟩ := breaker_purge pg
    have shut : q.Shut := by
      unfold Shut
      rw [breaker, settings]
      exact sb.shut
    next idle =>
    simp only
    split
    · exact ⟨shut, nofun⟩
    · exact ⟨shut, fun b work => absurd (idle.symm.trans work) nofun⟩
  · next ticking b work =>
    refine ⟨sb.shut, fun b' here => ?_⟩
    cases here
    exact sb.closed b work
  · next ticking b work =>
    split
    · unfold Course.conclude
      cases ticking with
      | true => exact ⟨shut_conclude (sb.closed b work) rfl, nofun⟩
      | false => exact ⟨sb.shut, nofun⟩
    · exact ⟨sb.shut, sb.closed⟩
  · exact ⟨sb.shut, sb.closed⟩
  · exact ⟨sb.shut, sb.closed⟩

end Sober

/-- The course with another breaker. -/
def withBreaker (b : Breaker) (c : Course ω) : Course ω :=
  { c with publisher.breaker := b }

/-- A batch without regard to the breaker leaves it as it is. -/
lemma process_withBreaker (p : Surroundings ω) (b : Breaker) (c : Course ω) :
    (c.withBreaker b).process p = (c.process p).withBreaker b := by
  obtain ⟨q, w, work, taken⟩ := c
  obtain ⟨settings, delay, reset, breaker, window, stats⟩ := q
  simp only [process, withBreaker, purge, fetch]
  cases window with
  | none =>
    simp only
    split <;> rfl
  | some win =>
    simp only
    split <;> rfl

/-- Whether an event begins or ends a tick. -/
def Ticks (c : Course ω) (e : Event ω) : Prop :=
  (e = .tick ∧ c.work = none) ∨ e = .conclude ∧ ∃ b, c.work = some (true, b)

variable {c : Course ω} {e : Event ω}

/-- Nothing else has to do with the breaker. -/
lemma step_withBreaker (p : Surroundings ω) (b : Breaker) (calm : ¬ c.Ticks e) :
    (c.withBreaker b).step p e = (c.step p e).withBreaker b := by
  obtain ⟨q, w, work, taken⟩ := c
  cases work with
  | none =>
    cases e with
    | tick => exact absurd (.inl ⟨rfl, rfl⟩) calm
    | process => exact process_withBreaker ..
    | _ => rfl
  | some x =>
    obtain ⟨ticking, batch⟩ := x
    cases e with
    | conclude =>
      cases ticking with
      | true => exact absurd (.inr ⟨rfl, batch, rfl⟩) calm
      | false =>
        simp only [Course.step, withBreaker]
        split <;> rfl
    | _ => rfl

/-- Only the begin and the end of a tick change the breaker. -/
lemma breaker_step (p : Surroundings ω) (calm : ¬ c.Ticks e) :
    (c.step p e).publisher.breaker = c.publisher.breaker :=
  congrArg (·.publisher.breaker) (step_withBreaker p c.publisher.breaker calm)

/-- Only the begin and the end of a tick bring one to its end. -/
lemma over?_eq_none (p : Surroundings ω) (calm : ¬ c.Ticks e) : c.over? p e = none := by
  unfold over?
  split
  · next idle => exact absurd (.inl ⟨rfl, idle⟩) calm
  · next b work => exact absurd (.inr ⟨rfl, b, work⟩) calm
  · rfl

/-- No event takes the world back in time. -/
lemma total_le_step (tm : p.Timely time) (c : Course ω) (forward : e.Forward time) :
    (time c.world).total ≤ (time (c.step p e).world).total := by
  cases e with
  | elsewhere change => exact tm.total_le (forward _)
  | _ => exact tm.keeps.of_event c nofun

/-- Somebody looks at the breaker when the clock shows what it shows now. -/
def look (time : ω → Time.Instant) (c : Course ω) : Bool × Course ω :=
  let (opened, breaker) := c.publisher.breaker.ask c.publisher.breakerReset (time c.world)
  (opened, c.withBreaker breaker)

/-- Who looks sees what the breaker answers. -/
lemma look_fst (c : Course ω) : (c.look time).1 =
    (c.publisher.breaker.ask c.publisher.breakerReset (time c.world)).1 :=
  rfl

/-- A look leaves what the answer of the breaker leaves. -/
lemma look_snd (c : Course ω) : (c.look time).2 =
    c.withBreaker (c.publisher.breaker.ask c.publisher.breakerReset (time c.world)).2 :=
  rfl

/-- If it takes no time to read the clock, then a look is what the publisher does before a tick. -/
lemma look_eq_askBreaker (still : p.clock c.world = (time c.world, c.world)) :
    c.publisher.askBreaker p c.world =
      ((c.look time).1, (c.look time).2.publisher, (c.look time).2.world) := by
  simp only [askBreaker, still]
  rfl

/-- What happens to a course that is watched. -/
inductive Sight (ω : Type)
  | look
  | event (e : Event ω)

namespace Sight

/-- The event that happens, if this is not a look. -/
def event? : Sight ω → Option (Event ω)
  | look => none
  | event e => some e

/-- Whether this is neither the begin of a tick nor the end of a call. -/
def IsCalm : Sight ω → Prop
  | look => True
  | event e => e ≠ .tick ∧ e ≠ .conclude

/-- Whatever happens elsewhere does not take the world back in time. -/
def Forward (time : ω → Time.Instant) : Sight ω → Prop
  | look => True
  | event e => e.Forward time

end Sight

/-- A watched course after something happened. -/
def see (p : Surroundings ω) (time : ω → Time.Instant) (c : Course ω) : Sight ω → Course ω
  | .look => (c.look time).2
  | .event e => c.step p e

/-- A watched course after some time. -/
def watch (p : Surroundings ω) (time : ω → Time.Instant) (c : Course ω) (ss : List (Sight ω)) :
    Course ω :=
  ss.foldl (see p time) c

/-- The ticks of a watched course that came to their ends. -/
def watchedTicks (p : Surroundings ω) (time : ω → Time.Instant) :
    Course ω → List (Sight ω) → List (Tick × Results)
  | _, [] => []
  | c, .look :: ss => watchedTicks p time (c.look time).2 ss
  | c, .event e :: ss => (c.over? p e).toList ++ watchedTicks p time (c.step p e) ss

/-- What a course can be once it was looked at: somebody may have closed a breaker whose timeout is
over. -/
inductive Glanced (time : ω → Time.Instant) (c : Course ω) : Course ω → Prop
  | same : Glanced time c c
  | closed :
    c.publisher.breaker.opened = true →
    c.publisher.breaker.hasCooled c.publisher.breakerReset (time c.world) = true →
    Glanced time c (c.withBreaker .initial)

/-- The publisher finds a breaker closed that somebody else closed, and would have closed it. -/
lemma skips_withBreaker {q : Publisher} {w : ω} (enabled : q.settings.breakerEnabled = true)
    (opened : q.breaker.opened = true)
    (cooled : q.breaker.hasCooled q.breakerReset (p.clock w).1 = true) :
    { q with breaker := .initial }.skips p w = q.skips p w := by
  simp only [skips, askBreaker, enabled, Breaker.ask_cooled opened cooled]
  rfl

namespace Glanced

variable {reset : Time.Span} {c' : Course ω}

/-- A look at a course that was looked at before leaves such a course again. -/
lemma look (gl : Glanced time c c') : Glanced time c (c'.look time).2 := by
  cases gl with
  | same =>
    rw [look_snd]
    obtain same | ⟨opened, cooled, same⟩ :=
      c.publisher.breaker.ask_cases c.publisher.breakerReset (time c.world) <;> rw [same]
    · exact .same
    · exact .closed opened cooled
  | closed opened cooled => exact .closed opened cooled

/-- The next tick finds the breaker closed in both courses. -/
lemma tick (gl : Glanced time c c') (sb : c.Sober time reset) (tm : p.Timely time)
    (idle : c.work = none) :
    c'.step p .tick = c.step p .tick ∧ c'.over? p .tick = c.over? p .tick := by
  cases gl with
  | same => exact ⟨rfl, rfl⟩
  | closed opened cooled =>
    obtain ⟨leap, since, -⟩ := tm.of_clock (w := c.world) rfl
    have later := Breaker.hasCooled_of_le (fun at_ last => (sb.noted.past at_ last).1)
      (tm.noLeap _) leap since cooled
    have same := skips_withBreaker (p := p) (sb.shut opened) opened later
    obtain ⟨q, w, work, taken⟩ := c
    cases idle
    constructor
    · simp only [Course.step, withBreaker, Course.tick, beginTick, same]
    · simp only [over?, withBreaker, ends?, same]

/-- Every event keeps a course that was looked at close to one that was not. -/
lemma step (gl : Glanced time c c') (sb : c.Sober time reset) (tm : p.Timely time)
    (forward : e.Forward time) :
    Glanced time (c.step p e) (c'.step p e) ∧ c'.over? p e = c.over? p e := by
  cases gl with
  | same => exact ⟨.same, rfl⟩
  | closed opened cooled =>
    by_cases ticks : c.Ticks e
    · obtain ⟨rfl, idle⟩ | ⟨-, b, work⟩ := ticks
      · obtain ⟨same, ended⟩ := (Glanced.closed opened cooled).tick sb tm idle
        exact ⟨same ▸ .same, ended⟩
      · exact absurd (opened.symm.trans (sb.closed b work)) nofun
    · have kept := breaker_step p ticks
      have sb' := sb.step tm forward
      rw [step_withBreaker p _ ticks, over?_eq_none p ticks]
      refine ⟨.closed (kept ▸ opened) ?_, over?_eq_none p ticks⟩
      rw [kept, sb'.noted.reset]
      rw [sb.noted.reset] at cooled
      exact Breaker.hasCooled_of_le (fun at_ last => (sb.noted.past at_ last).1) (tm.noLeap _)
        (tm.noLeap _) (total_le_step tm c forward) cooled

/-- Looks and events keep a course that was looked at close to one that was not, and their ticks
come to the same. -/
lemma run {ss} (gl : Glanced time c c') (sb : c.Sober time reset) (tm : p.Timely time)
    (forward : ∀ s ∈ ss, s.Forward time) :
    Glanced time (c.run p (ss.filterMap Sight.event?)) (c'.watch p time ss) ∧
      (c.run p (ss.filterMap Sight.event?)).Sober time reset ∧
      c'.watchedTicks p time ss = c.ticks p (ss.filterMap Sight.event?) := by
  induction ss generalizing c c' with
  | nil => exact ⟨gl, sb, rfl⟩
  | cons s ss ih =>
    obtain ⟨here, behind⟩ := List.forall_mem_cons.1 forward
    cases s with
    | look => exact ih gl.look sb behind
    | event e =>
      obtain ⟨next, ended⟩ := gl.step sb tm here
      obtain ⟨gl', sb', ticks⟩ := ih next (sb.step tm here) behind
      refine ⟨gl', sb', ?_⟩
      rw [watchedTicks, ended, ticks]
      rfl

/-- Looks change nothing but the breaker. -/
lemma eq_withBreaker (gl : Glanced time c c') : c' = c.withBreaker c'.publisher.breaker := by
  cases gl <;> rfl

/-- What a course noted in the past lies in the past for whoever looks, too. -/
lemma noted (gl : Glanced time c c') (nt : Noted time reset c.publisher c.world) :
    Noted time reset c'.publisher c'.world := by
  cases gl with
  | same => exact nt
  | closed => exact ⟨nt.reset, fun _ last => by cases last⟩

end Glanced

/-- A watched course does not go back in time. -/
lemma total_le_see (tm : p.Timely time) (c : Course ω) {s : Sight ω} (forward : s.Forward time) :
    (time c.world).total ≤ (time (c.see p time s).world).total := by
  cases s with
  | look => exact Int.le_refl _
  | event e => exact total_le_step tm c forward

/-- A watched course does not go back in time in the long run either. -/
lemma total_le_watch (tm : p.Timely time) (c : Course ω) {ss : List (Sight ω)}
    (forward : ∀ s ∈ ss, s.Forward time) :
    (time c.world).total ≤ (time (c.watch p time ss).world).total := by
  induction ss generalizing c with
  | nil => exact Int.le_refl _
  | cons s ss ih =>
    obtain ⟨here, behind⟩ := List.forall_mem_cons.1 forward
    exact Int.le_trans (total_le_see tm c here) (ih _ behind)

namespace Noted

variable {reset : Time.Span} {s : Sight ω}

/-- A look leaves the last failure in the past. -/
lemma of_look (nt : Noted time reset c.publisher c.world) :
    Noted time reset (c.look time).2.publisher (c.look time).2.world := by
  refine ⟨nt.reset, fun at_ last => ?_⟩
  rw [look_snd] at last
  generalize asked : c.publisher.breaker.ask c.publisher.breakerReset (time c.world) = next at last
  exact nt.past at_ (Breaker.lastFailure_ask asked last)

/-- Whatever happens to a watched course leaves the last failure in the past. -/
lemma of_see (nt : Noted time reset c.publisher c.world) (tm : p.Timely time)
    (forward : s.Forward time) :
    Noted time reset (c.see p time s).publisher (c.see p time s).world := by
  cases s with
  | look => exact nt.of_look
  | event e => exact nt.step tm forward

/-- Who looks sees the same as before if no tick began or ended and no time has passed. -/
lemma look_see (nt : Noted time reset c.publisher c.world) (tm : p.Timely time)
    (forward : s.Forward time) (calm : s.IsCalm)
    (still : (time (c.see p time s).world).total = (time c.world).total) :
    ((c.see p time s).look time).1 = (c.look time).1 := by
  cases s with
  | look =>
    rw [see, look_fst, look_fst, look_snd]
    exact congrArg Prod.fst (Breaker.ask_ask ..)
  | event e =>
    have ticks : ¬ c.Ticks e := by
      rintro (⟨tick, -⟩ | ⟨conclude, -⟩)
      · exact calm.1 tick
      · exact calm.2 conclude
    have later : (c.step p e).publisher.breakerReset = reset := (nt.step tm forward).reset
    rw [see] at still ⊢
    rw [look_fst, look_fst, breaker_step p ticks, later, nt.reset,
      Breaker.ask_congr (fun at_ last => (nt.past at_ last).1) (tm.noLeap _) (tm.noLeap _) still]

/-- Nor does it matter how often somebody looks in between. -/
lemma look_watch {ss} (nt : Noted time reset c.publisher c.world) (tm : p.Timely time)
    (forward : ∀ s ∈ ss, s.Forward time) (calm : ∀ s ∈ ss, s.IsCalm)
    (still : (time (c.watch p time ss).world).total = (time c.world).total) :
    ((c.watch p time ss).look time).1 = (c.look time).1 := by
  induction ss generalizing c with
  | nil => rfl
  | cons s ss ih =>
    obtain ⟨here, behind⟩ := List.forall_mem_cons.1 forward
    obtain ⟨calm, calm'⟩ := List.forall_mem_cons.1 calm
    have first := total_le_see tm c here
    have rest := total_le_watch tm (c.see p time s) behind
    change (time ((c.see p time s).watch p time ss).world).total = _ at still
    exact (ih (nt.of_see tm here) behind calm' (by omega)).trans
      (nt.look_see tm here calm (by omega))

end Noted

/-- A publisher that was just built is sober. -/
lemma sober_of_build {s : Settings} {q : Publisher} (built : build s = .ok q)
    (time : ω → Time.Instant) (w : ω) :
    Sober time q.breakerReset { publisher := q, world := w } := by
  obtain ⟨_, reset, _, -, -, -, -, rfl⟩ := build_inv built
  exact ⟨⟨rfl, fun _ last => by cases last⟩, shut_of_closed rfl, nofun⟩

/-- On a clock that never moves back, whoever looks at the breaker, and how often: the ticks come to
the same as if nobody did, and so does the course but for the breaker, with the store, the broker
and the stats. Who looks again before a tick begins or ends and before any time has passed sees the
same as before. -/
theorem glances_unnoticed {s : Settings} {q : Publisher} (tm : p.Timely time)
    (built : build s = .ok q) (w : ω) {ss : List (Sight ω)} (forward : ∀ s ∈ ss, s.Forward time) :
    let start : Course ω := { publisher := q, world := w }
    let es := ss.filterMap Sight.event?
    let c := start.watch p time ss
    start.watchedTicks p time ss = start.ticks p es ∧
      c = (start.run p es).withBreaker c.publisher.breaker ∧
      ∀ calm : List (Sight ω), (∀ s ∈ calm, s.Forward time) → (∀ s ∈ calm, s.IsCalm) →
        let c' := (c.look time).2.watch p time calm
        time c'.world = time c.world → (c'.look time).1 = (c.look time).1 := by
  intro start es c
  have sober := sober_of_build built time w
  obtain ⟨gl, sb, ticks⟩ := Glanced.same.run sober tm forward
  refine ⟨ticks, gl.eq_withBreaker, ?_⟩
  intro calm forward' calm' c' still
  -- The first look is itself one of the sights.
  have forward'' : ∀ s ∈ Sight.look :: calm, s.Forward time :=
    List.forall_mem_cons.2 ⟨trivial, forward'⟩
  exact (gl.noted sb.noted).look_watch tm forward'' (List.forall_mem_cons.2 ⟨trivial, calm'⟩)
    (congrArg Time.Instant.total still)

/-- The breaker opens, and somebody looks at it before and after its timeout is over. -/
def glances : List (Sight Dial) :=
  attempt.map .event ++ [.look, .event (onTo 13), .look]

/-- Whoever looks closes a breaker that would else be open, and no tick tells. -/
theorem glances_unnoticed_slow :
    ∃ q, build (slow 1) = .ok q ∧
      let start : Course Dial := { publisher := q, world := .at 0 (by decide) }
      let es := glances.filterMap Sight.event?
      let c := start.watch stuck Dial.shows glances
      (start.run stuck es).publisher.breaker.opened = true ∧
        c.publisher.breaker.opened = false ∧
        start.watchedTicks stuck Dial.shows glances = start.ticks stuck es ∧
        c = (start.run stuck es).withBreaker .initial := by
  have tm : stuck.Timely Dial.shows := timely_stuck
  have forward : ∀ s ∈ glances, s.Forward Dial.shows := by
    intro s mem
    cases s with
    | look => trivial
    | event e =>
      have here : e ∈ attempt ∨ e = onTo 13 := by simpa [glances] using mem
      apply forward_hour
      simp only [hour, List.mem_append, List.mem_singleton]
      tauto
  obtain ⟨ticks, same, -⟩ := glances_unnoticed tm (s := slow 1) rfl (.at 0 (by decide)) forward
  exact ⟨_, rfl, rfl, rfl, ticks, same⟩

end Course

end Publisher

end Outbox
