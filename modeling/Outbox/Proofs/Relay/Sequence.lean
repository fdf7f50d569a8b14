import Outbox.Proofs.Publisher.Schedule
import Outbox.Proofs.Publisher.Streak
import Outbox.Proofs.Relay

/-!
# First in, first out

A publisher with one place relays what was committed in the order of the commits. Between two ticks
it is `Resting`, and inside a tick it is `Relaying` as many records as it fetched; what happens in
the workshop meanwhile keeps both. The main statement `run_relays_in_order` follows for whole runs:
every tick relays the next messages, as many as a batch may have, and it has nothing to do only if
there are none.
-/

namespace Outbox.Relay
open Publisher (Batch Course Worker Results)
open UnitOfWork (Ground)

variable {β ε : Type} {resolve : String → Option Shape} {s : Settings} {first : Nat}

/-- What a batch holds of the records that were not relayed: the first ones, of which no more than
one is worked on. -/
inductive Claims (resolve : String → Option Shape) (rest : List Record) :
    List Worker → List Record → Nat → Prop where
  | none {waiting} :
    waiting <+: rest →
    Claims resolve rest [] waiting 0
  | one {k : Worker} {waiting ahead} :
    k.record :: waiting <+: rest →
    Fits resolve k.record k.stage ahead →
    Claims resolve rest [k] waiting ahead

/-- Records that are added behind leave what a batch holds in front. -/
lemma Claims.append {rest active waiting ahead} (cl : Claims resolve rest active waiting ahead)
    (rs : List Record) : Claims resolve (rest ++ rs) active waiting ahead := by
  cases cl with
  | none pre => exact .none (pre.trans (List.prefix_append ..))
  | one pre fits => exact .one (pre.trans (List.prefix_append ..)) fits

/-- How many messages the next tick is to relay. -/
def next (s : Settings) (c : Course (Relay β)) : Nat :=
  min s.batchSize.toNat (c.world.workshop.committed.length - c.world.accepted.length)

/-- The publisher is between two ticks. -/
def Resting (resolve : String → Option Shape) (s : Settings) (first : Nat)
    (c : Course (Relay β)) : Prop :=
  c.work = none ∧ ∃ done rest, Flow resolve s first done rest 0 c.publisher c.world

/-- The publisher is in a tick that began when so many messages were relayed and fetched so many
records; its batch is `b`. -/
structure Relaying (resolve : String → Option Shape) (s : Settings) (first begun fetched : Nat)
    (c : Course (Relay β)) (b : Batch) : Prop where
  busy : c.work = some (true, b)
  flow : ∃ done rest ahead, Flow resolve s first done rest ahead c.publisher c.world ∧
    Claims resolve rest b.active b.waiting ahead ∧ done.length = begun + b.finished.length
  published : ∀ k ∈ b.finished, k.result? = some (.ok .published)
  fetched : b.finished.length + b.active.length + b.waiting.length = fetched

/-- The results of a batch that went well. -/
lemma results_of_published {b : Batch}
    (published : ∀ k ∈ b.finished, k.result? = some (.ok .published)) :
    b.results = List.replicate b.finished.length (.ok .published) := by
  have same : b.results = b.finished.map fun _ => .ok .published := by
    unfold Batch.results
    rw [← List.filterMap_eq_map]
    exact List.filterMap_congr published
  rw [same, List.map_const']

/-- A tick that relayed so many records and nothing else. -/
def relayedTick (n : Nat) : Publisher.Tick :=
  if n = 0 then .idle else .processed { fetched := n, published := n }

/-- What a batch comes to that went well. -/
lemma conclude_published (resolve : String → Option Shape) {results : Results} {n : Nat}
    (all : results = List.replicate n (.ok .published)) (q : Publisher) (l : Relay β) :
    let next := q.conclude (surroundings resolve) results.report results.failure? l
    next.1 = relayedTick n ∧ next.2.2 = l ∧ next.2.1.settings = q.settings ∧
      next.2.1.breaker.opened = q.breaker.opened ∧ next.2.1.window = q.window := by
  have good : results.failure? = none := by
    refine Publisher.Results.failure?_eq_none_iff.2 fun r mem => ?_
    rw [all] at mem
    exact ⟨_, List.eq_of_mem_replicate mem⟩
  have report : results.report = { fetched := n, published := n } := by
    simp [all, Results.report, Results.count, List.countP_replicate, Answer.ok?]
  rw [good, report]
  exact ⟨rfl, rfl, rfl, rfl, rfl⟩

/-- A publisher with a closed breaker does not skip a tick. -/
lemma skips_of_closed (resolve : String → Option Shape) {q : Publisher}
    (closed : q.breaker.opened = false) (l : Relay β) :
    ∃ l', q.skips (surroundings resolve) l = (false, q, l') ∧ l'.workshop = l.workshop ∧
      l'.accepted = l.accepted := by
  unfold Publisher.skips Publisher.askBreaker Breaker.ask
  rw [closed]
  split
  · exact ⟨_, rfl, rfl, rfl⟩
  · exact ⟨_, rfl, rfl, rfl⟩

/-- A purge takes nothing into the window. -/
lemma Flow.purge {done rest ahead} {q q' : Publisher} {l l' : Relay β}
    (fl : Flow resolve s first done rest ahead q l)
    (pg : q.purge (surroundings resolve) l = (q', l')) :
    Flow resolve s first done rest ahead q' l' ∧ l'.workshop = l.workshop ∧
      l'.accepted = l.accepted := by
  obtain ⟨-, rfl, rfl⟩ | ⟨win, now, here, clock, rfl⟩ := Publisher.purge_inv pg
  · exact ⟨fl, rfl, rfl⟩
  · cases clock
    refine ⟨fl.of_same rfl rfl rfl rfl ?_, rfl, rfl⟩
    rintro _ ⟨⟩
    refine ⟨win, here, fun id x found => ⟨x, ?_⟩⟩
    rw [Window.find?_purge] at found
    exact (Option.filter_eq_some_iff.1 found).1

/-- A fetch brings the first messages that were not relayed. -/
lemma Flow.fetch {done rest ahead} {q : Publisher} {l : Relay β}
    (fl : Flow resolve s first done rest ahead q l) (fair : Fair resolve first l.workshop)
    (pos : 0 < s.retryCeiling) :
    q.fetch (surroundings resolve) l = (.ok (rest.take s.batchSize.toNat), l) := by
  have fetched := Store.fetch_queue fl.items fl.processed fl.untouched
    (precedes_of_ordered fl.ordered fair) pos l.workshop.ground.now s.batchSize.toNat
  rw [← fetched, ← fl.settings]
  rfl

/-- Between two ticks, the next one fetches the first messages that were not relayed, as many as a
batch may have. Without interruption it goes on to what its workers come to one after another. -/
lemma Resting.tick {c : Course (Relay β)} (rs : Resting resolve s first c)
    (fair : Fair resolve first c.world.workshop) (pos : 0 < s.retryCeiling) :
    ∃ q l records, c.step (surroundings resolve) .tick =
        { c with publisher := q, world := l, work := some (true, { waiting := records }) } ∧
      l.workshop = c.world.workshop ∧
      Relaying resolve s first c.world.accepted.length (next s c)
        (c.step (surroundings resolve) .tick) { waiting := records } ∧
      c.publisher.tick (surroundings resolve) c.world =
        let (results, window, l) :=
          Publisher.handleAll (surroundings resolve) q.retryDelay records q.window l
        { q with window }.conclude (surroundings resolve) results.report results.failure? l := by
  obtain ⟨idle, done, rest, fl⟩ := rs
  -- the breaker is closed, so it is asked and nothing else is
  obtain ⟨l₁, sk, workshop, accepted⟩ := skips_of_closed resolve fl.closed c.world
  have fl₁ : Flow resolve s first done rest 0 c.publisher l₁ :=
    fl.of_same workshop accepted rfl rfl fun win here => ⟨win, here, fun _ x found => ⟨x, found⟩⟩
  generalize pg : c.publisher.purge (surroundings resolve) l₁ = purged
  obtain ⟨q, l⟩ := purged
  obtain ⟨fl₂, workshop', accepted'⟩ := fl₁.purge pg
  rw [workshop] at workshop'
  have ft := fl₂.fetch (workshop' ▸ fair) pos
  have begun : c.step (surroundings resolve) .tick =
      { c with
        publisher := q, world := l
        work := some (true, { waiting := rest.take s.batchSize.toNat }) } := by
    simp only [Course.step, idle, Course.tick, Publisher.beginTick, sk, pg, ft]
  refine ⟨q, l, _, begun, workshop', ?_, ?_⟩
  · rw [begun]
    refine ⟨rfl, ⟨done, rest, 0, fl₂, .none (List.take_prefix ..), ?_⟩,
      fun _ mem => absurd mem List.not_mem_nil, ?_⟩
    · exact fl.length_accepted.symm
    · have committed := congrArg List.length fl.committed
      rw [next, fl.length_accepted, committed]
      simp
  · simp only [Publisher.tick, sk, Publisher.runBatch, pg, ft]

/-- A worker whose stage fits its record is not finished. -/
lemma Fits.isFinished_eq_false {k : Worker} {r ahead} (fits : Fits resolve r k.stage ahead) :
    k.isFinished = false := by
  obtain ⟨_, stage⟩ := k
  cases fits <;> rfl

/-- Only the publisher, its world and its batch matter. -/
lemma Relaying.of_same {begun fetched} {c c' : Course (Relay β)} {b : Batch}
    (rl : Relaying resolve s first begun fetched c b) (publisher : c'.publisher = c.publisher)
    (world : c'.world = c.world) (work : c'.work = some (true, b)) :
    Relaying resolve s first begun fetched c' b := by
  obtain ⟨-, flow, published, fetched⟩ := rl
  rw [← publisher, ← world] at flow
  exact ⟨work, flow, published, fetched⟩

/-- A record that waits is started if no other one is worked on. -/
lemma Relaying.start {begun fetched} {c c' : Course (Relay β)} {b : Batch}
    (rl : Relaying resolve s first begun fetched c b) (publisher : c'.publisher = c.publisher)
    (world : c'.world = c.world) (work : c'.work = some (true, b.start 1)) :
    Relaying resolve s first begun fetched c' (b.start 1) := by
  obtain same | ⟨r, none, waiting, active, finished⟩ := b.start_one
  · rw [same] at work ⊢
    exact rl.of_same publisher world work
  · obtain ⟨-, ⟨done, rest, ahead, fl, claims, begun⟩, published, fetched⟩ := rl
    rw [← publisher, ← world] at fl
    rw [none, waiting] at claims
    cases claims with | none pre =>
    refine ⟨work, ⟨done, rest, 0, fl, ?_, finished ▸ begun⟩, finished ▸ published, ?_⟩
    · rw [active]
      exact .one pre .looking
    · rw [none, waiting] at fetched
      rw [finished, active]
      simp only [List.length_nil, List.length_cons] at fetched ⊢
      omega

/-- The record that is worked on goes on, or it was relayed. -/
lemma Relaying.advance {begun fetched delay i} {c c' : Course (Relay β)} {b b' : Batch} {window'}
    (rl : Relaying resolve s first begun fetched c b) (fair : Fair resolve first c.world.workshop)
    (st : b.advance (surroundings resolve) delay i c.publisher.window c.world =
      (b', window', c'.world))
    (publisher : c'.publisher = { c.publisher with window := window' })
    (work : c'.work = some (true, b')) : Relaying resolve s first begun fetched c' b' := by
  -- A move at a place without a worker changes nothing.
  have still (same : b' = b ∧ window' = c.publisher.window ∧ c'.world = c.world) :
      Relaying resolve s first begun fetched c' b' := by
    obtain ⟨rfl, rfl, world⟩ := same
    exact rl.of_same publisher world work
  obtain ⟨-, ⟨done, rest, ahead, fl, claims, begun⟩, published, fetched⟩ := rl
  generalize active : b.active = ks at claims
  cases claims with
  | none pre => exact still (Batch.advance_none (by simp [active]) st)
  | @one k waiting ahead pre fits =>
    obtain same | ⟨k', same, st, waiting', stay⟩ := Batch.advance_one active st
    · exact still same
    · obtain ⟨tail, rfl⟩ := pre
      rw [active] at fetched
      have stepped := fl.step fair fits st
      rw [← publisher] at stepped
      obtain ⟨ahead', fits', fl'⟩ | ⟨fin, r', fl'⟩ := stepped
      · obtain ⟨-, active', finished⟩ | ⟨fin, -⟩ := stay
        · refine ⟨work, ⟨done, _, ahead', fl', ?_, finished ▸ begun⟩, finished ▸ published, ?_⟩
          · rw [active', waiting']
            exact .one (same ▸ List.prefix_append ..) (same ▸ fits')
          · rw [active', waiting', finished]
            exact fetched
        · cases fits'.isFinished_eq_false.symm.trans fin
      · obtain ⟨busy, -⟩ | ⟨-, active', finished⟩ := stay
        · rw [Worker.isFinished, fin] at busy
          cases busy
        -- The record has moved over, and its worker with it, so their numbers still agree.
        · refine ⟨work, ⟨_, _, 0, fl', ?_, ?_⟩, ?_, ?_⟩
          · rw [active', waiting']
            exact .none (List.prefix_append ..)
          · rw [finished, List.length_append, List.length_append, begun]
            rfl
          · rw [finished]
            refine List.forall_mem_append.2 ⟨published, List.forall_mem_singleton.2 ?_⟩
            rw [Worker.result?, fin]
          · rw [active', waiting', finished]
            simp only [List.length_append, List.length_cons, List.length_nil] at fetched ⊢
            omega

/-- The end of a tick whose batch is done: everything that was fetched was relayed. -/
lemma Relaying.conclude {begun fetched} {c : Course (Relay β)} {b : Batch}
    (rl : Relaying resolve s first begun fetched c b) (done : b.isDone = true) :
    Resting resolve s first (c.step (surroundings resolve) .conclude) ∧
      (c.step (surroundings resolve) .conclude).world = c.world ∧
      c.world.accepted.length = begun + fetched ∧
      c.ends? (surroundings resolve) .conclude = some (relayedTick fetched, c.world) ∧
      b.results = List.replicate fetched (.ok .published) := by
  obtain ⟨work, ⟨done', rest, ahead, fl, claims, begun⟩, published, fetched⟩ := rl
  obtain ⟨waiting, active⟩ := Bool.and_eq_true_iff.1 done
  have waiting := List.isEmpty_iff.1 waiting
  have active := List.isEmpty_iff.1 active
  -- no record waits and no worker is active, so the broker is no longer ahead of the store
  rw [waiting, active] at claims fetched
  cases claims with | none _ =>
  have results := results_of_published published
  rw [show b.finished.length = _ from fetched] at results begun
  obtain ⟨tick, world, settings, breaker, window⟩ :=
    conclude_published resolve results c.publisher c.world
  have step : c.step (surroundings resolve) .conclude =
      c.conclude (surroundings resolve) true b := by
    simp only [Course.step, work, done, if_true]
  have same : (c.step (surroundings resolve) .conclude).world = c.world := by
    rw [step]
    exact world
  refine ⟨⟨?_, done', rest, ?_⟩, same, ?_, ?_, results⟩
  · rw [step]
    rfl
  · rw [same]
    rw [step]
    refine fl.of_same rfl rfl settings breaker fun win here => ?_
    exact ⟨win, window.symm.trans here, fun _ x found => ⟨x, found⟩⟩
  · exact fl.length_accepted.trans begun
  · simp only [Course.ends?, work, done, if_true, tick]

variable {send : Notice → β → Except ε Unit × β}

/-- What happens in the workshop between two ticks leaves the publisher between them. -/
lemma Resting.work {c : Course (Relay β)} (rs : Resting resolve s first c) (e : Workshop.Event)
    (clock : ∀ now verdicts, e = .meet now verdicts → c.world.workshop.ground.now ≤ now) :
    Resting resolve s first (c.step (surroundings resolve) ((Event.work e).toCourse send)) := by
  obtain ⟨idle, done, rest, fl⟩ := rs
  obtain ⟨_, -, fl'⟩ := fl.work e clock
  exact ⟨idle, done, _, fl'⟩

/-- What happens in the workshop during a tick adds behind the records that the tick fetched. -/
lemma Relaying.work {begun fetched} {c : Course (Relay β)} {b : Batch}
    (rl : Relaying resolve s first begun fetched c b) (e : Workshop.Event)
    (clock : ∀ now verdicts, e = .meet now verdicts → c.world.workshop.ground.now ≤ now) :
    Relaying resolve s first begun fetched
      (c.step (surroundings resolve) ((Event.work e).toCourse send)) b := by
  obtain ⟨work, ⟨done, rest, ahead, fl, claims, begun⟩, published, fetched⟩ := rl
  obtain ⟨rs, -, fl'⟩ := fl.work e clock
  exact ⟨work, ⟨done, _, ahead, fl', claims.append rs, begun⟩, published, fetched⟩

/-- With one place, every move leaves the batch with the first records that were not relayed. -/
lemma Relaying.move {begun fetched} {c : Course (Relay β)} {b : Batch}
    (rl : Relaying resolve s first begun fetched c b) (fair : Fair resolve first c.world.workshop)
    (single : s.parallelism = 1) (m : Batch.Move) :
    ∃ b', Relaying resolve s first begun fetched (c.step (surroundings resolve) (.move m)) b' := by
  have places : c.places = 1 := by
    obtain ⟨-, ⟨_, _, _, fl, -⟩, -⟩ := rl
    rw [Course.places, fl.settings, single]
    rfl
  have step : c.step (surroundings resolve) (.move m) =
      c.move (surroundings resolve) true b m := by
    simp only [Course.step, rl.busy]
  rw [step, Course.move, places]
  cases m with
  | start => exact ⟨_, rl.start rfl rfl rfl⟩
  | advance i => exact ⟨_, rl.advance fair rfl rfl rfl⟩

/-- A run does not move the clock back, and all that is committed in it is fair. -/
structure Regular (send : Notice → β → Except ε Unit × β) (resolve : String → Option Shape)
    (first : Nat) (c : Course (Relay β)) (es : List Event) : Prop where
  ordered : c.world.workshop.Ordered first
  clock : (c.world.workshop.ground.now :: es.filterMap Event.now?).Pairwise (· ≤ ·)
  fair : Fair resolve first (run send resolve c es).world.workshop

/-- An event happens in the workshop, or it leaves the ledger alone. -/
lemma step_inv (send : Notice → β → Except ε Unit × β) (resolve : String → Option Shape)
    (c : Course (Relay β)) (e : Event) :
    (∃ e', e = .work e') ∨
      e.now? = none ∧ (step send resolve c e).world.ledger = c.world.ledger := by
  have kept {e' : Course.Event (Relay β)} (inside : ∀ change, e' ≠ .elsewhere change) :=
    (keeps_ledger resolve).of_event c inside
  cases e with
  | work e' => exact .inl ⟨e', rfl⟩
  | tick => exact .inr ⟨rfl, kept nofun⟩
  | move m => exact .inr ⟨rfl, kept nofun⟩
  | conclude => exact .inr ⟨rfl, kept nofun⟩

namespace Regular

variable {c : Course (Relay β)} {e : Event} {es : List Event}

/-- A meeting of a regular run is no earlier than what the clock of the workshop shows. -/
lemma later (rg : Regular send resolve first c (e :: es)) {e'} (work : e = .work e') (now verdicts)
    (meets : e' = .meet now verdicts) : c.world.workshop.ground.now ≤ now := by
  subst work meets
  exact List.rel_of_pairwise_cons rg.clock List.mem_cons_self

/-- What happens in the workshop of a regular run adds to the end of what was committed. -/
lemma work {e'} (rg : Regular send resolve first c (.work e' :: es)) :
    (c.world.workshop.step send e').Ordered first ∧
      ∃ rs, Workshop.Adds first rs c.world.workshop (c.world.workshop.step send e') :=
  rg.ordered.step e' (rg.later rfl)

/-- A regular run goes on regularly after its first event. -/
lemma tail (rg : Regular send resolve first c (e :: es)) :
    Regular send resolve first (step send resolve c e) es := by
  have clock := rg.clock
  obtain ⟨e', rfl⟩ | ⟨still, same⟩ := step_inv send resolve c e
  -- Nothing but an event in the workshop moves its clock.
  · refine ⟨rg.work.1, ?_, rg.fair⟩
    have now := Workshop.now_step send c.world.workshop e'
    cases e' with
    | meet now' verdicts => exact clock.tail
    | _ => exact now ▸ clock
  · refine ⟨ordered_of_ledger same rg.ordered, ?_, rg.fair⟩
    obtain ⟨-, -, now, -⟩ := ledger_inv same
    rw [List.filterMap_cons_none still] at clock
    exact now ▸ clock

/-- What is fair at the end of a regular run was fair at its beginning. -/
lemma start (rg : Regular send resolve first c es) : Fair resolve first c.world.workshop := by
  induction es generalizing c with
  | nil => exact rg.fair
  | cons e es ih =>
    have fair := ih rg.tail
    obtain ⟨e', rfl⟩ | ⟨-, same⟩ := step_inv send resolve c e
    · obtain ⟨-, _, adds⟩ := rg.work
      exact fair.of_adds adds
    · exact fair_of_ledger same fair

/-- In a regular run nothing that was committed is taken back. -/
lemma committed_prefix (rg : Regular send resolve first c es) :
    c.world.workshop.committed <+: (run send resolve c es).world.workshop.committed := by
  induction es generalizing c with
  | nil => exact List.prefix_rfl
  | cons e es ih =>
    refine .trans ?_ (ih rg.tail)
    obtain ⟨e', rfl⟩ | ⟨-, same⟩ := step_inv send resolve c e
    · obtain ⟨-, _, adds⟩ := rg.work
      show _ <+: (c.world.workshop.step send e').committed
      rw [adds.committed]
      exact List.prefix_append ..
    · obtain ⟨-, -, -, committed, -⟩ := ledger_inv same
      exact committed ▸ List.prefix_rfl

/-- The second stretch of a regular run is regular. -/
lemma drop {es'} (rg : Regular send resolve first c (es ++ es')) :
    Regular send resolve first (run send resolve c es) es' := by
  induction es generalizing c with
  | nil => exact rg
  | cons e es ih => exact ih rg.tail

/-- The first stretch of a regular run is regular. -/
lemma take {es'} (rg : Regular send resolve first c (es ++ es')) :
    Regular send resolve first c es := by
  refine ⟨rg.ordered, rg.clock.sublist ?_, rg.drop.start⟩
  rw [List.filterMap_append]
  exact (List.sublist_append_left ..).cons_cons _

end Regular

/-- An event other than its end leaves the publisher in its tick. -/
lemma Relaying.step {begun fetched} {c : Course (Relay β)} {b : Batch} {e : Event}
    (rl : Relaying resolve s first begun fetched c b) (single : s.parallelism = 1) {es}
    (rg : Regular send resolve first c (e :: es)) (goes_on : e ≠ .conclude) :
    ∃ b', Relaying resolve s first begun fetched (Relay.step send resolve c e) b' := by
  cases e with
  | work e' => exact ⟨b, rl.work e' (rg.later rfl)⟩
  | tick =>
    have same : Relay.step send resolve c .tick = c := by
      simp only [Relay.step, Event.toCourse, Course.step, rl.busy]
    exact ⟨b, same.symm ▸ rl⟩
  | move m => exact rl.move rg.start single m
  | conclude => exact absurd rfl goes_on

/-- As long as its end does not come, a publisher stays in its tick. -/
lemma Relaying.run {begun fetched} {c : Course (Relay β)} {b : Batch} {es : List Event}
    (rl : Relaying resolve s first begun fetched c b) (single : s.parallelism = 1)
    (rg : Regular send resolve first c es) (goes_on : .conclude ∉ es) :
    ∃ b', Relaying resolve s first begun fetched (Relay.run send resolve c es) b' := by
  induction es generalizing c b with
  | nil => exact ⟨b, rl⟩
  | cons e es ih =>
    obtain ⟨here, behind⟩ := List.ne_and_not_mem_of_not_mem_cons goes_on
    obtain ⟨b', rl'⟩ := rl.step single rg here.symm
    exact ih rl' rg.tail behind

/-- The publisher is between two ticks or in one. -/
def Going (resolve : String → Option Shape) (s : Settings) (first : Nat)
    (c : Course (Relay β)) : Prop :=
  Resting resolve s first c ∨ ∃ begun fetched b, Relaying resolve s first begun fetched c b

/-- Every event of a regular run leaves the publisher between two ticks or in one. -/
lemma Going.step {c : Course (Relay β)} {e : Event} (going : Going resolve s first c)
    (single : s.parallelism = 1) (pos : 0 < s.retryCeiling) {es}
    (rg : Regular send resolve first c (e :: es)) :
    Going resolve s first (Relay.step send resolve c e) := by
  obtain rs | ⟨begun, fetched, b, rl⟩ := going
  · cases e with
    | work e' => exact .inl (rs.work e' (rg.later rfl))
    | tick =>
      obtain ⟨_, _, _, -, -, rl, -⟩ := rs.tick rg.start pos
      exact .inr ⟨_, _, _, rl⟩
    | move m =>
      have same : Relay.step send resolve c (.move m) = c := by
        simp only [Relay.step, Event.toCourse, Course.step, rs.1]
      exact .inl (same.symm ▸ rs)
    | conclude =>
      have same : Relay.step send resolve c .conclude = c := by
        simp only [Relay.step, Event.toCourse, Course.step, rs.1]
      exact .inl (same.symm ▸ rs)
  · by_cases ends : e = .conclude
    · subst ends
      by_cases done : b.isDone = true
      · exact .inl (rl.conclude done).1
      · have same : Relay.step send resolve c .conclude = c := by
          simp only [Relay.step, Event.toCourse, Course.step, rl.busy, done]
          rfl
        exact .inr ⟨begun, fetched, b, same.symm ▸ rl⟩
    · exact .inr ⟨begun, fetched, rl.step single rg ends⟩

/-- Every regular run leaves the publisher between two ticks or in one. -/
lemma Going.run {c : Course (Relay β)} {es : List Event} (going : Going resolve s first c)
    (single : s.parallelism = 1) (pos : 0 < s.retryCeiling)
    (rg : Regular send resolve first c es) :
    Going resolve s first (Relay.run send resolve c es) := by
  induction es generalizing c with
  | nil => exact going
  | cons e es ih => exact ih (going.step single pos rg) rg.tail

/-- A tick relayed the next messages of those that were committed when it began, as many as a batch
may have, and tells just that. -/
structure RelaysNext (resolve : String → Option Shape) (s : Settings) (c : Course (Relay β))
    (t : Publisher.Tick) (l : Relay β) : Prop where
  accepted : l.accepted.map some =
    (c.world.workshop.committed.take (c.world.accepted.length + next s c)).map (relayed? resolve)
  tick : t = relayedTick (next s c)
  idle_iff : t = .idle ↔ c.world.accepted.length = c.world.workshop.committed.length

/-- What the broker took is the beginning of what was committed. -/
lemma Going.accepted {c : Course (Relay β)} (going : Going resolve s first c) :
    c.world.accepted.map some <+: c.world.workshop.committed.map (relayed? resolve) := by
  obtain ⟨-, _, _, fl⟩ | ⟨_, _, _, -, ⟨_, _, _, fl, -⟩, -⟩ := going
  · rw [fl.accepted]
    exact (List.take_prefix ..).map _
  · rw [fl.accepted]
    exact (List.take_prefix ..).map _

/-- The broker took no more than was committed. -/
lemma Going.length_accepted_le {c : Course (Relay β)} (going : Going resolve s first c) :
    c.world.accepted.length ≤ c.world.workshop.committed.length := by
  have le := going.accepted.length_le
  rwa [List.length_map, List.length_map] at le

/-- A tick whose batch is done relayed the next messages. -/
lemma Relaying.relaysNext {c c' : Course (Relay β)} {b : Batch}
    (rl : Relaying resolve s first c.world.accepted.length (next s c) c' b) (done : b.isDone = true)
    (le : c.world.accepted.length ≤ c.world.workshop.committed.length)
    (pre : c.world.workshop.committed <+: c'.world.workshop.committed)
    (pos : 0 < s.batchSize.toNat) :
    RelaysNext resolve s c (relayedTick (next s c)) c'.world := by
  obtain ⟨-, -, length, -⟩ := rl.conclude done
  have accepted := List.prefix_iff_eq_take.1 (Going.accepted (.inr ⟨_, _, b, rl⟩))
  obtain ⟨later, parts⟩ := pre
  have within : c.world.accepted.length + next s c ≤ c.world.workshop.committed.length := by
    unfold next
    omega
  refine ⟨?_, rfl, ?_⟩
  · rw [accepted, List.length_map, length, ← List.map_take, ← parts,
      List.take_append_of_le_length within]
  · unfold relayedTick next
    split
    · exact iff_of_true rfl (by omega)
    · exact iff_of_false nofun (by omega)

/-- A publisher on a workshop before anything happens. -/
def start (q : Publisher) (table : Aggregate.Table) (g : Ground β) (watch : Nat → Time.Instant) :
    Course (Relay β) where
  publisher := q
  world := { workshop := .start table g, watch }

/-- A publisher that was just built is between two ticks. -/
lemma resting_start {q : Publisher} (built : Publisher.build s = .ok q) (table : Aggregate.Table)
    {g : Ground β} (bare : g.store.records.items = []) (watch : Nat → Time.Instant) :
    Resting resolve s g.mint.made (start q table g watch) := by
  have new {win} (here : q.window = some win) := Publisher.find?_window_build built here
  obtain ⟨_, _, _, -, -, -, -, rfl⟩ := Publisher.build_inv built
  have ordered := Workshop.ordered_start table bare
  refine ⟨rfl, [], [], ordered, bare, ?_, ?_, Nat.le_refl _, rfl, rfl, rfl, ?_⟩
  · exact fun _ mem => absurd mem List.not_mem_nil
  · exact fun _ mem => absurd mem List.not_mem_nil
  · intro win here id x found
    cases (new here id).symm.trans found

/-- Moves take a tick on and leave the ledger alone. -/
lemma Relaying.moves {begun fetched} {c : Course (Relay β)} {b : Batch}
    (rl : Relaying resolve s first begun fetched c b) (fair : Fair resolve first c.world.workshop)
    (single : s.parallelism = 1) (ms : List Batch.Move) :
    let c' := c.run (surroundings resolve) (ms.map .move)
    c'.world.ledger = c.world.ledger ∧ ∃ b', Relaying resolve s first begun fetched c' b' := by
  induction ms generalizing c b with
  | nil => exact ⟨rfl, b, rl⟩
  | cons m ms ih =>
    obtain ⟨b', rl'⟩ := rl.move fair single m
    have same := (keeps_ledger resolve).of_event c (e := .move m) nofun
    obtain ⟨same', rest⟩ := ih rl' (fair_of_ledger same.symm fair)
    exact ⟨same'.trans same, rest⟩

/-- Between two ticks, the next one relays the next messages if nothing interrupts it. -/
lemma Resting.relaysNext {c : Course (Relay β)} (rs : Resting resolve s first c)
    (fair : Fair resolve first c.world.workshop) (single : s.parallelism = 1)
    (pos : 0 < s.retryCeiling) (pos' : 0 < s.batchSize.toNat) :
    let (t, _, l) := c.publisher.tick (surroundings resolve) c.world
    RelaysNext resolve s c t l := by
  obtain ⟨q, l, records, begun, workshop, rl, tick⟩ := rs.tick fair pos
  rw [begun] at rl
  have room : 0 < q.settings.parallelism.toNat := by
    obtain ⟨-, ⟨_, _, _, fl, -⟩, -⟩ := rl
    rw [fl.settings, single]
    decide
  -- The workers take their steps one after another, which is one way to go through the batch.
  obtain ⟨b, taken, done, results, worked⟩ := Course.run_working (p := surroundings resolve)
    { c with publisher := q, world := l, work := some (true, { waiting := records }) } room rfl
  obtain ⟨same, b', rl'⟩ := rl.moves (workshop ▸ fair) single (Batch.inTurn records)
  rw [worked] at rl' same
  rw [tick]
  simp only at results rl' same ⊢
  generalize Publisher.handleAll (surroundings resolve) q.retryDelay records q.window l = handled
    at results rl' same ⊢
  obtain ⟨rs', win', l'⟩ := handled
  cases rl'.busy
  obtain ⟨-, -, -, -, relayed⟩ := rl'.conclude done
  obtain ⟨-, -, -, committed, -⟩ := ledger_inv same
  have kept := committed.trans (congrArg Workshop.committed workshop)
  have pre : c.world.workshop.committed <+: l'.workshop.committed := kept ▸ List.prefix_rfl
  have relays := rl'.relaysNext done (Going.length_accepted_le (.inl rs)) pre pos'
  obtain ⟨ended, world, -⟩ :=
    conclude_published resolve (results.symm.trans relayed) { q with window := win' } l'
  rw [ended, world]
  exact relays

/-- Between two ticks, the next one relays the next messages whatever happens in the workshop in the
middle of it. -/
lemma Resting.relaysNext_of_run {c : Course (Relay β)} (rs : Resting resolve s first c)
    (single : s.parallelism = 1) (pos : 0 < s.retryCeiling) (pos' : 0 < s.batchSize.toNat)
    {during : List Event} (rg : Regular send resolve first c (.tick :: during))
    (goes_on : .conclude ∉ during) :
    let c' := run send resolve c (.tick :: during)
    ∃ b, c'.work = some (true, b) ∧ (b.isDone = true →
      ∃ t, c'.ends? (surroundings resolve) .conclude = some (t, c'.world) ∧
        (step send resolve c' .conclude).work = none ∧
        RelaysNext resolve s c t (step send resolve c' .conclude).world) := by
  obtain ⟨_, _, _, -, -, rl, -⟩ := rs.tick rg.start pos
  obtain ⟨b, rl'⟩ : ∃ b, Relaying _ _ _ _ _ (run send resolve c (.tick :: during)) b :=
    rl.run single rg.tail goes_on
  refine ⟨b, rl'.busy, fun done => ?_⟩
  obtain ⟨⟨idle, -⟩, world, -, ends, -⟩ := rl'.conclude done
  refine ⟨_, ends, idle, ?_⟩
  have relays :=
    rl'.relaysNext done (Going.length_accepted_le (.inl rs)) rg.committed_prefix pos'
  rw [← world] at relays
  exact relays

/-- In whatever order a workshop raises, tracks, queues, commits and rolls back and a publisher with
one place does its ticks, also in the middle of them: if identifiers go up in the order in which
they are made, the clock never moves back and every message that is committed can be decoded, then
the broker takes the messages in the order in which they were committed. Every tick has it take the
next ones of those that were committed when the tick began, as many as a batch may have, and is idle
if and only if there are none. -/
theorem run_relays_in_order {q : Publisher} (built : Publisher.build s = .ok q)
    (single : s.parallelism = 1) (send : Notice → β → Except ε Unit × β)
    (resolve : String → Option Shape) (table : Aggregate.Table) {g : Ground β}
    (bare : g.store.records.items = []) (watch : Nat → Time.Instant) {es : List Event}
    (clock : (g.now :: es.filterMap Event.now?).Pairwise (· ≤ ·))
    (fair : Fair resolve g.mint.made
      (run send resolve (start q table g watch) es).world.workshop) :
    let c := run send resolve (start q table g watch) es
    c.world.accepted.map some <+: c.world.workshop.committed.map (relayed? resolve) ∧
    (c.work = none →
      let (t, _, l) := c.publisher.tick (surroundings resolve) c.world
      RelaysNext resolve s c t l) ∧
    ∀ before during, es = before ++ .tick :: during → .conclude ∉ during →
      let c₁ := run send resolve (start q table g watch) before
      c₁.work = none → ∃ b, c.work = some (true, b) ∧ (b.isDone = true →
        ∃ t, c.ends? (surroundings resolve) .conclude = some (t, c.world) ∧
          (step send resolve c .conclude).work = none ∧
          RelaysNext resolve s c₁ t (step send resolve c .conclude).world) := by
  obtain ⟨_, _, _, valid, -⟩ := Publisher.build_inv built
  have pos := Settings.retryCeiling_of_validate valid
  have pos' := Settings.batchSize_of_validate valid
  have rg : Regular send resolve g.mint.made (start q table g watch) es :=
    ⟨Workshop.ordered_start table bare, clock, fair⟩
  have rs : Resting resolve s g.mint.made (start q table g watch) :=
    resting_start built table bare watch
  -- At any moment the publisher rests or is amid a tick, which is what the rest is read off.
  have going := Going.run (.inl rs) single pos rg
  refine ⟨going.accepted, ?_, ?_⟩
  · intro idle
    obtain rs' | ⟨_, _, b, rl⟩ := going
    · exact rs'.relaysNext fair single pos pos'
    · cases idle.symm.trans rl.busy
  · rintro before during rfl goes_on c₁ idle
    -- The run is cut in two where the tick begins.
    have rg₁ := rg.drop
    have going₁ : Going resolve s g.mint.made c₁ := Going.run (.inl rs) single pos rg.take
    obtain rs₁ | ⟨_, _, b, rl⟩ := going₁
    · have split : run send resolve (start q table g watch) (before ++ .tick :: during) =
          run send resolve c₁ (.tick :: during) := List.foldl_append
      rw [split]
      exact rs₁.relaysNext_of_run single pos pos' rg₁ goes_on
    · cases idle.symm.trans rl.busy

/-- A bus that takes everything. -/
def heard (_ : Notice) (u : Unit) : Except Empty Unit × Unit :=
  (.ok (), u)

/-- A registry that takes every tag for that of a product that is gone. -/
def goneOnly (_ : String) : Option Shape :=
  some Contract.productDeleted

/-- A publisher at an empty store that fails the third call. -/
def counter (q : Publisher) : Course (Relay Unit) :=
  start q UnitOfWork.shelf (.bare [none, none, some (.storage "full")]) fun _ => .epoch

/-- A message is committed, first in vain and then for good. -/
def retrial : List Event :=
  [.work (.queue UnitOfWork.gone), .work .commit, .work .commit]

/-- The publisher relays a record. Before it gets to it, two more messages are committed. -/
def rush : List Event :=
  [.work (.queue UnitOfWork.gone), .work (.queue UnitOfWork.gone), .work .commit, .move .start] ++
    List.replicate 4 (.move (.advance 0))

/-- A tick that began with one committed message relays this one, although two more are committed
when it ends. -/
theorem run_relays_in_order_rush :
    ∃ q, Publisher.build { parallelism := 1, batchSize := 2 } = .ok q ∧
      let c₁ := run heard goneOnly (counter q) retrial
      let c := run heard goneOnly (counter q) (retrial ++ .tick :: rush)
      c.world.workshop.answers.map (·.toOption.map List.length) = [none, some 1, some 2] ∧
      ∃ t, c.ends? (surroundings goneOnly) .conclude = some (t, c.world) ∧
        RelaysNext goneOnly { parallelism := 1, batchSize := 2 } c₁ t
          (step heard goneOnly c .conclude).world := by
  have clock : (Time.Instant.epoch :: (retrial ++ .tick :: rush).filterMap Event.now?).Pairwise
      (· ≤ ·) := by decide
  obtain ⟨-, -, ticks⟩ := run_relays_in_order (s := { parallelism := 1, batchSize := 2 }) rfl rfl
    heard goneOnly UnitOfWork.shelf (g := .bare [none, none, some (.storage "full")]) rfl
    (fun _ => .epoch) clock ⟨by decide +kernel, by decide +kernel⟩
  obtain ⟨b, work, ends⟩ := ticks retrial rush rfl (by simp [rush]) (by decide +kernel)
  refine ⟨_, rfl, by decide +kernel, ?_⟩
  have done : (some (true, b)).map (·.2.isDone) = some true := by
    rw [← work]
    decide +kernel
  obtain ⟨t, told, -, relays⟩ := ends (Option.some.inj done)
  exact ⟨t, told, relays⟩

end Outbox.Relay
