import Outbox.Proofs.Drill.Batch
import Outbox.Proofs.Publisher.Accounts
import Outbox.Proofs.Publisher.Schedule

/-!
# The ticks of a drill

A tick is skipped, or it fails to fetch, or it opens a batch (`begins`). While it is in work its
batch shares its records, whatever moves are made and whatever the store's clock shows (`Amid.run`);
when the batch is done the tick can end (`Amid.ends`).
-/

namespace Outbox

namespace Publisher

/-- What a tick comes to whose workers come to some results. -/
def Results.tick (rs : Results) : Tick :=
  match rs.failure? with
  | none => if rs.report.fetched = 0 then .idle else .processed rs.report
  | some f => .failed f

/-- A tick is skipped only if the breaker is open. -/
lemma opened_of_skips {ω : Type} {p : Surroundings ω} {q : Publisher} {w : ω}
    (skipped : (q.skips p w).1 = true) : q.breaker.opened = true := by
  cases opened : q.breaker.opened with
  | true => rfl
  | false =>
    simp only [skips, askBreaker, Breaker.ask, opened] at skipped
    split at skipped <;> cases skipped

end Publisher

namespace Drill
open Publisher (Batch Course Results Tick Worker)

variable {resolve : String → Option Shape}

/-- A run of a drill is a run of its course. -/
lemma run_eq (resolve : String → Option Shape) (c : Course Drill) (es : List Event) :
    run resolve c es = c.run (surroundings resolve) (es.map Event.toCourse) := by
  rw [Course.run, List.foldl_map]
  rfl

/-- Events are run in one go or in two. -/
lemma run_append (resolve : String → Option Shape) (c : Course Drill) (es es' : List Event) :
    run resolve c (es ++ es') = run resolve (run resolve c es) es' :=
  List.foldl_append

/-- No run changes the settings of the publisher or the spans that they stand for. -/
lemma design_run (resolve : String → Option Shape) (c : Course Drill) (es : List Event) :
    (run resolve c es).publisher.design = c.publisher.design := by
  rw [run_eq]
  exact Course.design_run ..

/-- No event changes the settings. -/
lemma settings_run (resolve : String → Option Shape) (c : Course Drill) (es : List Event) :
    (run resolve c es).publisher.settings = c.publisher.settings :=
  congrArg Prod.fst (design_run resolve c es)

/-- The ticks that come to their ends in some events, in order, each with what its workers came to.
-/
def ticks (resolve : String → Option Shape) (c : Course Drill) (es : List Event) :
    List (Tick × Results) :=
  c.ticks (surroundings resolve) (es.map Event.toCourse)

/-- Asking the breaker changes nothing in a drill but that the clock was read. -/
lemma skips_eq (resolve : String → Option Shape) (q : Publisher) (d : Drill) :
    ∃ breaker stats n, (q.skips (surroundings resolve) d).2 =
        ({ q with breaker, stats }, { d with readings := n }) ∧
      (q.breaker.opened = false → breaker.opened = false) := by
  by_cases enabled : q.settings.breakerEnabled = true
  · obtain ⟨breaker, asked, world, publisher⟩ :=
      Publisher.skips_inv enabled (rfl : q.skips (surroundings resolve) d = (_, _, _))
    refine ⟨breaker, _, _, Prod.ext publisher world, fun closed => ?_⟩
    rw [Breaker.ask, closed] at asked
    cases (Prod.mk.inj asked).2
    exact closed
  · have same : q.skips (surroundings resolve) d = (false, q, d) := if_neg enabled
    rw [same]
    exact ⟨_, _, _, rfl, fun closed => closed⟩

/-- A purge changes nothing in a drill but that the clock was read. -/
lemma purge_eq (resolve : String → Option Shape) (q : Publisher) (d : Drill) :
    ∃ window n, q.purge (surroundings resolve) d =
      ({ q with window }, { d with readings := n }) := by
  unfold Publisher.purge
  split <;> exact ⟨_, _, rfl⟩

/-- The end of a tick changes nothing in a drill but that the clock was read. -/
lemma conclude_eq (resolve : String → Option Shape) (q : Publisher)
    (report : Publisher.Report) (failure : Option Publisher.Failure) (d : Drill) :
    ∃ breaker stats n, (q.conclude (surroundings resolve) report failure d).2 =
        ({ q with breaker, stats }, { d with readings := n }) ∧
      (failure = none → breaker.opened = q.breaker.opened) := by
  unfold Publisher.conclude Publisher.recordFailure
  cases failure with
  | none => exact ⟨_, _, _, rfl, fun _ => rfl⟩
  | some f =>
    simp only
    split <;> exact ⟨_, _, _, rfl, nofun⟩

/-- A fetch counts as a call to the store, and fails if the script says so. -/
lemma fetch_eq (q : Publisher) (d : Drill) :
    q.fetch (surroundings resolve) d =
      (match d.script.fault d.calls with
        | some e => .error e
        | none => .ok (d.store.fetch d.now q.settings.batchSize.toNat q.settings.retryCeiling),
        { d with calls := d.calls + 1 }) :=
  rfl

/-- What the next tick fetches. -/
def due (c : Course Drill) : List Record :=
  c.world.store.fetch c.world.now c.publisher.settings.batchSize.toNat
    c.publisher.settings.retryCeiling

/-- What a tick begins with: the course after that, and the tick if it is over then. -/
inductive Begins (resolve : String → Option Shape) (c : Course Drill) :
    Course Drill → Option (Tick × Results) → Prop where
  | skipped {breaker stats n} :
    (c.publisher.skips (surroundings resolve) c.world).1 = true →
    Begins resolve c
      { c with
        publisher := { c.publisher with breaker, stats }
        world := { c.world with readings := n } }
      (some (.skipped, []))
  /-- The fetch is made to fail. -/
  | unfetched {breaker stats window n e} :
    (c.publisher.skips (surroundings resolve) c.world).1 = false →
    c.world.script.fault c.world.calls = some e →
    Begins resolve c
      { c with
        publisher := { c.publisher with breaker, stats, window }
        world := { c.world with readings := n, calls := c.world.calls + 1 } }
      (some (.failed (.store e), []))
  | fetched {breaker stats window n} :
    (c.publisher.skips (surroundings resolve) c.world).1 = false →
    c.world.script.fault c.world.calls = none →
    (c.publisher.breaker.opened = false → breaker.opened = false) →
    Begins resolve c
      { c with
        publisher := { c.publisher with breaker, stats, window }
        world := { c.world with readings := n, calls := c.world.calls + 1 }
        work := some (true, { waiting := due c }) }
      none

/-- Between two ticks the next one begins in one of these ways. -/
lemma begins (resolve : String → Option Shape) {c : Course Drill} (idle : c.work = none) :
    Begins resolve c (step resolve c .tick) (c.over? (surroundings resolve) .tick) := by
  obtain ⟨breaker, stats, n, asked, closed⟩ := skips_eq resolve c.publisher c.world
  simp only [step, Event.toCourse, Course.step, idle, Course.over?, Course.ends?, Course.tick,
    Publisher.beginTick]
  generalize sk : c.publisher.skips (surroundings resolve) c.world = next at asked
  obtain ⟨skips, q, d⟩ := next
  cases asked
  cases skips with
  | true =>
    simp only [if_true]
    rw [← idle]
    exact .skipped (congrArg Prod.fst sk)
  | false =>
    obtain ⟨window, n', purged⟩ := purge_eq resolve { c.publisher with breaker, stats }
      { c.world with readings := n }
    simp only [purged, fetch_eq]
    cases fault : c.world.script.fault c.world.calls with
    | some e =>
      obtain ⟨breaker', stats', n'', concluded, -⟩ := conclude_eq resolve
        { c.publisher with breaker, stats, window } {} (some (.store e))
        { c.world with readings := n', calls := c.world.calls + 1 }
      simp only [concluded, Publisher.conclude_fst]
      rw [← idle]
      exact .unfetched (congrArg Prod.fst sk) fault
    | none =>
      exact .fetched (congrArg Prod.fst sk) fault closed

/-- When its batch is done a tick comes to what its workers came to. -/
lemma over?_conclude (resolve : String → Option Shape) {c : Course Drill} {b : Batch}
    (busy : c.work = some (true, b)) (done : b.isDone = true) :
    c.over? (surroundings resolve) .conclude = some (b.results.tick, b.results) := by
  have told : (c.publisher.conclude (surroundings resolve) b.results.report b.results.failure?
      c.world).1 = b.results.tick := Publisher.conclude_fst ..
  simp [Course.over?, busy, Course.ends?, done, told]

/-- If there is a place at all, the batch of a tick can be brought to its end. -/
lemma exists_isDone {c : Course Drill} {b : Batch} (busy : c.work = some (true, b))
    (room : 0 < c.places) :
    ∃ (ms : List Batch.Move) (b' : Batch),
      (run resolve c (ms.map .move)).work = some (true, b') ∧ b'.isDone = true := by
  obtain ⟨ms, done⟩ := Batch.exists_isDone (surroundings resolve) c.publisher.retryDelay room b
    c.publisher.window c.world
  obtain ⟨taken, ran⟩ := Course.run_moves (p := surroundings resolve) ms c busy
  refine ⟨ms, _, ?_, done⟩
  rw [run_eq, List.map_map, show Event.toCourse ∘ Event.move = .move from rfl, ran]

/-- What the broker is asked in an event, each with the record whose worker asks. -/
def asksNow (c : Course Drill) : Event → List (Identifier × Publish)
  | .move m => c.work.toList.flatMap fun x => asksIn x.2 c.world m
  | .tick | .conclude | .pass _ => []

/-- What the broker is asked in some events, in order, each with the record whose worker asks. -/
def attempts (resolve : String → Option Shape) : Course Drill → List Event →
    List (Identifier × Publish)
  | _, [] => []
  | c, e :: es => asksNow c e ++ attempts resolve (step resolve c e) es

/-- A course is in the batch of a tick, which opened in the course `c₀`. Since then the broker was
asked what `log` says. -/
structure Amid (x : Chances) (resolve : String → Option Shape) (c₀ : Course Drill)
    (rs : List Record) (log : List (Identifier × Publish)) (c : Course Drill) (b : Batch) :
    Prop where
  busy : c.work = some (true, b)
  publisher : c.publisher = { c₀.publisher with window := c.publisher.window }
  inside : b.active.length ≤ c.places
  asked : c.world.asked = c₀.world.asked ++ log.map Prod.snd
  shares : Shares x resolve c.publisher.retryDelay ⟨rs, c₀.publisher.window, c₀.world⟩
    (askedFor log) b c.publisher.window c.world

namespace Amid

variable {x : Chances} {c₀ c : Course Drill} {rs : List Record}
  {log : List (Identifier × Publish)} {b : Batch}

/-- When a tick has fetched its records, it is in a batch in which nothing has been done. -/
lemma start (resolve : String → Option Shape) (work : c.work = some (true, { waiting := rs }))
    (distinct : (rs.map Record.id).Nodup) (cover : x.Cover c.world) :
    Amid x resolve c rs [] c { waiting := rs } where
  busy := work
  publisher := rfl
  inside := Nat.zero_le _
  asked := (List.append_nil _).symm
  shares := .start distinct cover

/-- Every move in the batch and every change of the store's clock leaves a tick in its batch. -/
lemma step (am : Amid x resolve c₀ rs log c b) {e : Event} (inner : e.isInner = true)
    (may : ∀ now, e = .pass now → x.now now) :
    ∃ b', Amid x resolve c₀ rs (log ++ asksNow c e) (Drill.step resolve c e) b' := by
  cases e with
  | tick | conclude => cases inner
  | pass now =>
    rw [asksNow, List.append_nil]
    exact ⟨b, am.busy, am.publisher, am.inside, am.asked, am.shares.pass (may now rfl)⟩
  | move m =>
    obtain ⟨asked, shares⟩ := am.shares.move (rfl : b.move (surroundings resolve)
      c.publisher.retryDelay c.places m c.publisher.window c.world = (_, _, _))
    have moved : Drill.step resolve c (.move m) = c.move (surroundings resolve) true b m := by
      simp only [Drill.step, Event.toCourse, Course.step, am.busy]
    have asks : asksNow c (.move m) = asksIn b c.world m := by simp [asksNow, am.busy]
    rw [moved, asks]
    refine ⟨_, rfl, ?_, ?_, ?_, ?_⟩
    · exact congrArg (fun q : Publisher => { q with
        window := (c.move (surroundings resolve) true b m).publisher.window }) am.publisher
    · exact Batch.length_active_run [m] am.inside c.publisher.window c.world
    · rw [List.map_append, ← List.append_assoc, ← am.asked]
      exact asked
    · rw [funext (askedFor_append log (asksIn b c.world m))]
      exact shares

/-- Many moves and changes of the store's clock leave a tick in its batch. -/
lemma run (am : Amid x resolve c₀ rs log c b) {es : List Event} (inner : ∀ e ∈ es, e.isInner = true)
    (may : ∀ now, .pass now ∈ es → x.now now) :
    ∃ b', Amid x resolve c₀ rs (log ++ attempts resolve c es) (Drill.run resolve c es) b' := by
  induction es generalizing c log b with
  | nil => exact ⟨b, (List.append_nil log).symm ▸ am⟩
  | cons e es ih =>
    obtain ⟨_, am'⟩ := am.step (inner e List.mem_cons_self) fun now here =>
      may now (here ▸ List.mem_cons_self)
    rw [attempts, ← List.append_assoc]
    exact ih am' (fun e mem => inner e (List.mem_cons_of_mem _ mem)) fun now mem =>
      may now (List.mem_cons_of_mem _ mem)

/-- While a tick is in its batch no other one comes to its end. -/
lemma not_over (am : Amid x resolve c₀ rs log c b) {e : Event} (inner : e.isInner = true) :
    c.over? (surroundings resolve) e.toCourse = none := by
  cases e with
  | tick | conclude => cases inner
  | pass now | move m => simp [Course.over?, Event.toCourse, am.busy]

/-- When the batch is done each of the records that were fetched has a result. -/
lemma length_results (am : Amid x resolve c₀ rs log c b) (done : b.isDone = true) :
    b.results.length = rs.length := by
  obtain ⟨once, ends⟩ := am.shares.ended done
  have all : b.finished.map Worker.result? = b.results.map some := by
    rw [Batch.results, List.map_filterMap_some_eq_filter_map_isSome]
    refine (List.filter_eq_self.2 fun result mem => ?_).symm
    obtain ⟨k, here, rfl⟩ := List.mem_map.1 mem
    obtain ⟨result, told, -⟩ := ends k here
    rw [told]
    rfl
  rw [← once.length_eq, List.length_map, ← List.length_map (f := Worker.result?), all,
    List.length_map]

/-- When its batch is done, a tick ends with what its workers came to, and changes nothing in a
drill but that the clock was read. -/
lemma ends (am : Amid x resolve c₀ rs log c b) (done : b.isDone = true) :
    c.over? (surroundings resolve) .conclude = some (b.results.tick, b.results) ∧
      ∃ breaker stats n, Drill.step resolve c .conclude =
          { c with
            publisher := { c.publisher with breaker, stats }
            world := { c.world with readings := n }
            work := none } ∧
        (b.results.failure? = none → breaker.opened = c.publisher.breaker.opened) := by
  obtain ⟨breaker, stats, n, concluded, kept⟩ := conclude_eq resolve c.publisher
    b.results.report b.results.failure? c.world
  refine ⟨over?_conclude resolve am.busy done, breaker, stats, n, ?_, kept⟩
  simp only [Drill.step, Event.toCourse, Course.step, am.busy, done, if_true, Course.conclude,
    concluded]

end Amid

end Drill

end Outbox
