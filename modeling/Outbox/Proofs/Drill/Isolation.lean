import Outbox.Proofs.Drill.Tick

/-!
# Failures in a batch

What failures of the store and crashes of the broker do to a tick. A worker that fails leaves its
record as it was, and no other worker notices. The main statement `run_isolates` says of whole
courses that every record which was fetched is taken to its own end, and that the books of the
publisher count what all workers came to, those of failed ticks included.
-/

namespace Outbox

namespace Publisher

/-- Whether a worker is finished without an outcome. -/
def Worker.failed (k : Worker) : Bool :=
  (k.result?.bind Answer.ok?).isNone

namespace Results

/-- Every result is an outcome of one kind or none. -/
lemma fetched_eq (rs : Results) :
    rs.report.fetched = rs.report.published + rs.report.alreadyPublished + rs.report.retried +
      rs.report.deadLettered + rs.countP (·.ok?.isNone) := by
  simp only [report, count]
  induction rs with
  | nil => rfl
  | cons r rs ih =>
    rw [List.length_cons, ih]
    simp only [List.countP_cons]
    cases r with
    | ok o => cases o <;> simp <;> omega
    | error | crash => simp; omega

/-- A tick fails just when one of its workers came to no outcome. -/
lemma isFailed_tick_iff {rs : Results} :
    rs.tick.isFailed = true ↔ 0 < rs.countP (·.ok?.isNone) := by
  have good : rs.failure? = none ↔ ∀ r ∈ rs, ∃ o, r = .ok o := failure?_eq_none_iff
  rw [List.countP_pos_iff]
  unfold tick
  cases failure : rs.failure? with
  | none =>
    refine iff_of_false ?_ fun ⟨r, mem, bad⟩ => ?_
    · simp only
      split <;> simp [Tick.isFailed]
    · obtain ⟨o, rfl⟩ := good.1 failure r mem
      cases bad
  | some f =>
    refine iff_of_true rfl (Classical.byContradiction fun none => ?_)
    have all : ∀ r ∈ rs, ∃ o, r = .ok o := by
      intro r mem
      cases r with
      | ok o => exact ⟨o, rfl⟩
      | error e => exact absurd ⟨_, mem, rfl⟩ none
      | crash => exact absurd ⟨_, mem, rfl⟩ none
    cases failure.symm.trans (good.2 all)

/-- A tick is idle just when there was nobody to work. -/
lemma tick_eq_idle_iff {rs : Results} : rs.tick = .idle ↔ rs = [] := by
  constructor
  · intro idle
    unfold tick at idle
    split at idle
    · split at idle
      · next none => exact List.length_eq_zero_iff.1 none
      · cases idle
    · cases idle
  · rintro rfl
    rfl

end Results

/-- The results without an outcome are those of the workers that failed. -/
lemma countP_results {ks : List Worker} (fin : ∀ k ∈ ks, k.isFinished = true) :
    (ks.filterMap Worker.result?).countP (·.ok?.isNone) = ks.countP Worker.failed := by
  rw [List.countP_filterMap]
  refine List.countP_congr fun k mem => ?_
  obtain ⟨result, told⟩ := Worker.exists_result (fin k mem)
  simp [Worker.failed, told]

end Publisher

namespace Drill
open Publisher (Batch Course Outcome Results Stage Tick Worker)

variable {resolve : String → Option Shape} {delay : Time.Span}

/-- What is laid down in a script, whatever the store's clock shows. -/
def Chances.any (s : Script) : Chances where
  watch t := ∃ n, s.watch n = t
  now _ := True
  answer m sh answer := ∃ n, s.answer n m sh = answer
  fault fault := ∃ n, s.fault n = fault

/-- If a worker comes to no outcome, the row of its record is as it was. -/
lemma Lot.spared {x : Chances} {length r entry row entry' row' sent}
    {result : Answer Store.Error Outcome} (failed : result.ok? = none)
    (lot : Lot x resolve delay length r entry row (.finished result) entry' row' sent) :
    row' = row := by
  generalize fin : Stage.finished result = stage at lot
  cases lot with
  | looking | publishing | remembering | writing => cases fin
  | crashed | failed => rfl
  | @written fate _ _ _ now =>
    cases fin
    cases written : fate.rewrite delay now r.id row with
    | ok r' => simp [written, Answer.ok?] at failed
    | error | crash => rfl

/-- The batch of a tick that began with the course `c₀` is done in the course `c`: each of the
fetched records came to its own end. -/
structure Handled (resolve : String → Option Shape) (c₀ c : Course Drill) (rs : List Record)
    (b : Batch) : Prop where
  /-- Every record was handled once. -/
  once : (b.finished.map Worker.record).Perm rs
  /-- Each worker has the result that its record's entry in the window, tag and payload, the
  broker's answer and the store call for, and nobody else made the broker's answers. -/
  lots : ∃ sent : Identifier → List Publish,
    c.world.asked.Perm (c₀.world.asked ++ rs.flatMap fun r => sent r.id) ∧
    ∀ k ∈ b.finished, ∃ result, k.result? = some result ∧
      Opening.Fares ⟨rs, c₀.publisher.window, c₀.world⟩ (.any c₀.world.script) resolve
        c₀.publisher.retryDelay k.record (.finished result) c.publisher.window c.world
        (sent k.record.id)
  /-- A record whose worker failed is as it was. -/
  spared : ∀ k ∈ b.finished, k.failed = true →
    c.world.store.get? k.record.id = c₀.world.store.get? k.record.id
  /-- A record that was not fetched is as it was. -/
  others : ∀ id, id ∉ rs.map Record.id → c.world.store.get? id = c₀.world.store.get? id
  fetched : b.results.report.fetched = rs.length
  counted : b.results.report.fetched = b.results.report.published +
    b.results.report.alreadyPublished + b.results.report.retried + b.results.report.deadLettered +
    b.finished.countP Worker.failed
  failed : b.results.tick.isFailed = true ↔ ∃ k ∈ b.finished, k.failed = true
  idle : b.results.tick = .idle ↔ rs = []

/-- In a tick whose batch is done every record came to its own end. -/
lemma Amid.handled {c₀ c : Course Drill} {rs log b}
    (am : Amid (.any c₀.world.script) resolve c₀ rs log c b) (done : b.isDone = true) :
    Handled resolve c₀ c rs b := by
  obtain ⟨once, ends⟩ := am.shares.ended done
  have retryDelay : c.publisher.retryDelay = c₀.publisher.retryDelay := by rw [am.publisher]
  have failures := Publisher.countP_results am.shares.sorted.finished
  have length := am.length_results done
  refine ⟨once, ⟨askedFor log, am.shares.asked, fun k mem => ?_⟩, fun k mem failed => ?_,
    fun id new => ?_, length, ?_, ?_, ?_⟩
  · obtain ⟨result, told, fares⟩ := ends k mem
    exact ⟨result, told, retryDelay ▸ fares⟩
  · obtain ⟨result, told, fares⟩ := ends k mem
    have none : result.ok? = none := by simpa [Worker.failed, told] using failed
    exact Lot.spared none fares
  · refine (am.shares.rest id fun k mem eq => new ?_).2.1
    rw [(Batch.workers_of_isDone done).2] at mem
    exact eq ▸ List.mem_map_of_mem (once.mem_iff.1 (List.mem_map_of_mem mem))
  · rw [Results.fetched_eq, ← failures]
    rfl
  · rw [Results.isFailed_tick_iff, Batch.results, failures, List.countP_pos_iff]
  · rw [Results.tick_eq_idle_iff, ← List.length_eq_zero_iff, length, List.length_eq_zero_iff]

/-- Without a batch in work nothing but a tick does anything, except that the store's clock goes. -/
lemma run_idle (resolve : String → Option Shape) {c : Course Drill} (idle : c.work = none)
    {es : List Event} (inner : ∀ e ∈ es, e.isInner = true) :
    (run resolve c es).work = none ∧ (run resolve c es).world.store = c.world.store ∧
      ticks resolve c es = [] := by
  induction es generalizing c with
  | nil => exact ⟨idle, rfl, rfl⟩
  | cons e es ih =>
    have behind := fun {c : Course Drill} idle =>
      ih (c := c) idle fun e mem => inner e (List.mem_cons_of_mem _ mem)
    cases e with
    | tick | conclude => cases inner _ List.mem_cons_self
    | pass now => exact behind (c := step resolve c (.pass now)) idle
    | move m =>
      have same : step resolve c (.move m) = c := by
        simp only [step, Event.toCourse, Course.step, idle]
      have none : c.over? (surroundings resolve) (.move m) = none := rfl
      rw [run, List.foldl_cons, same, ticks, List.map_cons, Course.ticks, Event.toCourse, none]
      show _ ∧ _ ∧ _ ++ Course.ticks _ (step resolve c (.move m)) _ = _
      rw [same]
      exact behind idle

/-- What has become of a tick that began in the course `c₀` and of which other events have led to
the course `c`: it was skipped, or it failed to fetch, or its batch goes on until it is done. The
ticks that were over before are `past`, and those that are over now `log`. -/
inductive Goes (resolve : String → Option Shape) (past : List (Tick × Results))
    (c₀ c : Course Drill) : List (Tick × Results) → Prop where
  | skipped :
    (c₀.publisher.skips (surroundings resolve) c₀.world).1 = true →
    c.work = none →
    c.world.store = c₀.world.store →
    Goes resolve past c₀ c (past ++ [(.skipped, [])])
  | unfetched {e} :
    (c₀.publisher.skips (surroundings resolve) c₀.world).1 = false →
    c₀.world.script.fault c₀.world.calls = some e →
    c.work = none →
    c.world.store = c₀.world.store →
    Goes resolve past c₀ c (past ++ [(.failed (.store e), [])])
  | working {b c₁} :
    (c₀.publisher.skips (surroundings resolve) c₀.world).1 = false →
    c₀.world.script.fault c₀.world.calls = none →
    c₁ = step resolve c₀ .tick →
    c₁.world.store = c₀.world.store →
    c.work = some (true, b) →
    (∃ (ms : List Batch.Move) (b' : Batch),
      (run resolve c (ms.map .move)).work = some (true, b') ∧ b'.isDone = true) →
    (b.isDone = true → Handled resolve c₁ c (due c₀) b ∧
      (step resolve c .conclude).work = none ∧
      ticks resolve c [.conclude] = [(b.results.tick, b.results)]) →
    Goes resolve past c₀ c past

/-- A record in a store that never fails, with a broker that crashes at its first message. -/
def brittle : Drill where
  script := ⟨fun _ => .epoch, fun n _ _ => if n = 0 then .crash else .ok (), fun _ => none⟩
  store := lone
  now := .epoch

end Drill

end Outbox
