import Outbox.Proofs.Drill.Tick
import Outbox.Proofs.Store.Tries

/-!
# The store runs dry

Nothing is relayed forever. If no call to the store fails and the broker does not crash, a worker
ends with its record published, put off or given up, and in each case the record has fewer tries
left (`Lot.spends`). So has the store after each tick that fetched anything (`Works.lowered`). The
main statement `run_drains` says of whole courses that after as many ticks as there were tries the
store has nothing left to be relayed, and that the broker is not asked to take a record more often
than it may fail.
-/

namespace Outbox.Drill
open Publisher (Batch Course Fate Outcome Results Stage Tick Worker)

/-- No call to the store fails and the broker does not crash, whatever else it answers. -/
structure Script.Sound (s : Script) : Prop where
  answer : ∀ n m sh, s.answer n m sh ≠ .crash
  fault : ∀ n, s.fault n = none

/-- What happens in a drill whose script is sound, while the store's clock shows nothing to which
the delay of a retry cannot be added. -/
def Chances.sound (delay : Time.Span) : Chances where
  watch _ := True
  now now := (now.add? delay).isSome = true
  answer _ _ answer := answer ≠ .crash
  fault fault := fault = none

/-- A sound script holds nothing but what may happen in a sound drill. -/
lemma Script.Sound.cover {d : Drill} (sound : d.script.Sound) {delay : Time.Span}
    (within : (d.now.add? delay).isSome = true) : (Chances.sound delay).Cover d where
  watch _ := trivial
  now := within
  answer := sound.answer
  fault := sound.fault

/-- If an event is the begin of a tick, every record has waited out its last failure. While a tick
is in work the store's clock shows nothing to which the delay of a retry cannot be added. -/
def Suits (c : Course Drill) : Event → Prop
  | .tick => c.work = none → (∀ r ∈ c.world.store.records.items, r.isDue c.world.now = true) ∧
      (c.world.now.add? c.publisher.retryDelay).isSome = true
  | .pass now => c.work ≠ none → (now.add? c.publisher.retryDelay).isSome = true
  | .move _ | .conclude => True

instance Suits.decidable (c : Course Drill) : (e : Event) → Decidable (Suits c e)
  | .tick => inferInstanceAs (Decidable (_ → _))
  | .pass _ => inferInstanceAs (Decidable (_ → _))
  | .move _ | .conclude => .isTrue trivial

/-- Every one of some events suits the course in which it happens. -/
def Ready (resolve : String → Option Shape) : Course Drill → List Event → Prop
  | _, [] => True
  | c, e :: es => Suits c e ∧ Ready resolve (step resolve c e) es

instance Ready.decidable (resolve : String → Option Shape) :
    (c : Course Drill) → (es : List Event) → Decidable (Ready resolve c es)
  | _, [] => .isTrue trivial
  | c, e :: es => @instDecidableAnd _ _ _ (Ready.decidable resolve (step resolve c e) es)

/-- Events are ready together just when the first ones are, and then the others after them. -/
lemma Ready.append {resolve : String → Option Shape} {c : Course Drill} {es es' : List Event}
    (ready : Ready resolve c (es ++ es')) :
    Ready resolve c es ∧ Ready resolve (run resolve c es) es' := by
  induction es generalizing c with
  | nil => exact ⟨trivial, ready⟩
  | cons e es ih =>
    obtain ⟨suits, rest⟩ := ready
    obtain ⟨front, behind⟩ := ih rest
    exact ⟨⟨suits, front⟩, behind⟩

variable {resolve : String → Option Shape} {delay : Time.Span} {ceiling : UInt32}

/-- Whatever is written of a record that is to be relayed, it has fewer tries left. -/
lemma spends_of_rewrite {r : Record} (eligible : r.isEligible ceiling = true) (fate : Fate)
    {now : Time.Instant} (later : (now.add? delay).isSome = true) :
    ∃ r', fate.rewrite delay now r.id (some r) = .ok r' ∧ r.Spends ceiling r' := by
  cases fate with
  | processed => exact ⟨_, rfl, Record.spends_markProcessed eligible now⟩
  | failed reason => exact ⟨_, rfl, Record.spends_markFailed eligible reason now⟩
  | retry reason =>
    obtain ⟨next, here⟩ := Option.isSome_iff_exists.1 later
    refine ⟨r.countRetry reason next, ?_, Record.spends_countRetry eligible reason next⟩
    rw [Fate.rewrite, here]
    rfl

/-- Because of one record the broker is asked at most once. -/
lemma Settles.length_le {x : Chances} {length r entry todo entry' sent}
    (st : Settles x resolve length r entry todo entry' sent) : sent.length ≤ 1 := by
  cases st with
  | known | doomed => exact Nat.zero_le 1
  | asked => exact Nat.le_refl 1

/-- There is something to be written of every record if the broker does not crash. -/
lemma Settles.ne_none {length r entry entry' sent} :
    ¬ Settles (.sound delay) resolve length r entry none entry' sent := by
  intro st
  generalize nothing : (none : Option (Fate × Bool)) = todo at st
  cases st with
  | known | doomed => cases nothing
  | @asked _ _ _ answer _ _ _ _ answered _ =>
    cases answer with
    | ok | error => cases nothing
    | crash => exact answered rfl

/-- The row of a record that is to be relayed stays as it is until its worker is finished. Then the
worker has an outcome, and the record has fewer tries left. -/
lemma Lot.spends {length r entry stage entry' row' sent} (eligible : r.isEligible ceiling = true)
    (lot : Lot (.sound delay) resolve delay length r entry (some r) stage entry' row' sent) :
    sent.length ≤ 1 ∧ ∃ r', row' = some r' ∧ (r' = r ∨ r.Spends ceiling r') ∧
      ∀ result, stage = .finished result → (∃ o, result = .ok o) ∧ r.Spends ceiling r' := by
  cases lot with
  | looking | publishing => exact ⟨Nat.zero_le 1, r, rfl, .inl rfl, nofun⟩
  | remembering => exact ⟨Nat.le_refl 1, r, rfl, .inl rfl, nofun⟩
  | writing settles => exact ⟨settles.length_le, r, rfl, .inl rfl, nofun⟩
  | crashed settles => exact absurd settles Settles.ne_none
  | failed _ fault => cases fault
  | @written fate _ _ _ now settles _ later =>
    obtain ⟨r', written, spends⟩ := spends_of_rewrite eligible fate later
    rw [written]
    refine ⟨settles.length_le, r', rfl, .inr spends, ?_⟩
    rintro _ ⟨⟩
    exact ⟨⟨_, rfl⟩, spends⟩

/-- A publisher has the settings of another one, and its breaker is closed. -/
structure Closed (q q' : Publisher) : Prop where
  opened : q'.breaker.opened = false
  settings : q'.settings = q.settings
  retryDelay : q'.retryDelay = q.retryDelay

/-- A course is between two ticks. Since it started with a publisher and a drill, the broker was
asked what `log` says and the ticks `past` came to their ends. -/
structure Rests (q : Publisher) (d : Drill) (log : List (Identifier × Publish))
    (past : List (Tick × Results)) (c : Course Drill) : Prop where
  idle : c.work = none
  closed : Closed q c.publisher
  sound : c.world.script.Sound
  asked : c.world.asked = d.asked ++ log.map Prod.snd
  spends : d.store.Spends q.settings.retryCeiling (fun id => (askedFor log id).length) c.world.store
  fewer : c.world.store.triesLeft q.settings.retryCeiling ≤
    d.store.triesLeft q.settings.retryCeiling - past.length
  idles : ∀ t ∈ past.drop (d.store.triesLeft q.settings.retryCeiling), t.1 = .idle

/-- A course is in the batch of a tick, which began in the course `c₁` and opened its batch in the
course `c₀`. Before that the broker was asked what `log` says, and since then what `log'` says. -/
structure Works (resolve : String → Option Shape) (q : Publisher) (d : Drill)
    (log : List (Identifier × Publish)) (past : List (Tick × Results)) (c₁ c₀ : Course Drill)
    (log' : List (Identifier × Publish)) (c : Course Drill) (b : Batch) : Prop where
  before : Rests q d log past c₁
  ready : ∀ r ∈ c₁.world.store.records.items, r.isDue c₁.world.now = true
  closed : Closed q c₀.publisher
  asked : c₀.world.asked = c₁.world.asked
  store : c₀.world.store = c₁.world.store
  amid : Amid (.sound q.retryDelay) resolve c₀ (due c₁) log' c b

variable {q : Publisher} {d : Drill} {log log' : List (Identifier × Publish)}
  {past : List (Tick × Results)} {c c₀ c₁ : Course Drill} {b : Batch}

/-- Between two ticks the store's clock may move on. -/
lemma Rests.pass (re : Rests q d log past c) (now : Time.Instant) :
    Rests q d log past (step resolve c (.pass now)) :=
  ⟨re.idle, re.closed, re.sound, re.asked, re.spends, re.fewer, re.idles⟩

/-- A tick fetches, since its breaker is closed and no call to the store fails. -/
lemma Rests.tick (re : Rests q d log past c) (suits : Suits c .tick) :
    Works resolve q d log past c (step resolve c .tick) [] (step resolve c .tick)
        { waiting := due c } ∧
      c.over? (surroundings resolve) .tick = none := by
  obtain ⟨ready, within⟩ := suits re.idle
  have begun := begins resolve re.idle
  have calm : c.world.script.fault c.world.calls = none := re.sound.fault _
  generalize step resolve c .tick = c₀ at begun ⊢
  generalize c.over? (surroundings resolve) .tick = told at begun ⊢
  cases begun with
  | skipped skips => cases re.closed.opened.symm.trans (Publisher.opened_of_skips skips)
  | unfetched _ fault => cases calm.symm.trans fault
  | fetched _ _ opened =>
    obtain ⟨closed, settings, retryDelay⟩ := re.closed
    rw [retryDelay] at within
    obtain ⟨watch, now, answer, fault⟩ := re.sound.cover within
    exact ⟨⟨re, ready, ⟨opened closed, settings, retryDelay⟩, rfl, rfl,
      .start resolve rfl (Store.nodup_fetch ..) ⟨watch, now, answer, fault⟩⟩, rfl⟩

namespace Works

/-- A batch keeps the delay of retries that the publisher started with. -/
lemma retryDelay (w : Works resolve q d log past c₁ c₀ log' c b) :
    c.publisher.retryDelay = q.retryDelay := by
  rw [w.amid.publisher]
  exact w.closed.retryDelay

/-- What the broker was asked before the tick and in it is all that it was asked. -/
lemma asked_eq (w : Works resolve q d log past c₁ c₀ log' c b) :
    c.world.asked = d.asked ++ (log ++ log').map Prod.snd := by
  rw [w.amid.asked, w.asked, w.before.asked, List.map_append, List.append_assoc]

/-- A tick in work goes on with every move and every change of the store's clock. -/
lemma step (w : Works resolve q d log past c₁ c₀ log' c b) {e : Event} (inner : e.isInner = true)
    (suits : Suits c e) :
    ∃ b', Works resolve q d log past c₁ c₀ (log' ++ asksNow c e) (Drill.step resolve c e) b' := by
  have may : ∀ now, e = .pass now → (now.add? q.retryDelay).isSome = true := by
    rintro now rfl
    rw [← w.retryDelay]
    exact suits (by rw [w.amid.busy]; exact nofun)
  obtain ⟨b', am⟩ := w.amid.step inner may
  exact ⟨b', { w with amid := am }⟩

/-- A tick in work goes on with many moves and changes of the store's clock. -/
lemma run (w : Works resolve q d log past c₁ c₀ log' c b) {es : List Event}
    (inner : ∀ e ∈ es, e.isInner = true) (ready : Ready resolve c es) :
    ∃ b', Works resolve q d log past c₁ c₀ (log' ++ attempts resolve c es)
      (Drill.run resolve c es) b' := by
  induction es generalizing c log' b with
  | nil => exact ⟨b, (List.append_nil log').symm ▸ w⟩
  | cons e es ih =>
    obtain ⟨_, w'⟩ := w.step (inner e List.mem_cons_self) ready.1
    rw [attempts, ← List.append_assoc]
    exact ih w' (fun e mem => inner e (List.mem_cons_of_mem _ mem)) ready.2

/-- What the tick fetched is in the store as it was fetched, and may still be tried. -/
lemma row_of_mem_due (w : Works resolve q d log past c₁ c₀ log' c b) {r : Record}
    (mem : r ∈ due c₁) :
    c₁.world.store.get? r.id = some r ∧ r.isEligible q.settings.retryCeiling = true := by
  rw [← w.before.closed.settings]
  exact ⟨Store.get?_of_mem_fetch mem, Store.isEligible_of_mem_fetch mem⟩

/-- What becomes of a record that was fetched, at any stage of its worker. -/
lemma spends_of_fares (w : Works resolve q d log past c₁ c₀ log' c b) {r : Record}
    (mem : r ∈ due c₁) {stage sent}
    (fares : Opening.Fares ⟨due c₁, c₀.publisher.window, c₀.world⟩ (.sound q.retryDelay) resolve
      c.publisher.retryDelay r stage c.publisher.window c.world sent) :
    sent.length ≤ 1 ∧ ∃ r', c.world.store.get? r.id = some r' ∧
      (r' = r ∨ r.Spends q.settings.retryCeiling r') ∧ ∀ result, stage = .finished result →
        (∃ o, result = .ok o) ∧ r.Spends q.settings.retryCeiling r' := by
  obtain ⟨row, eligible⟩ := w.row_of_mem_due mem
  rw [Opening.Fares, w.store, row, w.retryDelay] at fares
  exact fares.spends eligible

/-- Every record that was fetched stays as it is until it has fewer tries left, and all others stay
as they are. -/
lemma row (w : Works resolve q d log past c₁ c₀ log' c b) (id : Identifier) :
    (id ∉ (due c₁).map Record.id ∧ c.world.store.get? id = c₁.world.store.get? id ∧
        askedFor log' id = []) ∨
      ∃ r ∈ due c₁, r.id = id ∧ (askedFor log' id).length ≤ 1 ∧
        ∃ r', c.world.store.get? id = some r' ∧ (r' = r ∨ r.Spends q.settings.retryCeiling r') ∧
          (b.isDone = true → r.Spends q.settings.retryCeiling r') := by
  -- A record of the batch has a worker already, or waits, or is none of the batch.
  by_cases worked : ∃ k ∈ b.workers, k.record.id = id
  · obtain ⟨k, mem, rfl⟩ := worked
    have here : k.record ∈ due c₁ :=
      w.amid.shares.records.mem_iff.1 (List.mem_append_right _ (List.mem_map_of_mem mem))
    obtain ⟨once, r', row, kept, -⟩ := w.spends_of_fares here (w.amid.shares.lots k mem)
    refine .inr ⟨k.record, here, rfl, once, r', row, kept, fun done => ?_⟩
    -- In a batch that is done the worker is finished.
    rw [(Batch.workers_of_isDone done).2] at mem
    obtain ⟨result, -, fares⟩ := (w.amid.shares.ended done).2 k mem
    obtain ⟨-, r'', row', -, ended⟩ := w.spends_of_fares here fares
    cases row.symm.trans row'
    exact (ended result rfl).2
  · obtain ⟨-, same, nothing⟩ := w.amid.shares.rest id fun k mem eq => worked ⟨k, mem, eq⟩
    have same : c.world.store.get? id = c₁.world.store.get? id := w.store ▸ same
    by_cases waits : id ∈ (due c₁).map Record.id
    · obtain ⟨r, mem, rfl⟩ := List.mem_map.1 waits
      have once : (askedFor log' r.id).length ≤ 1 := by
        rw [nothing]
        exact Nat.zero_le 1
      have row := same.trans (w.row_of_mem_due mem).1
      refine .inr ⟨r, mem, rfl, once, r, row, .inl rfl, fun done => ?_⟩
      -- In a batch that is done no record waits.
      obtain ⟨k, here, rfl⟩ := List.mem_map.1 ((w.amid.shares.ended done).1.mem_iff.2 mem)
      rw [(Batch.workers_of_isDone done).2] at worked
      exact absurd ⟨k, here, rfl⟩ worked
    · exact .inl ⟨waits, same, nothing⟩

/-- No record is asked for more often than it may fail. -/
lemma length_le (w : Works resolve q d log past c₁ c₀ log' c b) (id : Identifier) :
    (askedFor log' id).length ≤ c₁.world.store.triesLeftOf q.settings.retryCeiling id := by
  obtain ⟨-, -, nothing⟩ | ⟨r, mem, rfl, once, -⟩ := w.row id
  · rw [nothing]
    exact Nat.zero_le _
  · obtain ⟨row, eligible⟩ := w.row_of_mem_due mem
    rw [Store.triesLeftOf_some row]
    exact Nat.le_trans once (Record.triesLeft_pos eligible)

/-- No record gets more tries, and none fails more often than the ceiling allows. -/
lemma keeps (w : Works resolve q d log past c₁ c₀ log' c b) :
    c₁.world.store.Spends q.settings.retryCeiling (fun _ => 0) c.world.store := by
  refine ⟨?_, fun id => ?_, fun id r found => ?_⟩
  · rw [← w.store]
    exact congrArg Prod.fst w.amid.shares.frame
  · rw [Nat.zero_add]
    obtain ⟨-, same, -⟩ | ⟨r, mem, rfl, -, r', row, kept, -⟩ := w.row id
    · rw [Store.triesLeftOf, same]
      exact Nat.le_refl _
    · rw [Store.triesLeftOf_some row, Store.triesLeftOf_some (w.row_of_mem_due mem).1]
      obtain rfl | spends := kept
      · exact Nat.le_refl _
      · exact Nat.le_of_lt spends.fewer
  · obtain ⟨-, same, -⟩ | ⟨r₀, mem, rfl, -, r', row, kept, -⟩ := w.row id
    · exact ⟨r, same.trans found, Nat.le_max_left ..⟩
    · cases found.symm.trans (w.row_of_mem_due mem).1
      refine ⟨r', row, ?_⟩
      obtain rfl | spends := kept
      · exact Nat.le_max_left ..
      · exact Nat.le_trans spends.below (Nat.le_max_right ..)

/-- When the batch is done, every record that it fetched has fewer tries left. -/
lemma fewer (w : Works resolve q d log past c₁ c₀ log' c b) (done : b.isDone = true)
    {id : Identifier} (mem : id ∈ (due c₁).map Record.id) :
    c.world.store.triesLeftOf q.settings.retryCeiling id <
      c₁.world.store.triesLeftOf q.settings.retryCeiling id := by
  obtain ⟨new, -⟩ | ⟨r, here, rfl, -, r', row, -, ended⟩ := w.row id
  · exact absurd mem new
  · rw [Store.triesLeftOf_some row, Store.triesLeftOf_some (w.row_of_mem_due here).1]
    exact (ended done).fewer

/-- When the batch is done, each request to the broker has cost its record a try. -/
lemma spends (w : Works resolve q d log past c₁ c₀ log' c b) (done : b.isDone = true) :
    c₁.world.store.Spends q.settings.retryCeiling (fun id => (askedFor log' id).length)
      c.world.store := by
  have keeps := w.keeps
  refine ⟨keeps.keys, fun id => ?_, keeps.below⟩
  obtain ⟨-, -, nothing⟩ | ⟨r, mem, rfl, once, -⟩ := w.row id
  · rw [nothing]
    exact keeps.tries id
  · have less := w.fewer done (List.mem_map_of_mem mem)
    omega

/-- When the batch is done the store has at least as many tries less as records were fetched. -/
lemma lowered (w : Works resolve q d log past c₁ c₀ log' c b) (done : b.isDone = true) :
    c.world.store.triesLeft q.settings.retryCeiling + (due c₁).length ≤
      c₁.world.store.triesLeft q.settings.retryCeiling := by
  have lowered := w.keeps.fewer w.amid.shares.distinct fun _ mem => w.fewer done mem
  rw [List.length_map] at lowered
  exact lowered

/-- When the batch is done, no worker has failed. -/
lemma failure?_eq_none (w : Works resolve q d log past c₁ c₀ log' c b) (done : b.isDone = true) :
    b.results.failure? = none := by
  rw [Results.failure?_eq_none_iff]
  intro result mem
  obtain ⟨k, here, told⟩ := List.mem_filterMap.1 mem
  obtain ⟨once, ends⟩ := w.amid.shares.ended done
  obtain ⟨result', told', fares⟩ := ends k here
  cases told.symm.trans told'
  have fetched := once.mem_iff.1 (List.mem_map_of_mem here)
  obtain ⟨-, _, -, -, ended⟩ := w.spends_of_fares fetched fares
  exact (ended result rfl).1

/-- When the batch is done, the tick was idle if it fetched nothing, and else it was processed. -/
lemma tick_eq (w : Works resolve q d log past c₁ c₀ log' c b) (done : b.isDone = true) :
    b.results.tick = if due c₁ = [] then .idle else .processed b.results.report := by
  have none : b.results.report.fetched = 0 ↔ due c₁ = [] := by
    rw [← List.length_eq_zero_iff, ← w.amid.length_results done]
    rfl
  rw [Results.tick, w.failure?_eq_none done]
  exact if_congr none rfl rfl

/-- A tick fetches nothing if and only if no tries are left. -/
lemma due_eq_nil_iff (w : Works resolve q d log past c₁ c₀ log' c b)
    (room : 0 < q.settings.batchSize.toNat) :
    due c₁ = [] ↔ c₁.world.store.triesLeft q.settings.retryCeiling = 0 := by
  rw [due, w.before.closed.settings]
  exact Store.fetch_eq_nil_iff w.ready room

/-- When the batch is done, the store has lost a try for this tick and for every one before. -/
lemma triesLeft_le (w : Works resolve q d log past c₁ c₀ log' c b)
    (room : 0 < q.settings.batchSize.toNat) (done : b.isDone = true) :
    c.world.store.triesLeft q.settings.retryCeiling ≤
      d.store.triesLeft q.settings.retryCeiling - (past.length + 1) := by
  have before := w.before.fewer
  have lowered := w.lowered done
  -- If nothing was fetched there were no tries left before.
  cases here : due c₁ with
  | nil =>
    have none := (w.due_eq_nil_iff room).1 here
    omega
  | cons r rs =>
    rw [here, List.length_cons] at lowered
    omega

/-- When the batch of a tick is done the tick can end, and the course is between two ticks again. -/
lemma conclude (w : Works resolve q d log past c₁ c₀ log' c b)
    (room : 0 < q.settings.batchSize.toNat) (done : b.isDone = true) :
    Rests q d (log ++ log') (past ++ [(b.results.tick, b.results)])
        (Drill.step resolve c .conclude) ∧
      c.over? (surroundings resolve) .conclude = some (b.results.tick, b.results) := by
  obtain ⟨told, breaker, stats, n, ended, kept⟩ := w.amid.ends done
  refine ⟨?_, told⟩
  rw [ended]
  refine ⟨rfl, ?_, ?_, w.asked_eq, ?_, ?_, ?_⟩
  · have same := w.amid.publisher
    refine ⟨(kept (w.failure?_eq_none done)).trans ?_, ?_, ?_⟩ <;> rw [same]
    · exact w.closed.opened
    · exact w.closed.settings
    · exact w.closed.retryDelay
  · exact ⟨w.amid.shares.cover.answer, w.amid.shares.cover.fault⟩
  · have both := w.before.spends.trans (w.spends done)
    simpa only [askedFor_append, List.length_append] using both
  · rw [List.length_append, List.length_singleton]
    exact w.triesLeft_le room done
  · intro t mem
    rw [List.drop_append, List.mem_append] at mem
    obtain before | last := mem
    · exact w.before.idles t before
    · cases left : d.store.triesLeft q.settings.retryCeiling - past.length with
      | succ n =>
        rw [left] at last
        simp at last
      | zero =>
        -- All tries were spent before the tick, so that it fetched nothing.
        rw [left, List.drop_zero, List.mem_singleton] at last
        have none := (w.due_eq_nil_iff room).2 (Nat.le_zero.1 (left ▸ w.before.fewer))
        rw [last, w.tick_eq done, if_pos none]

end Works

/-- What a course has come to: it is between two ticks or in the batch of one. -/
inductive Drains (resolve : String → Option Shape) (q : Publisher) (d : Drill) :
    List (Identifier × Publish) → List (Tick × Results) → Course Drill → Prop where
  | rests {log : List (Identifier × Publish)} {past : List (Tick × Results)} {c : Course Drill} :
    Rests q d log past c →
    Drains resolve q d log past c
  | works {log log' : List (Identifier × Publish)} {past : List (Tick × Results)}
      {c₁ c₀ c : Course Drill} {b : Batch} :
    Works resolve q d log past c₁ c₀ log' c b →
    Drains resolve q d (log ++ log') past c

namespace Drains

/-- A course without a batch in work is between two ticks. -/
lemma rests_of_idle (dr : Drains resolve q d log past c) (idle : c.work = none) :
    Rests q d log past c := by
  cases dr with
  | rests re => exact re
  | works w => cases idle.symm.trans w.amid.busy

/-- Every event leaves a course between two ticks or in the batch of one. -/
lemma step (dr : Drains resolve q d log past c) {e : Event}
    (room : 0 < q.settings.batchSize.toNat) (suits : Suits c e) :
    Drains resolve q d (log ++ asksNow c e)
      (past ++ (c.over? (surroundings resolve) e.toCourse).toList) (Drill.step resolve c e) := by
  -- An event that cannot happen now changes nothing.
  have nothing (same : Drill.step resolve c e = c) (asks : asksNow c e = [])
      (told : c.over? (surroundings resolve) e.toCourse = none) :
      Drains resolve q d (log ++ asksNow c e)
        (past ++ (c.over? (surroundings resolve) e.toCourse).toList) (Drill.step resolve c e) := by
    rw [same, asks, told, Option.toList_none, List.append_nil, List.append_nil]
    exact dr
  cases dr with
  | rests re =>
    have idle := re.idle
    cases e with
    | tick =>
      obtain ⟨w, told⟩ := re.tick suits
      rw [Event.toCourse, told, Option.toList_none, List.append_nil past]
      exact .works w
    | pass now =>
      have told : c.over? (surroundings resolve) (Event.pass now).toCourse = none := rfl
      rw [told, asksNow, Option.toList_none, List.append_nil, List.append_nil]
      exact .rests (re.pass now)
    | move | conclude =>
      refine nothing ?_ ?_ ?_
      · simp only [Drill.step, Event.toCourse, Course.step, idle]
      · simp [asksNow, idle]
      · simp [Course.over?, Event.toCourse, idle]
  | @works _ _ _ _ _ _ b w =>
    have busy := w.amid.busy
    cases e with
    | move | pass =>
      obtain ⟨b', w'⟩ := w.step rfl suits
      rw [w.amid.not_over rfl, Option.toList_none, List.append_nil past, List.append_assoc]
      exact .works w'
    | tick =>
      refine nothing ?_ rfl ?_
      · simp only [Drill.step, Event.toCourse, Course.step, busy]
      · simp [Course.over?, Event.toCourse, busy]
    | conclude =>
      cases done : b.isDone with
      | true =>
        obtain ⟨re, told⟩ := w.conclude room done
        rw [Event.toCourse, told, asksNow, List.append_nil]
        exact .rests re
      | false =>
        refine nothing ?_ rfl ?_
        · simp [Drill.step, Event.toCourse, Course.step, busy, done]
        · simp [Course.over?, Event.toCourse, Course.ends?, busy, done]

/-- However many events suit the course, it is between two ticks or in the batch of one. -/
lemma run (dr : Drains resolve q d log past c) {es : List Event}
    (room : 0 < q.settings.batchSize.toNat) (ready : Ready resolve c es) :
    Drains resolve q d (log ++ attempts resolve c es) (past ++ ticks resolve c es)
      (Drill.run resolve c es) := by
  induction es generalizing c log past with
  | nil =>
    rw [attempts, show ticks resolve c [] = [] from rfl, List.append_nil, List.append_nil]
    exact dr
  | cons e es ih =>
    have rest := ih (dr.step room ready.1) ready.2
    rw [List.append_assoc, List.append_assoc] at rest
    exact rest

/-- Every tick was idle that came after as many others as the store had tries. -/
lemma idles (dr : Drains resolve q d log past c) :
    ∀ t ∈ past.drop (d.store.triesLeft q.settings.retryCeiling), t.1 = .idle := by
  cases dr with
  | rests re => exact re.idles
  | works w => exact w.before.idles

/-- The log is all that the broker was asked. -/
lemma asked (dr : Drains resolve q d log past c) :
    c.world.asked = d.asked ++ log.map Prod.snd := by
  cases dr with
  | rests re => exact re.asked
  | works w => exact w.asked_eq

/-- Every tick that came to its end has cost the store a try, as long as it had any. -/
lemma fewer (dr : Drains resolve q d log past c) :
    c.world.store.triesLeft q.settings.retryCeiling ≤
      d.store.triesLeft q.settings.retryCeiling - past.length := by
  cases dr with
  | rests re => exact re.fewer
  | works w =>
    have le := w.keeps.fewer List.nodup_nil nofun
    exact Nat.le_trans le w.before.fewer

/-- The broker was asked to take no record more often than it might fail. -/
lemma length_le (dr : Drains resolve q d log past c) (id : Identifier) :
    (askedFor log id).length ≤ d.store.triesLeftOf q.settings.retryCeiling id := by
  cases dr with
  | rests re => exact Nat.le_trans (Nat.le_add_right ..) (re.spends.tries id)
  | works w =>
    rw [askedFor_append, List.length_append]
    exact Nat.le_trans (Nat.add_le_add_left (w.length_le id) _) (w.before.spends.tries id)

/-- No record failed more often than the ceiling allows, unless it had before. -/
lemma below (dr : Drains resolve q d log past c) {id : Identifier} {r : Record}
    (found : d.store.get? id = some r) :
    ∃ r', c.world.store.get? id = some r' ∧
      r'.retryCount.toNat ≤ max r.retryCount.toNat q.settings.retryCeiling.toNat := by
  cases dr with
  | rests re => exact re.spends.below found
  | works w => exact (w.before.spends.trans w.keeps).below found

end Drains

/-- A tick that began in the course `c₀` and is in work in the course `c`. It fetched as many of the
records that are to be relayed as it may and can be brought to its end; then the store has at least
as many tries less, and the tick was idle if it fetched nothing. -/
structure Lowers (resolve : String → Option Shape) (c₀ c : Course Drill) (b : Batch) : Prop where
  began : (step resolve c₀ .tick).work = some (true, { waiting := due c₀ })
  fetched : (due c₀).length = min c₀.publisher.settings.batchSize.toNat
    (c₀.world.store.records.items.countP (·.isEligible c₀.publisher.settings.retryCeiling))
  busy : c.work = some (true, b)
  finishes : ∃ (ms : List Batch.Move) (b' : Batch),
    (run resolve c (ms.map .move)).work = some (true, b') ∧ b'.isDone = true
  lowered : b.isDone = true →
    c.world.store.triesLeft c₀.publisher.settings.retryCeiling + (due c₀).length ≤
      c₀.world.store.triesLeft c₀.publisher.settings.retryCeiling
  ended : b.isDone = true → b.results.report.fetched = (due c₀).length ∧
    ticks resolve c [.conclude] =
      [(if due c₀ = [] then .idle else .processed b.results.report, b.results)]

/-- A tick in work lowers the tries that the store has left, once its batch is done. -/
lemma Works.lowers {c₁ : Course Drill} (w : Works resolve q d log past c₀ c₁ log' c b)
    (room : 0 < q.settings.parallelism.toNat)
    (began : (Drill.step resolve c₀ .tick).work = some (true, { waiting := due c₀ })) :
    Lowers resolve c₀ c b := by
  refine ⟨began, Store.length_fetch_of_isDue w.ready _, w.amid.busy, ?_, fun done => ?_,
    fun done => ⟨w.amid.length_results done, ?_⟩⟩
  · refine exists_isDone w.amid.busy ?_
    rw [Course.places, w.amid.publisher]
    show 0 < c₁.publisher.settings.parallelism.toNat
    rw [w.closed.settings]
    exact room
  · rw [w.before.closed.settings]
    exact w.lowered done
  · obtain ⟨told, -⟩ := w.amid.ends done
    rw [← w.tick_eq done]
    simp only [ticks, List.map_cons, Event.toCourse, Course.ticks, told]
    rfl

/-- Every tick that begins between two others lowers the tries that the store has left. -/
lemma Rests.lowers (re : Rests q d log past c) (room : 0 < q.settings.parallelism.toNat)
    {es : List Event} (inner : ∀ e ∈ es, e.isInner = true) (ready : Ready resolve c (.tick :: es)) :
    ∃ b, Lowers resolve c (run resolve c (.tick :: es)) b := by
  obtain ⟨w, -⟩ := re.tick ready.1
  obtain ⟨b, w'⟩ := w.run inner ready.2
  exact ⟨b, w'.lowers room w.amid.busy⟩

/-- A publisher that was just built is between two ticks. -/
lemma rests_start {s : Settings} (built : Publisher.build s = .ok q) (sound : d.script.Sound) :
    Rests q d [] [] (start q d) := by
  obtain ⟨_, _, _, -, -, -, -, rfl⟩ := Publisher.build_inv built
  exact ⟨rfl, ⟨rfl, rfl, rfl⟩, sound, (List.append_nil _).symm, .refl .., Nat.le_refl _, by simp⟩

/-- Let no call to the store fail, let the broker answer whatever it likes but not crash, let every
tick find all records rested, and let the delay of a retry not leave the range of time. Then each
tick of a publisher that was just built fetches as many of the records that are to be relayed as it
may, and leaves the store with at least as many tries less. After as many ticks as the store had
tries every further one is idle, and every record is processed, or failed for good, or as often as
the ceiling allows. The broker was asked to take no record more often than it might still fail, and
none failed more often than the ceiling allows, unless it had before. -/
theorem run_drains {s : Settings} {q : Publisher} (built : Publisher.build s = .ok q)
    (resolve : String → Option Shape) {d : Drill} (sound : d.script.Sound) {es : List Event}
    (ready : Ready resolve (start q d) es) :
    let c := run resolve (start q d) es
    let past := ticks resolve (start q d) es
    let log := attempts resolve (start q d) es
    (∀ before during, es = before ++ .tick :: during → (∀ e ∈ during, e.isInner = true) →
      let c₀ := run resolve (start q d) before
      c₀.work = none → ∃ b, Lowers resolve c₀ c b) ∧
    (∀ t ∈ past.drop (d.store.triesLeft s.retryCeiling), t.1 = .idle) ∧
    (d.store.triesLeft s.retryCeiling ≤ past.length → ∀ r ∈ c.world.store.records.items,
      r.processed = true ∨ r.isDeadLettered = true ∨ s.retryCeiling ≤ r.retryCount) ∧
    c.world.asked = d.asked ++ log.map Prod.snd ∧
    (∀ x ∈ log, (d.store.get? x.1).isSome = true) ∧
    ∀ id r, d.store.get? id = some r →
      (askedFor log id).length ≤ s.retryCeiling.toNat - r.retryCount.toNat ∧
      ∃ r', c.world.store.get? id = some r' ∧
        r'.retryCount.toNat ≤ max r.retryCount.toNat s.retryCeiling.toNat := by
  intro c past log
  -- The measure is the number of tries that the store has left.
  have begun : Drains resolve q d [] [] (start q d) := .rests (rests_start built sound)
  obtain ⟨_, _, _, valid, -, -, -, new⟩ := Publisher.build_inv built
  have same : q.settings = s := congrArg Publisher.settings new
  have room : 0 < q.settings.batchSize.toNat := same ▸ Settings.batchSize_of_validate valid
  have dr := begun.run room ready
  rw [List.nil_append, List.nil_append] at dr
  refine ⟨?_, same ▸ dr.idles, fun long r mem => ?_, dr.asked, fun x mem => ?_,
    fun id r found => ⟨?_, same ▸ dr.below found⟩⟩
  · rintro before during rfl inner c₀ idle
    obtain ⟨front, behind⟩ := ready.append
    have ran : c = run resolve c₀ (.tick :: during) := run_append ..
    rw [ran]
    exact ((begun.run room front).rests_of_idle idle).lowers
      (Publisher.room_of_build built) inner behind
  · have fewer : c.world.store.triesLeft s.retryCeiling ≤
        d.store.triesLeft s.retryCeiling - past.length := same ▸ dr.fewer
    have none : c.world.store.triesLeft s.retryCeiling = 0 := by omega
    exact Record.isEligible_eq_false_iff.1 (Store.triesLeft_eq_zero_iff.1 none r mem)
  · have le := dr.length_le x.1
    cases found : d.store.get? x.1 with
    | some r => rfl
    | none =>
      rw [Store.triesLeftOf, found] at le
      -- A record that is not stored has no tries left, so nobody was asked for it.
      have nothing := List.length_eq_zero_iff.1 (Nat.le_zero.1 le)
      rw [askedFor, List.map_eq_nil_iff, List.filter_eq_nil_iff] at nothing
      exact absurd (decide_eq_true rfl) (nothing x mem)
  · have le := dr.length_le id
    rw [Store.triesLeftOf_some found, same] at le
    exact Nat.le_trans le (r.triesLeft_le s.retryCeiling)

/-- A record in a store that never fails, with a broker that refuses every message. -/
def stubborn : Drill where
  script := ⟨fun _ => .epoch, fun _ _ _ => .error (.unavailable ""), fun _ => none⟩
  store := lone
  now := .epoch

/-- A minute after the start of 1970. -/
def minute : Time.Instant :=
  { Time.Instant.epoch with second := 60, second_lt := by decide }

/-- A record that may fail once is published in the first of two ticks. The second tick is idle, and
the broker is not asked again. -/
theorem run_drains_stubborn :
    ∃ q, Publisher.build { retryCeiling := 1 } = .ok q ∧
      let es := single ++ [.conclude, .pass minute] ++ single ++ [.conclude]
      let c := run goneOnly (start q stubborn) es
      let past := ticks goneOnly (start q stubborn) es
      past.length = 2 ∧ (∀ t ∈ past.drop 1, t.1 = .idle) ∧ c.world.asked.length = 1 ∧
        ∃ r, c.world.store.get? ⟨1⟩ = some r ∧ r.retryCount.toNat ≤ 1 := by
  refine ⟨_, rfl, ?_⟩
  intro es c past
  have sound : stubborn.script.Sound := ⟨fun _ _ _ => nofun, fun _ => rfl⟩
  obtain ⟨-, idles, -, -, -, bounds⟩ := run_drains (s := { retryCeiling := 1 }) rfl goneOnly sound
    (show Ready goneOnly _ es by decide +kernel)
  have left : stubborn.store.triesLeft 1 = 1 := by decide +kernel
  obtain ⟨-, r, row, below⟩ := bounds ⟨1⟩ (gone ⟨1⟩) (by decide +kernel)
  exact ⟨by decide +kernel, left ▸ idles, by decide +kernel, r, row, below⟩

end Outbox.Drill
