import Mathlib.Algebra.GroupWithZero.Nat
import Outbox.Proofs.Publisher

/-!
# Calls without interruption

A tick finishes one record of its batch after another. That is one of the schedules of the batch, so
what a tick does is one of the courses of its publisher, and so is what a batch does without regard
to the breaker. `run_calls` says so of any number of these calls in any order.
-/

namespace Outbox.Publisher

variable {ω : Type} {p : Surroundings ω} {delay : Time.Span}

/-- How many steps a worker at a stage has left at most. -/
def Stage.left : Stage → Nat
  | .looking => 4
  | .publishing _ _ => 3
  | .remembering => 2
  | .writing _ _ => 1
  | .finished _ => 0

/-- A worker is finished when it has no step left. -/
lemma Worker.isFinished_iff {k : Worker} : k.isFinished = true ↔ k.stage.left = 0 := by
  obtain ⟨r, stage⟩ := k
  cases stage <;> simp [isFinished, Stage.left]

/-- Each step of a worker leaves it one step less. -/
lemma Worker.Step.left_le {r stage win w stage' win' w'}
    (st : Worker.Step p delay r stage win w stage' win' w') : stage'.left ≤ stage.left - 1 := by
  have routed : (route p.resolve r).left ≤ 3 := by
    obtain ⟨reason, e⟩ | ⟨m, s, -, -, e⟩ := route_inv p.resolve r <;> simp [e, Stage.left]
  cases st with
  | skipped | unknown => exact routed
  | _ => simp [Stage.left]

/-- Some steps of a worker leave it as many steps less. -/
lemma Worker.left_run (n : Nat) (k : Worker) (win : Option Window) (w : ω) :
    (Worker.run p delay n k win w).1.stage.left ≤ k.stage.left - n := by
  induction n generalizing k win w with
  | zero => exact Nat.le_refl _
  | succ n ih =>
    unfold Worker.run
    generalize st : k.step p delay win w = next
    obtain ⟨k', win', w'⟩ := next
    have le := ih k' win' w'
    have less := (Worker.step_inv st).2.left_le
    simp only
    omega

/-- A worker that is finished rests. -/
lemma Worker.run_finished {k : Worker} (fin : k.isFinished = true) (n : Nat) (win : Option Window)
    (w : ω) : Worker.run p delay n k win w = (k, win, w) := by
  obtain ⟨r, stage⟩ := k
  cases stage with
  | finished result =>
    induction n with
    | zero => rfl
    | succ n ih => exact ih
  | _ => cases fin

/-- A worker that is finished has a result. -/
lemma Worker.exists_result {k : Worker} (fin : k.isFinished = true) :
    ∃ result, k.result? = some result := by
  obtain ⟨r, stage⟩ := k
  cases stage with
  | finished result => exact ⟨result, rfl⟩
  | _ => cases fin

namespace Batch

variable {places : Nat}

/-- The moves of one schedule and then those of another. -/
lemma run_append (ms ms' : List Move) (b : Batch) (win : Option Window) (w : ω) :
    run p delay places (ms ++ ms') b win w =
      let (b', win', w') := run p delay places ms b win w
      run p delay places ms' b' win' w' := by
  induction ms generalizing b win w with
  | nil => rfl
  | cons m ms ih => exact ih ..

/-- Without an active worker there is none that takes a step. -/
lemma run_idle (waiting : List Record) (finished : List Worker) (n : Nat) (win : Option Window)
    (w : ω) :
    run p delay places (List.replicate n (.advance 0)) ⟨waiting, [], finished⟩ win w =
      (⟨waiting, [], finished⟩, win, w) := by
  induction n with
  | zero => rfl
  | succ n ih => exact ih

/-- The only active worker takes the steps that it takes by itself. -/
lemma run_alone {k : Worker} (waiting : List Record) (finished : List Worker) (n : Nat)
    (win : Option Window) (w : ω) (busy : k.isFinished = false) :
    run p delay places (List.replicate n (.advance 0)) ⟨waiting, [k], finished⟩ win w =
      let (k', win', w') := Worker.run p delay n k win w
      (if k'.isFinished then ⟨waiting, [], finished ++ [k']⟩ else ⟨waiting, [k'], finished⟩,
        win', w') := by
  induction n generalizing k win w with
  | zero => simp [run, Worker.run, busy]
  | succ n ih =>
    simp only [List.replicate_succ, run, move, advance, Worker.run, List.getElem?_cons_zero]
    cases fin : (k.step p delay win w).1.isFinished with
    -- Moves that are left over find no worker, and steps that are left over change none.
    | true => simp [Worker.run_finished fin, run_idle, fin]
    | false => exact ih _ _ fin

/-- If there is a place at all, the first record that waits can be taken to its outcome at once. -/
lemma run_first (p : Surroundings ω) (delay : Time.Span) (room : 0 < places) (r : Record)
    (waiting : List Record) (finished : List Worker) (win : Option Window) (w : ω) :
    ∃ k result, k.result? = some result ∧
      run p delay places (.start :: List.replicate Worker.stepsToFinish (.advance 0))
        ⟨r :: waiting, [], finished⟩ win w =
          (⟨waiting, [], finished ++ [k]⟩, (handle p delay r win w).2) ∧
      (handle p delay r win w).1 = result := by
  have left : (Worker.run p delay Worker.stepsToFinish ⟨r, .looking⟩ win w).1.stage.left ≤ 0 :=
    Worker.left_run ..
  have started : start ⟨r :: waiting, [], finished⟩ places = ⟨waiting, [⟨r, .looking⟩], finished⟩ :=
    if_pos room
  unfold handle run move
  simp only [started]
  rw [run_alone _ _ _ _ _ rfl]
  generalize Worker.run p delay Worker.stepsToFinish ⟨r, .looking⟩ win w = next at left
  obtain ⟨k, win', w'⟩ := next
  have fin := Worker.isFinished_iff.2 (Nat.le_zero.1 left)
  obtain ⟨result, done⟩ := Worker.exists_result fin
  exact ⟨k, result, done, by simp [fin], by simp [done]⟩

/-- The schedule that finishes one record after another. -/
def inTurn (rs : List Record) : List Move :=
  rs.flatMap fun _ => .start :: List.replicate Worker.stepsToFinish (.advance 0)

/-- If there is a place at all, records can be taken to their outcomes one after another. -/
lemma run_inTurn (p : Surroundings ω) (delay : Time.Span) (room : 0 < places) (rs : List Record)
    (finished : List Worker) (win : Option Window) (w : ω) :
    ∃ ks, run p delay places (inTurn rs) ⟨rs, [], finished⟩ win w =
        (⟨[], [], finished ++ ks⟩, (handleAll p delay rs win w).2) ∧
      ks.filterMap Worker.result? = (handleAll p delay rs win w).1 := by
  induction rs generalizing finished win w with
  | nil => exact ⟨[], by simp [inTurn, run, handleAll], rfl⟩
  | cons r rs ih =>
    obtain ⟨k, result, done, first, same⟩ := run_first p delay room r rs finished win w
    obtain ⟨ks, all, results⟩ := ih (finished ++ [k]) (handle p delay r win w).2.1
      (handle p delay r win w).2.2
    refine ⟨k :: ks, ?_, ?_⟩
    · rw [inTurn, List.flatMap_cons, run_append, first]
      rw [List.append_assoc] at all
      exact all
    · rw [List.filterMap_cons_some done, results, ← same]
      rfl

/-- How many moves a batch has left at most. -/
def left (b : Batch) : Nat :=
  6 * b.waiting.length + (b.active.map fun k => k.stage.left + 1).sum

/-- A batch is nearer to its end when a record is started. -/
lemma left_start_lt {b : Batch} {r rs} (waiting : b.waiting = r :: rs)
    (room : b.active.length < places) : (b.start places).left < b.left := by
  simp only [start, waiting, room, if_true, left, List.map_append, List.map_cons, List.map_nil,
    List.sum_append, List.sum_cons, List.sum_nil, List.length_cons, Stage.left]
  omega

/-- A batch is nearer to its end when a worker takes a step. -/
lemma left_advance_lt {b b' : Batch} {i : Nat} {k : Worker} {win win' : Option Window} {w w' : ω}
    (here : b.active[i]? = some k) (st : b.advance p delay i win w = (b', win', w')) :
    b'.left < b.left := by
  obtain ⟨k', -, taken, waiting, stay⟩ := advance_some here st
  have less := taken.left_le
  obtain ⟨lt, get⟩ := List.getElem?_eq_some_iff.1 here
  have parts : b.active = b.active.take i ++ k :: b.active.drop (i + 1) := by simp [← get]
  have before := congrArg (fun ks : List Worker => (ks.map fun k => k.stage.left + 1).sum) parts
  simp only [List.map_append, List.map_cons, List.sum_append, List.sum_cons] at before
  obtain ⟨busy, active, -⟩ | ⟨-, active, -⟩ := stay
  -- A worker that is not finished had more than one step left.
  · have more : k'.stage.left ≠ 0 := fun none => by simp [Worker.isFinished_iff.2 none] at busy
    rw [left, left, waiting, active, List.set_eq_take_append_cons_drop, if_pos lt]
    simp only [List.map_append, List.map_cons, List.sum_append, List.sum_cons]
    omega
  · rw [left, left, waiting, active, List.eraseIdx_eq_take_drop_succ]
    simp only [List.map_append, List.sum_append]
    omega

/-- If there is a place at all, some move brings a batch nearer to its end. -/
lemma exists_left_move_lt (p : Surroundings ω) (delay : Time.Span) (room : 0 < places) (b : Batch)
    (unfinished : b.isDone = false) (win : Option Window) (w : ω) :
    ∃ m, (b.move p delay places m win w).1.left < b.left := by
  obtain ⟨waiting, active, finished⟩ := b
  cases active with
  | nil =>
    cases waiting with
    | nil => cases unfinished
    | cons r rs => exact ⟨.start, left_start_lt rfl room⟩
  | cons k ks => exact ⟨.advance 0, left_advance_lt (i := 0) rfl rfl⟩

/-- A move that does anything at all brings a batch nearer to its end. -/
lemma move_eq_or_left_lt (p : Surroundings ω) (delay : Time.Span) (places : Nat) (b : Batch)
    (m : Move) (win : Option Window) (w : ω) :
    (b.move p delay places m win w).1 = b ∨ (b.move p delay places m win w).1.left < b.left := by
  cases m with
  | start =>
    cases waiting : b.waiting with
    | nil => exact .inl (by simp only [move, start, waiting])
    | cons r rs =>
      by_cases room : b.active.length < places
      · exact .inr (left_start_lt waiting room)
      · exact .inl (by simp only [move, start, waiting, room, if_false])
  | advance i =>
    cases here : b.active[i]? with
    | none => exact .inl (advance_none here rfl).1
    | some k => exact .inr (left_advance_lt here rfl)

/-- If there is a place at all, every batch can be brought to its end. -/
lemma exists_isDone (p : Surroundings ω) (delay : Time.Span) (room : 0 < places) (b : Batch)
    (win : Option Window) (w : ω) :
    ∃ ms, (run p delay places ms b win w).1.isDone = true := by
  induction left : b.left using Nat.strongRecOn generalizing b win w with
  | ind n ih =>
    cases done : b.isDone with
    | true => exact ⟨[], done⟩
    | false =>
      obtain ⟨m, less⟩ := exists_left_move_lt p delay room b done win w
      obtain ⟨ms, ends⟩ := ih _ (left ▸ less) _ (b.move p delay places m win w).2.1
        (b.move p delay places m win w).2.2 rfl
      exact ⟨m :: ms, ends⟩

/-- No more workers are active than there are places. -/
lemma length_active_run (ms : List Move) {b : Batch} (inside : b.active.length ≤ places)
    (win : Option Window) (w : ω) :
    (run p delay places ms b win w).1.active.length ≤ places := by
  induction ms generalizing b win w with
  | nil => exact inside
  | cons m ms ih =>
    refine ih ?_ _ _
    cases m with
    | start =>
      show (b.start places).active.length ≤ places
      unfold start
      split
      · exact inside
      · split
        · simp only [List.length_append, List.length_singleton]
          omega
        · exact inside
    | advance i =>
      show (b.advance p delay i win w).1.active.length ≤ places
      unfold advance
      split
      · exact inside
      · simp only
        split
        · exact Nat.le_trans (List.length_eraseIdx_le ..) inside
        · exact Nat.le_trans (Nat.le_of_eq (List.length_set ..)) inside

end Batch

namespace Course

/-- A course goes through the moves of a schedule as its batch does. -/
lemma run_moves (ms : List Batch.Move) (c : Course ω) {ticking b}
    (work : c.work = some (ticking, b)) :
    ∃ taken, run p c (ms.map .move) =
      let (b', window, world) :=
        b.run p c.publisher.retryDelay c.places ms c.publisher.window c.world
      { publisher := { c.publisher with window }, world, work := some (ticking, b'),
        taken := c.taken ++ taken } := by
  induction ms generalizing c b with
  | nil =>
    refine ⟨[], ?_⟩
    simp [run, Batch.run, ← work]
  | cons m ms ih =>
    obtain ⟨taken, rest⟩ := ih (c.move p ticking b m) rfl
    have here : c.step p (.move m) = c.move p ticking b m := by
      unfold step
      simp only [work]
    refine ⟨(takesIn p b c.world m).toList.map (·, (c.move p ticking b m).world) ++ taken, ?_⟩
    show run p (c.step p (.move m)) _ = _
    rw [here, rest]
    simp only [Course.move, Batch.run, List.append_assoc]
    rfl

/-- A course can finish its batch one record after another. -/
lemma run_working (c : Course ω) (room : 0 < c.places) {ticking rs}
    (work : c.work = some (ticking, { waiting := rs })) :
    ∃ b taken, b.isDone = true ∧
      b.results = (handleAll p c.publisher.retryDelay rs c.publisher.window c.world).1 ∧
      run p c ((Batch.inTurn rs).map .move) =
        let (window, world) :=
          (handleAll p c.publisher.retryDelay rs c.publisher.window c.world).2
        { publisher := { c.publisher with window }, world, work := some (ticking, b),
          taken := c.taken ++ taken } := by
  obtain ⟨ks, all, results⟩ := Batch.run_inTurn p c.publisher.retryDelay room rs []
    c.publisher.window c.world
  obtain ⟨taken, moved⟩ := run_moves (p := p) (Batch.inTurn rs) c work
  rw [all] at moved
  exact ⟨⟨[], [], ks⟩, taken, rfl, results, moved⟩

/-- Among the courses of a publisher, in which nothing happens elsewhere, is one that leads to what
it comes to without interruption. -/
def Contains (p : Surroundings ω) (q : Publisher) (w : ω) (next : Publisher × ω) : Prop :=
  ∀ taken, ∃ es new, (∀ change, .elsewhere change ∉ es) ∧
    run p { publisher := q, world := w, taken } es =
      { publisher := next.1, world := next.2, taken := taken ++ new }

/-- A call that begins with a batch can finish one record after another and then end. -/
lemma contains_of_begun {q q' : Publisher} {w w' : ω} {ticking rs next} (first : Event ω)
    (inside : ∀ change, first ≠ .elsewhere change) (room : 0 < q'.settings.parallelism.toNat)
    (begun : ∀ taken, step p { publisher := q, world := w, taken } first =
      { publisher := q', world := w', work := some (ticking, { waiting := rs }), taken })
    (ended : ∀ b : Batch, b.results = (handleAll p q'.retryDelay rs q'.window w').1 → ∀ taken,
      conclude p
        { publisher := { q' with window := (handleAll p q'.retryDelay rs q'.window w').2.1 }
          world := (handleAll p q'.retryDelay rs q'.window w').2.2
          work := some (ticking, b), taken } ticking b =
        { publisher := next.1, world := next.2, taken }) :
    Contains p q w next := by
  intro taken
  obtain ⟨b, new, done, results, worked⟩ := run_working (p := p)
    { publisher := q', world := w', work := some (ticking, { waiting := rs }), taken } room rfl
  refine ⟨first :: ((Batch.inTurn rs).map .move ++ [.conclude]), new, fun change => ?_, ?_⟩
  · simp [Ne.symm (inside change)]
  · show run p (step p _ first) _ = _
    rw [begun, run, List.foldl_append]
    show step p (run p _ _) .conclude = _
    rw [worked]
    exact (if_pos done).trans (ended b results _)

end Course

/-- All of a publisher that never changes: its settings and the spans that they stand for. -/
def design (q : Publisher) : Settings × Time.Span × Time.Span :=
  (q.settings, q.retryDelay, q.breakerReset)

/-- Asking the breaker leaves the design as it is, and so does every other part of a tick. -/
lemma design_skips (p : Surroundings ω) (q : Publisher) (w : ω) :
    (q.skips p w).2.1.design = q.design := by
  unfold skips
  split
  · show (if _ then _ else _ : Publisher).design = _
    split <;> rfl
  · rfl

/-- A purge changes nothing that a publisher was built with. -/
lemma design_purge (p : Surroundings ω) (q : Publisher) (w : ω) :
    (q.purge p w).1.design = q.design := by
  unfold purge
  split <;> rfl

/-- Noting a failure changes nothing that a publisher was built with. -/
lemma design_recordFailure (p : Surroundings ω) (q : Publisher) (w : ω) :
    (q.recordFailure p w).1.design = q.design := by
  unfold recordFailure
  simp only
  split <;> rfl

/-- The end of a batch changes nothing that a publisher was built with. -/
lemma design_conclude (p : Surroundings ω) (q : Publisher) (report : Report)
    (failure : Option Failure) (w : ω) :
    (q.conclude p report failure w).2.1.design = q.design := by
  unfold conclude
  cases failure with
  | none => rfl
  | some f => exact design_recordFailure ..

/-- The begin of a tick changes nothing that a publisher was built with. -/
lemma design_beginTick (p : Surroundings ω) (q : Publisher) (w : ω) :
    (beginTick p q w).2.1.design = q.design := by
  have asked := design_skips p q w
  unfold beginTick
  generalize q.skips p w = next at asked
  obtain ⟨_ | _, q₁, w₁⟩ := next
  · have purged := design_purge p q₁ w₁
    simp only
    generalize q₁.purge p w₁ = next at purged
    obtain ⟨q₂, w₂⟩ := next
    simp only
    generalize q₂.fetch p w₂ = fetched
    obtain ⟨e | records, w₃⟩ := fetched
    · have concluded := design_conclude p q₂ {} (some (.store e)) w₃
      exact concluded.trans (purged.trans asked)
    · exact purged.trans asked
  · exact asked

/-- Of a publisher that has a place at all, a tick is one of its courses. -/
lemma contains_tick (p : Surroundings ω) (q : Publisher) (room : 0 < q.settings.parallelism.toNat)
    (w : ω) : Course.Contains p q w (q.tick p w).2 := by
  have settings : (q.skips p w).2.1.settings = q.settings :=
    congrArg Prod.fst (design_skips p q w)
  unfold tick
  generalize sk : q.skips p w = asked at settings
  obtain ⟨skips, q₁, w₁⟩ := asked
  cases skips with
  | true =>
    refine fun taken => ⟨[.tick], [], by simp, ?_⟩
    simp [Course.run, Course.step, Course.tick, beginTick, sk]
  | false =>
    have settings' : (q₁.purge p w₁).1.settings = q₁.settings :=
      congrArg Prod.fst (design_purge p q₁ w₁)
    simp only [runBatch]
    generalize pg : q₁.purge p w₁ = purged at settings'
    obtain ⟨q₂, w₂⟩ := purged
    rw [← settings, ← settings'] at room
    generalize ft : q₂.fetch p w₂ = fetched
    obtain ⟨e | records, w₃⟩ := fetched
    · refine fun taken => ⟨[.tick], [], by simp, ?_⟩
      simp [Course.run, Course.step, Course.tick, beginTick, sk, pg, ft]
    · have begun taken : Course.step p { publisher := q, world := w, taken } .tick =
          { publisher := q₂, world := w₃, work := some (true, { waiting := records }), taken } := by
        simp [Course.step, Course.tick, beginTick, sk, pg, ft]
      refine Course.contains_of_begun .tick (by simp) room begun fun b results taken => ?_
      simp [Course.conclude, results]

/-- Of a publisher that has a place at all, a batch without regard to the breaker is one of its
courses. -/
lemma contains_processBatch (p : Surroundings ω) (q : Publisher)
    (room : 0 < q.settings.parallelism.toNat) (w : ω) :
    Course.Contains p q w (q.processBatch p w).2 := by
  have settings : (q.purge p w).1.settings = q.settings := congrArg Prod.fst (design_purge p q w)
  simp only [processBatch, runBatch]
  generalize pg : q.purge p w = purged at settings
  obtain ⟨q₁, w₁⟩ := purged
  rw [← settings] at room
  generalize ft : q₁.fetch p w₁ = fetched
  obtain ⟨e | records, w₂⟩ := fetched
  · refine fun taken => ⟨[.process], [], by simp, ?_⟩
    simp [Course.run, Course.step, Course.process, pg, ft]
  · have begun taken : Course.step p { publisher := q, world := w, taken } .process =
        { publisher := q₁, world := w₂, work := some (false, { waiting := records }), taken } := by
      simp [Course.step, Course.process, pg, ft]
    refine Course.contains_of_begun .process (by simp) room begun fun b _ taken => ?_
    simp [Course.conclude]

namespace Course

/-- No event changes the design. -/
lemma design_step (p : Surroundings ω) (c : Course ω) (e : Event ω) :
    (c.step p e).publisher.design = c.publisher.design := by
  unfold step
  split
  · have begun := design_beginTick p c.publisher c.world
    unfold tick
    split <;> next called =>
      rw [called] at begun
      exact begun
  · have purged := design_purge p c.publisher c.world
    unfold process
    simp only
    split <;> exact purged
  · rfl
  · split
    · unfold conclude
      split
      · exact design_conclude ..
      · rfl
    · rfl
  · rfl
  · rfl

/-- No run changes the design. -/
lemma design_run (p : Surroundings ω) (c : Course ω) (es : List (Event ω)) :
    (c.run p es).publisher.design = c.publisher.design := by
  induction es generalizing c with
  | nil => rfl
  | cons e es ih =>
    rw [run, List.foldl_cons]
    exact (ih (c.step p e)).trans (c.design_step p e)

/-- A run leaves the settings as they are. -/
lemma settings_run (p : Surroundings ω) (c : Course ω) (es : List (Event ω)) :
    (c.run p es).publisher.settings = c.publisher.settings :=
  congrArg Prod.fst (c.design_run p es)

variable {q q' : Publisher} {w w' : ω}

/-- Nothing happens in a course without events. -/
lemma Contains.refl (p : Surroundings ω) (q : Publisher) (w : ω) : Contains p q w (q, w) := by
  intro taken
  exact ⟨[], [], by simp, by simp [run]⟩

/-- One course can go on with another one. -/
lemma Contains.trans {next} (first : Contains p q w (q', w')) (second : Contains p q' w' next) :
    Contains p q w next := by
  intro taken
  obtain ⟨es, new, inside, here⟩ := first taken
  obtain ⟨es', new', inside', there⟩ := second (taken ++ new)
  refine ⟨es ++ es', new ++ new', fun change mem => ?_, ?_⟩
  · exact (List.mem_append.1 mem).elim (inside change) (inside' change)
  · rw [run, List.foldl_append]
    show run p (run p _ es) es' = _
    rw [here, there, List.append_assoc]

/-- A course leads to a publisher with the same settings. -/
lemma Contains.settings {next} (ct : Contains p q w next) : next.1.settings = q.settings := by
  obtain ⟨es, new, -, here⟩ := ct []
  have same := settings_run p { publisher := q, world := w } es
  rw [here] at same
  exact same

end Course

/-- A publisher that was built has a place at all. -/
lemma room_of_build {s : Settings} {q : Publisher} (built : build s = .ok q) :
    0 < q.settings.parallelism.toNat := by
  obtain ⟨_, _, _, valid, -, -, -, rfl⟩ := build_inv built
  exact Settings.places_of_validate valid

/-- A call that a publisher goes through without interruption. -/
inductive Call
  | tick
  /-- A batch without regard to the breaker. -/
  | process

/-- What a publisher and its world come to by a call. -/
def Call.run (p : Surroundings ω) (x : Publisher × ω) : Call → Publisher × ω
  | .tick => (x.1.tick p x.2).2
  | .process => (x.1.processBatch p x.2).2

/-- Of a publisher that has a place at all, a call is one of its courses. -/
lemma Call.contains_run (p : Surroundings ω) (call : Call) {q : Publisher}
    (room : 0 < q.settings.parallelism.toNat) (w : ω) :
    Course.Contains p q w (call.run p (q, w)) := by
  cases call with
  | tick => exact contains_tick p q room w
  | process => exact contains_processBatch p q room w

/-- Of a publisher that was built, any ticks and batches one after another make one of its courses.
-/
theorem run_calls (p : Surroundings ω) {s : Settings} {q : Publisher} (built : build s = .ok q)
    (calls : List Call) (w : ω) : Course.Contains p q w (calls.foldl (Call.run p) (q, w)) := by
  have room := room_of_build built
  clear built
  induction calls generalizing q w with
  | nil => exact .refl p q w
  | cons call calls ih =>
    have first := call.contains_run p room w
    -- The settings do not change, so there is still a place for what comes next.
    have room' : 0 < (call.run p (q, w)).1.settings.parallelism.toNat := by
      rw [first.settings]
      exact room
    exact first.trans (ih _ room')

end Outbox.Publisher
