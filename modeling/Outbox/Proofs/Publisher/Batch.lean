import Mathlib.Tactic.Lemma
import Outbox.Publisher.Batch

/-!
# The steps of a worker

All that one step of a worker can do, as a relation between stages. Whatever is to be shown of
workers is shown of `Worker.Step`, one constructor at a time, without looking into `Worker.step`.
-/

namespace Outbox.Publisher

variable {ω : Type}

/-- One step of a worker with a record, with what its world answered. -/
inductive Worker.Step (p : Surroundings ω) (delay : Time.Span) (r : Record) :
    Stage → Option Window → ω → Stage → Option Window → ω → Prop where
  /-- Without a window there is nothing to look up. -/
  | skipped {w} :
    Step p delay r .looking none w (route p.resolve r) none w
  | known {now win win' w w'} :
    p.clock w = (now, w') →
    win.lookUp now r.id = (true, win') →
    Step p delay r .looking (some win) w (.writing .processed false) (some win') w'
  | unknown {now win win' w w'} :
    p.clock w = (now, w') →
    win.lookUp now r.id = (false, win') →
    Step p delay r .looking (some win) w (route p.resolve r) (some win') w'
  | taken {m s win w w'} :
    p.publish m s w = (.ok (), w') →
    Step p delay r (.publishing m s) win w .remembering win w'
  | refused {m s win w w' e} :
    p.publish m s w = (.error e, w') →
    Step p delay r (.publishing m s) win w (.writing (.retry e.message) false) win w'
  | crashed {m s win w w'} :
    p.publish m s w = (.crash, w') →
    Step p delay r (.publishing m s) win w (.finished .crash) win w'
  /-- Without a window there is nothing to remember. -/
  | forgotten {w} :
    Step p delay r .remembering none w (.writing .processed true) none w
  | remembered {now win w w'} :
    p.clock w = (now, w') →
    Step p delay r .remembering (some win) w (.writing .processed true)
      (some (win.remember now r.id)) w'
  | written {fate published answer win w w'} :
    p.write delay r.id fate w = (answer, w') →
    Step p delay r (.writing fate published) win w
      (.finished (answer.map fun () => fate.outcome published)) win w'
  | rested {result win w} :
    Step p delay r (.finished result) win w (.finished result) win w

/-- A worker keeps its record and takes one of the steps. -/
lemma Worker.step_inv {p : Surroundings ω} {delay} {k k' : Worker} {win win' : Option Window}
    {w w' : ω} (st : k.step p delay win w = (k', win', w')) :
    k'.record = k.record ∧ Step p delay k.record k.stage win w k'.stage win' w' := by
  -- The stage tells which call is made, and the answer which step was taken.
  obtain ⟨r, stage⟩ := k
  cases stage with
  | looking =>
    cases win with
    | none =>
      cases st
      exact ⟨rfl, .skipped⟩
    | some win =>
      simp only [step] at st
      generalize look : win.lookUp (p.clock w).1 r.id = found at st
      obtain ⟨_ | _, win''⟩ := found
      · cases st
        exact ⟨rfl, .unknown rfl look⟩
      · cases st
        exact ⟨rfl, .known rfl look⟩
  | publishing m s =>
    simp only [step] at st
    split at st
    · next answer =>
      cases st
      exact ⟨rfl, .taken answer⟩
    · next answer =>
      cases st
      exact ⟨rfl, .refused answer⟩
    · next answer =>
      cases st
      exact ⟨rfl, .crashed answer⟩
  | remembering =>
    cases win with
    | none =>
      cases st
      exact ⟨rfl, .forgotten⟩
    | some win =>
      cases st
      exact ⟨rfl, .remembered rfl⟩
  | writing fate published =>
    cases st
    exact ⟨rfl, .written rfl⟩
  | finished result =>
    cases st
    exact ⟨rfl, .rested⟩

/-- A record that was not published lately is dead-lettered at once, or its message is published
under the shape that is found for its tag. -/
lemma route_inv (resolve : String → Option Shape) (r : Record) :
    (∃ reason, route resolve r = .writing (.failed reason) false) ∨
      ∃ m s, resolve r.typeTag = some s ∧ s.decode r.payload = .ok m ∧
        route resolve r = .publishing m s := by
  unfold route
  split
  · exact .inl ⟨_, rfl⟩
  · next s found =>
    split
    · exact .inl ⟨_, rfl⟩
    · next m decoded => exact .inr ⟨m, s, found, decoded, rfl⟩

/-- A worker comes to no outcome only if the broker crashed or the store did not write its fate. -/
lemma Worker.Step.failed {p : Surroundings ω} {delay r stage win w result win' w'}
    (st : Step p delay r stage win w (.finished result) win' w')
    (unfinished : ∀ x, stage ≠ .finished x) (bad : ∀ o, result ≠ .ok o) :
    (∃ m s, stage = .publishing m s ∧ (p.publish m s w).1 = .crash) ∨
      ∃ fate published, stage = .writing fate published ∧
        (p.write delay r.id fate w).1 ≠ .ok () := by
  generalize fin : Stage.finished result = stage' at st
  cases st with
  | crashed pub =>
    left
    exact ⟨_, _, rfl, by rw [pub]⟩
  | written wr =>
    right
    refine ⟨_, _, rfl, fun ok => ?_⟩
    cases fin
    rw [wr] at ok
    cases ok
    exact bad _ rfl
  | rested => exact absurd rfl (unfinished _)
  | skipped | unknown =>
    obtain ⟨_, routed⟩ | ⟨_, _, -, -, routed⟩ := route_inv p.resolve r <;>
      cases fin.trans routed
  | _ => cases fin

/-- In a step a worker crashes if and only if the broker or the store does. -/
lemma Worker.step_crashes_iff (p : Surroundings ω) (delay : Time.Span) {k : Worker}
    (busy : k.isFinished = false) (win : Option Window) (w : ω) :
    (k.step p delay win w).1.stage = .finished .crash ↔
      (∃ m s, k.stage = .publishing m s ∧ (p.publish m s w).1 = .crash) ∨
        ∃ fate published, k.stage = .writing fate published ∧
          (p.write delay k.record.id fate w).1 = .crash := by
  constructor
  · intro crashed
    have unfinished : ∀ x, k.stage ≠ .finished x := by
      intro x fin
      simp [isFinished, fin] at busy
    generalize next : k.step p delay win w = stepped at crashed
    obtain ⟨k', win', w'⟩ := stepped
    obtain ⟨-, taken⟩ := step_inv next
    simp only at crashed
    rw [crashed] at taken
    refine (taken.failed unfinished nofun).imp_right ?_
    rintro ⟨fate, published, writing, -⟩
    refine ⟨fate, published, writing, ?_⟩
    rw [writing] at taken
    -- Of the answers to a write only a crash ends the worker so.
    generalize fin : Stage.finished .crash = stage' at taken
    cases taken with
    | @written _ _ answer _ _ _ wr =>
      rw [wr]
      cases answer with
      | crash => rfl
      | ok | error => cases fin
  · rintro (⟨m, s, publishing, crashed⟩ | ⟨fate, published, writing, crashed⟩)
    · generalize pub : p.publish m s w = answered at crashed
      obtain ⟨_, w'⟩ := answered
      cases crashed
      simp only [step, publishing, pub]
    · simp only [step, writing, crashed, Answer.map]

end Outbox.Publisher

/-!
## The moves of a batch

What one move does to the records that wait and to the workers that are active.
-/

namespace Outbox.Publisher.Batch

variable {ω : Type}

/-- A record is started when it is the first that waits; otherwise nothing changes. -/
lemma start_inv (b : Batch) (places : Nat) :
    b.start places = b ∨
      ∃ r, b.waiting = r :: (b.start places).waiting ∧
        (b.start places).active = b.active ++ [{ record := r }] := by
  unfold start
  split
  · exact .inl rfl
  · next r rs waiting =>
    split
    · exact .inr ⟨r, waiting, rfl⟩
    · exact .inl rfl

variable {p : Surroundings ω} {delay : Time.Span} {b b' : Batch} {i : Nat} {k : Worker}
  {win win' : Option Window} {w w' : ω}

/-- The worker at a place takes a step, after which it is still there or among the finished ones. -/
lemma advance_some (here : b.active[i]? = some k)
    (st : b.advance p delay i win w = (b', win', w')) :
    ∃ k', k'.record = k.record ∧ Worker.Step p delay k.record k.stage win w k'.stage win' w' ∧
      b'.waiting = b.waiting ∧
      (k'.isFinished = false ∧ b'.active = b.active.set i k' ∧ b'.finished = b.finished ∨
        k'.isFinished = true ∧ b'.active = b.active.eraseIdx i ∧
          b'.finished = b.finished ++ [k']) := by
  unfold advance at st
  simp only [here] at st
  generalize next : k.step p delay win w = stepped at st
  obtain ⟨k', win'', w''⟩ := stepped
  obtain ⟨same, taken⟩ := Worker.step_inv next
  simp only at st
  split at st
  · next fin =>
    cases st
    exact ⟨k', same, taken, rfl, .inr ⟨fin, rfl, rfl⟩⟩
  · next busy =>
    cases st
    exact ⟨k', same, taken, rfl, .inl ⟨Bool.eq_false_iff.2 busy, rfl, rfl⟩⟩

/-- A move of a worker that is not there changes nothing. -/
lemma advance_none (none : b.active[i]? = none)
    (st : b.advance p delay i win w = (b', win', w')) : b' = b ∧ win' = win ∧ w' = w := by
  unfold advance at st
  rw [none] at st
  cases st
  exact ⟨rfl, rfl, rfl⟩

/-- A batch changes nothing but itself that the step of its worker does not change. -/
lemma advance_snd (here : b.active[i]? = some k) :
    (b.advance p delay i win w).2 = (k.step p delay win w).2 := by
  unfold advance
  simp only [here]
  split <;> rfl

/-- A batch loses a worker to a crash if and only if its step ends so. -/
lemma advance_eq_crash_iff (here : b.active[i]? = some k) :
    (b.advance p delay i win w).1 = b.crash i ↔
      (k.step p delay win w).1.stage = .finished .crash := by
  unfold advance crash
  simp only [here]
  generalize next : k.step p delay win w = stepped
  obtain ⟨⟨r, stage⟩, win', w'⟩ := stepped
  have same : r = k.record := (Worker.step_inv next).1
  cases stage <;> simp [Worker.isFinished, same]

/-- A worker that is finished stays so. -/
lemma finished_prefix_move (p : Surroundings ω) (delay : Time.Span) (places : Nat) (b : Batch)
    (m : Move) (win : Option Window) (w : ω) :
    b.finished <+: (b.move p delay places m win w).1.finished := by
  cases m with
  | start =>
    simp only [move, start]
    split
    · exact List.prefix_rfl
    · split <;> exact List.prefix_rfl
  | advance i =>
    show b.finished <+: (b.advance p delay i win w).1.finished
    generalize st : b.advance p delay i win w = next
    obtain ⟨b', win', w'⟩ := next
    cases here : b.active[i]? with
    | none =>
      obtain ⟨rfl, -⟩ := advance_none here st
      exact List.prefix_rfl
    | some k =>
      obtain ⟨_, -, -, -, ⟨-, -, finished⟩ | ⟨-, -, finished⟩⟩ := advance_some here st
      · exact finished ▸ List.prefix_rfl
      · exact finished ▸ List.prefix_append ..

/-- A worker that takes a step keeps its place, or leaves it if this was its last step. -/
lemma advance_inv (st : b.advance p delay i win w = (b', win', w')) :
    (b.active[i]? = none ∧ b' = b ∧ win' = win ∧ w' = w) ∨
      ∃ l k r k', b.active[i]? = some k ∧ b.active = l ++ k :: r ∧ k'.record = k.record ∧
        Worker.Step p delay k.record k.stage win w k'.stage win' w' ∧ b'.waiting = b.waiting ∧
        (b'.active = l ++ k' :: r ∨ k'.isFinished = true ∧ b'.active = l ++ r) := by
  cases here : b.active[i]? with
  | none => exact .inl ⟨rfl, advance_none here st⟩
  | some k =>
    obtain ⟨k', same, taken, waiting, stay⟩ := advance_some here st
    obtain ⟨lt, rfl⟩ := List.getElem?_eq_some_iff.1 here
    have parts : b.active = b.active.take i ++ b.active[i] :: b.active.drop (i + 1) := by simp
    refine .inr ⟨_, _, _, k', rfl, parts, same, taken, waiting, ?_⟩
    obtain ⟨-, active, -⟩ | ⟨fin, active, -⟩ := stay
    · left
      exact active.trans (List.set_eq_take_append_cons_drop.trans (if_pos lt))
    · right
      exact ⟨fin, active.trans (List.eraseIdx_eq_take_drop_succ ..)⟩

/-- With one place a record is started when no worker is active. -/
lemma start_one (b : Batch) :
    b.start 1 = b ∨
      ∃ r, b.active = [] ∧ b.waiting = r :: (b.start 1).waiting ∧
        (b.start 1).active = [{ record := r }] ∧ (b.start 1).finished = b.finished := by
  unfold start
  split
  · exact .inl rfl
  · next r rs waiting =>
    split
    · next room =>
      have none : b.active = [] := List.length_eq_zero_iff.1 (Nat.lt_one_iff.1 room)
      exact .inr ⟨r, none, waiting, by simp [none], rfl⟩
    · exact .inl rfl

/-- The only active worker takes a step and stays, or leaves its place if this was its last step. -/
lemma advance_one (only : b.active = [k]) (st : b.advance p delay i win w = (b', win', w')) :
    (b' = b ∧ win' = win ∧ w' = w) ∨
      ∃ k', k'.record = k.record ∧
        Worker.Step p delay k.record k.stage win w k'.stage win' w' ∧ b'.waiting = b.waiting ∧
        (k'.isFinished = false ∧ b'.active = [k'] ∧ b'.finished = b.finished ∨
          k'.isFinished = true ∧ b'.active = [] ∧ b'.finished = b.finished ++ [k']) := by
  cases i with
  | succ i =>
    left
    exact advance_none (by simp [only]) st
  | zero =>
    right
    have stepped := advance_some (k := k) (by simp [only]) st
    rw [only] at stepped
    exact stepped

/-- The workers of a batch. -/
def workers (b : Batch) : List Worker :=
  b.active ++ b.finished

/-- Every record of a batch that is done has a worker, which is finished. -/
lemma workers_of_isDone {b : Batch} (done : b.isDone = true) :
    b.waiting = [] ∧ b.workers = b.finished := by
  obtain ⟨waiting, active⟩ := Bool.and_eq_true_iff.1 done
  refine ⟨List.isEmpty_iff.1 waiting, ?_⟩
  rw [workers, List.isEmpty_iff.1 active, List.nil_append]

/-- The workers are active until they are finished. -/
structure Sorted (b : Batch) : Prop where
  active : ∀ k ∈ b.active, k.isFinished = false
  finished : ∀ k ∈ b.finished, k.isFinished = true

/-- No worker has started yet when a batch begins. -/
lemma sorted_waiting (rs : List Record) : Sorted { waiting := rs } where
  active _ mem := absurd mem List.not_mem_nil
  finished _ mem := absurd mem List.not_mem_nil

/-- A worker is started for the first record that waits, or nothing changes. -/
lemma start_workers (sorted : b.Sorted) (places : Nat) :
    b.start places = b ∨ (b.start places).Sorted ∧
      ∃ r, b.waiting = r :: (b.start places).waiting ∧
        (b.start places).workers.Perm ({ record := r } :: b.workers) := by
  unfold start
  split
  · exact .inl rfl
  · next r rs waiting =>
    split
    · refine .inr ⟨⟨?_, sorted.finished⟩, r, waiting, ?_⟩
      · exact List.forall_mem_append.2 ⟨sorted.active, List.forall_mem_singleton.2 rfl⟩
      · simp only [workers, List.append_assoc, List.singleton_append]
        exact List.perm_middle
    · exact .inl rfl

/-- One of the workers takes a step and none of the others does, or nothing changes. -/
lemma advance_workers (sorted : b.Sorted) (st : b.advance p delay i win w = (b', win', w')) :
    (b.active[i]? = none ∧ b' = b ∧ win' = win ∧ w' = w) ∨ b'.Sorted ∧ b'.waiting = b.waiting ∧
      ∃ k k' others, b.active[i]? = some k ∧ b.workers.Perm (k :: others) ∧
        b'.workers.Perm (k' :: others) ∧ k'.record = k.record ∧
        Worker.Step p delay k.record k.stage win w k'.stage win' w' := by
  cases here : b.active[i]? with
  | none => exact .inl ⟨rfl, advance_none here st⟩
  | some k =>
    obtain ⟨k', same, taken, waiting, stay⟩ := advance_some here st
    obtain ⟨lt, get⟩ := List.getElem?_eq_some_iff.1 here
    -- The others are those before and behind the worker that takes the step.
    have parts : b.active.take i ++ k :: b.active.drop (i + 1) = b.active := by simp [← get]
    have before : (b.active.take i ++ k :: b.active.drop (i + 1) ++ b.finished).Perm
        (k :: (b.active.take i ++ b.active.drop (i + 1)) ++ b.finished) :=
      List.perm_middle.append_right b.finished
    rw [parts] at before
    refine .inr ⟨?_, waiting, _, k', _, rfl, before, ?_, same, taken⟩
    · obtain ⟨busy, active, finished⟩ | ⟨fin, active, finished⟩ := stay
      · refine ⟨fun k mem => ?_, finished ▸ sorted.finished⟩
        rw [active] at mem
        obtain mem | rfl := List.mem_or_eq_of_mem_set mem
        · exact sorted.active k mem
        · exact busy
      · refine ⟨fun k mem => ?_, finished ▸ ?_⟩
        · rw [active] at mem
          exact sorted.active k (List.mem_of_mem_eraseIdx mem)
        · exact List.forall_mem_append.2 ⟨sorted.finished, List.forall_mem_singleton.2 fin⟩
    · obtain ⟨-, active, finished⟩ | ⟨-, active, finished⟩ := stay
      · rw [workers, active, finished, List.set_eq_take_append_cons_drop, if_pos lt]
        exact List.perm_middle.append_right b.finished
      · rw [workers, active, finished, List.eraseIdx_eq_take_drop_succ, ← List.append_assoc]
        exact List.perm_append_singleton ..

/-- Every move keeps the workers of a batch sorted into active and finished ones. -/
lemma Sorted.move (sorted : b.Sorted) (p : Surroundings ω) (delay : Time.Span) (places : Nat)
    (m : Move) (win : Option Window) (w : ω) : (b.move p delay places m win w).1.Sorted := by
  cases m with
  | start =>
    obtain same | ⟨after, -⟩ := start_workers sorted places
    · show (b.start places).Sorted
      exact same.symm ▸ sorted
    · exact after
  | advance i =>
    show (b.advance p delay i win w).1.Sorted
    generalize st : b.advance p delay i win w = next
    obtain ⟨b', win', w'⟩ := next
    obtain ⟨-, rfl, -⟩ | ⟨after, -⟩ := advance_workers sorted st
    · exact sorted
    · exact after

end Outbox.Publisher.Batch
