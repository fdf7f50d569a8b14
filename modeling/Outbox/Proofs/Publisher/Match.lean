import Outbox.Proofs.Publisher.Accounts
import Outbox.Proofs.Publisher.Idempotency

/-!
# Publishers in worlds that match

Two worlds match if every call has the same answer in both and leads to worlds that match again. A
publisher cannot tell such worlds from each other: every part of a tick, every event and every run
comes to the same in both (`Alike.run`). Only messages that were decoded are ever published, so a
publish has to match for a message under its own shape alone.
-/

namespace Outbox

/-- What is decoded under a shape is a message of that shape. -/
lemma Shape.shape_of_decode {s : Shape} {payload : String} {m : Message}
    (decoded : s.decode payload = .ok m) : m.shape = s := by
  unfold decode read at decoded
  cases parsed : Form.parse s.form payload with
  | error e =>
    rw [parsed] at decoded
    cases decoded
  | ok e =>
    rw [parsed] at decoded
    cases decoded
    rfl

namespace Publisher

variable {α ω ω' : Type}

/-- The same answer, in worlds that match. -/
inductive Same (r : ω → ω' → Prop) : α × ω → α × ω' → Prop
  | intro (a : α) {w w'} : r w w' → Same r (a, w) (a, w')

/-- Every call has the same answer in two worlds that match, and then they match again. -/
structure Surroundings.Matches (p : Surroundings ω) (p' : Surroundings ω') (r : ω → ω' → Prop) :
    Prop where
  resolve : p'.resolve = p.resolve
  clock : ∀ ⦃w w'⦄, r w w' → Same r (p.clock w) (p'.clock w')
  fetch : ∀ limit ceiling ⦃w w'⦄, r w w' →
    Same r (p.fetch limit ceiling w) (p'.fetch limit ceiling w')
  markProcessed : ∀ id ⦃w w'⦄, r w w' → Same r (p.markProcessed id w) (p'.markProcessed id w')
  markFailed : ∀ id reason ⦃w w'⦄, r w w' →
    Same r (p.markFailed id reason w) (p'.markFailed id reason w')
  countRetry : ∀ id reason delay ⦃w w'⦄, r w w' →
    Same r (p.countRetry id reason delay w) (p'.countRetry id reason delay w')
  publish : ∀ ⦃m s⦄, m.shape = s → ∀ ⦃w w'⦄, r w w' → Same r (p.publish m s w) (p'.publish m s w')

/-- A worker publishes a message under the shape of the message. -/
def Worker.Faithful (k : Worker) : Prop :=
  ∀ m s, k.stage = .publishing m s → m.shape = s

/-- A worker that was just given its stage publishes what it decoded, under the shape it found for
it. -/
lemma Worker.faithful_route (resolve : String → Option Shape) (r : Record) :
    Worker.Faithful { record := r, stage := route resolve r } := by
  intro m s stage
  obtain ⟨_, routed⟩ | ⟨_, _, -, decoded, routed⟩ := route_inv resolve r
  · cases routed.symm.trans stage
  · cases routed.symm.trans stage
    exact Shape.shape_of_decode decoded

/-- A step does not make a worker publish anything but what it decoded. -/
lemma Worker.Faithful.step {p : Surroundings ω} {delay win win' w w'} {k k' : Worker}
    (faithful : k.Faithful) (same : k'.record = k.record)
    (st : Worker.Step p delay k.record k.stage win w k'.stage win' w') : k'.Faithful := by
  obtain ⟨r, stage⟩ := k
  obtain ⟨_, stage'⟩ := k'
  cases same
  cases st with
  | skipped | unknown => exact faithful_route p.resolve r
  | _ => exact fun _ _ => nofun

namespace Surroundings.Matches

variable {p : Surroundings ω} {p' : Surroundings ω'} {r : ω → ω' → Prop} {w : ω} {w' : ω'}
  (mt : p.Matches p' r) (rel : r w w')
include mt rel

/-- To write the fate of a record has the same answer in both worlds. -/
lemma write (delay : Time.Span) (id : Identifier) (fate : Fate) :
    Same r (p.write delay id fate w) (p'.write delay id fate w') := by
  cases fate with
  | processed => exact mt.markProcessed id rel
  | failed reason => exact mt.markFailed id reason rel
  | retry reason => exact mt.countRetry id reason delay rel

/-- A worker takes the same step in both worlds. -/
lemma step (delay : Time.Span) {k : Worker} (faithful : k.Faithful) (win : Option Window) :
    Same (Same r) (k.step p delay win w) (k.step p' delay win w') := by
  obtain ⟨a, stage⟩ := k
  unfold Worker.step
  cases stage with
  | looking =>
    cases win with
    | none =>
      simp only [mt.resolve]
      exact ⟨_, ⟨_, rel⟩⟩
    | some win =>
      have read := mt.clock rel
      generalize p.clock w = x, p'.clock w' = y at read
      obtain ⟨now, rel'⟩ := read
      simp only [mt.resolve]
      exact ⟨_, ⟨_, rel'⟩⟩
  | publishing m s =>
    have published := mt.publish (faithful m s rfl) rel
    simp only
    generalize p.publish m s w = x, p'.publish m s w' = y at published
    obtain ⟨answer, rel'⟩ := published
    cases answer <;> exact ⟨_, ⟨_, rel'⟩⟩
  | remembering =>
    cases win with
    | none => exact ⟨_, ⟨_, rel⟩⟩
    | some win =>
      have read := mt.clock rel
      generalize p.clock w = x, p'.clock w' = y at read
      obtain ⟨now, rel'⟩ := read
      exact ⟨_, ⟨_, rel'⟩⟩
  | writing fate published =>
    have written := mt.write rel delay a.id fate
    simp only
    generalize p.write delay a.id fate w = x, p'.write delay a.id fate w' = y at written
    obtain ⟨answer, rel'⟩ := written
    exact ⟨_, ⟨_, rel'⟩⟩
  | finished result => exact ⟨_, ⟨_, rel⟩⟩

/-- A move comes to the same batch in both worlds. -/
lemma move (delay : Time.Span) (places : Nat) {b : Batch}
    (faithful : ∀ k ∈ b.active, k.Faithful) (m : Batch.Move) (win : Option Window) :
    Same (Same r) (b.move p delay places m win w) (b.move p' delay places m win w') := by
  cases m with
  | start => exact ⟨_, ⟨_, rel⟩⟩
  | advance i =>
    simp only [Batch.move, Batch.advance]
    cases here : b.active[i]? with
    | none => exact ⟨_, ⟨_, rel⟩⟩
    | some k =>
      have stepped := mt.step rel delay (faithful k (List.mem_of_getElem? here)) win
      simp only
      generalize k.step p delay win w = x, k.step p' delay win w' = y at stepped
      obtain ⟨k', ⟨win', rel'⟩⟩ := stepped
      simp only
      split <;> exact ⟨_, ⟨_, rel'⟩⟩

/-- The breaker says the same in both worlds. -/
lemma skips (q : Publisher) : Same (Same r) (q.skips p w) (q.skips p' w') := by
  unfold Publisher.skips askBreaker
  have read := mt.clock rel
  generalize p.clock w = x, p'.clock w' = y at read
  obtain ⟨now, rel'⟩ := read
  split
  · exact ⟨_, ⟨_, rel'⟩⟩
  · exact ⟨_, ⟨_, rel⟩⟩

/-- A purge leaves the same publisher in both worlds. -/
lemma purge (q : Publisher) : Same r (q.purge p w) (q.purge p' w') := by
  unfold Publisher.purge
  have read := mt.clock rel
  generalize p.clock w = x, p'.clock w' = y at read
  obtain ⟨now, rel'⟩ := read
  split
  · exact ⟨_, rel⟩
  · exact ⟨_, rel'⟩

/-- Noting a failure leaves the same publisher in both worlds. -/
lemma recordFailure (q : Publisher) : Same r (q.recordFailure p w) (q.recordFailure p' w') := by
  unfold Publisher.recordFailure
  have read := mt.clock rel
  generalize p.clock w = x, p'.clock w' = y at read
  obtain @⟨now, w₁, w₁', rel'⟩ := read
  have read' := mt.clock rel'
  show Same r (if _ then _ else _) (if _ then _ else _)
  split
  · generalize p.clock w₁ = x, p'.clock w₁' = y at read'
    obtain ⟨now', rel''⟩ := read'
    exact ⟨_, rel''⟩
  · exact ⟨_, rel'⟩

/-- A batch ends in the same way in both worlds. -/
lemma conclude (q : Publisher) (report : Report) (failure : Option Failure) :
    Same (Same r) (q.conclude p report failure w) (q.conclude p' report failure w') := by
  unfold Publisher.conclude
  cases failure with
  | none => exact ⟨_, ⟨_, rel⟩⟩
  | some f =>
    have recorded := mt.recordFailure rel { q with stats := q.stats.add report true }
    simp only [Option.isSome_some]
    generalize Publisher.recordFailure p _ w = x, Publisher.recordFailure p' _ w' = y at recorded ⊢
    obtain ⟨q', rel'⟩ := recorded
    exact ⟨_, ⟨_, rel'⟩⟩

/-- A tick begins in the same way in both worlds. -/
lemma beginTick (q : Publisher) :
    Same (Same r) (Publisher.beginTick p q w) (Publisher.beginTick p' q w') := by
  unfold Publisher.beginTick
  have asked := mt.skips rel q
  generalize q.skips p w = x, q.skips p' w' = y at asked
  obtain ⟨_ | _, @⟨q₁, w₁, w₁', rel₁⟩⟩ := asked
  · have purged := mt.purge rel₁ q₁
    simp only
    generalize q₁.purge p w₁ = x, q₁.purge p' w₁' = y at purged
    obtain @⟨q₂, w₂, w₂', rel₂⟩ := purged
    have fetched := mt.fetch q₂.settings.batchSize q₂.settings.retryCeiling rel₂
    simp only [Publisher.fetch]
    generalize p.fetch _ _ w₂ = x, p'.fetch _ _ w₂' = y at fetched
    obtain @⟨_ | records, w₃, w₃', rel₃⟩ := fetched
    · rename_i e
      have concluded := mt.conclude rel₃ q₂ {} (some (.store e))
      simp only
      generalize q₂.conclude p _ _ w₃ = x, q₂.conclude p' _ _ w₃' = y at concluded
      obtain ⟨_, ⟨_, rel₄⟩⟩ := concluded
      exact ⟨_, ⟨_, rel₄⟩⟩
    · exact ⟨_, ⟨_, rel₃⟩⟩
  · exact ⟨_, ⟨_, rel₁⟩⟩

end Surroundings.Matches

/-- A batch that begins has no active workers yet. -/
lemma active_beginTick {p : Surroundings ω} {q q' : Publisher} {w w' : ω} {b}
    (begun : beginTick p q w = (.working b, q', w')) : b.active = [] := by
  obtain waits | ⟨_, _, works, -⟩ := beginTick_inv begun
  · cases waits
  · cases works
    rfl

namespace Course

/-- The active workers of a course publish what they decoded. -/
def Faithful (c : Course ω) : Prop :=
  ∀ k ∈ c.batch.active, k.Faithful

/-- Without active workers there is none that is not faithful. -/
lemma faithful_of_none {c : Course ω} (none : c.batch.active = []) : c.Faithful := by
  intro k mem
  rw [none] at mem
  cases mem

/-- A move keeps the workers of a batch faithful. -/
lemma Faithful.move {p : Surroundings ω} {c : Course ω} {ticking b} (faithful : c.Faithful)
    (work : c.work = some (ticking, b)) (m : Batch.Move) : (c.move p ticking b m).Faithful := by
  have own : ∀ k ∈ b.active, k.Faithful := by
    unfold Faithful batch at faithful
    rwa [work] at faithful
  show ∀ k ∈ (b.move p c.publisher.retryDelay c.places m c.publisher.window c.world).1.active, _
  cases m with
  | start =>
    show ∀ k ∈ (b.start c.places).active, _
    obtain same | ⟨r, -, active⟩ := b.start_inv c.places
    · rwa [same]
    · rw [active]
      exact List.forall_mem_append.2 ⟨own, List.forall_mem_singleton.2 fun _ _ => nofun⟩
  | advance i =>
    generalize st : b.move p _ _ (.advance i) _ _ = next
    obtain ⟨b', win', w'⟩ := next
    obtain ⟨-, rfl, -⟩ | ⟨l, k, r, k', -, active, same, st, -, stay⟩ := Batch.advance_inv st
    · exact own
    · rw [active] at own
      simp only [List.forall_mem_append, List.forall_mem_cons] at own
      obtain ⟨left, here, right⟩ := own
      obtain stay | ⟨-, stay⟩ := stay <;> rw [stay]
      · exact List.forall_mem_append.2
          ⟨left, List.forall_mem_cons.2 ⟨here.step same st, right⟩⟩
      · exact List.forall_mem_append.2 ⟨left, right⟩

/-- Every event keeps a course faithful. -/
lemma Faithful.step {p : Surroundings ω} {c : Course ω} (faithful : c.Faithful) (e : Event ω) :
    (c.step p e).Faithful := by
  unfold Course.step
  split
  · next idle =>
    apply faithful_of_none
    unfold tick
    split
    · next begun => exact active_beginTick begun
    · simp only [batch, idle]
  · next idle =>
    apply faithful_of_none
    unfold process
    simp only
    split
    · rfl
    · simp only [batch, idle]
  · next work => exact faithful.move work _
  · next work =>
    split
    · apply faithful_of_none
      unfold conclude
      split <;> rfl
    · exact faithful
  · exact faithful
  · exact faithful

/-- Two courses of one publisher in worlds that match. -/
inductive Alike (r : ω → ω' → Prop) : Course ω → Course ω' → Prop
  | intro {q w w' work taken taken'} : r w w' →
    Alike r { publisher := q, world := w, work, taken }
      { publisher := q, world := w', work, taken := taken' }

/-- The same event in two worlds. What happens elsewhere leaves worlds that match. -/
inductive Event.Alike (r : ω → ω' → Prop) : Event ω → Event ω' → Prop
  | tick : Event.Alike r .tick .tick
  | process : Event.Alike r .process .process
  | move (m : Batch.Move) : Event.Alike r (.move m) (.move m)
  | conclude : Event.Alike r .conclude .conclude
  | elsewhere {change : ω → ω} {change' : ω' → ω'} :
    (∀ ⦃w w'⦄, r w w' → r (change w) (change' w')) →
    Event.Alike r (.elsewhere change) (.elsewhere change')

namespace Alike

variable {p : Surroundings ω} {p' : Surroundings ω'} {r : ω → ω' → Prop} {c : Course ω}
  {c' : Course ω'}

/-- A tick begins alike in both worlds. -/
lemma tick (al : Alike r c c') (mt : p.Matches p' r) : Alike r (c.tick p) (c'.tick p') := by
  obtain @⟨q, w, w', work, taken, taken', rel⟩ := al
  have begun := mt.beginTick rel q
  simp only [Course.tick]
  generalize beginTick p q w = x, beginTick p' q w' = y at begun
  obtain ⟨phase, ⟨q', rel'⟩⟩ := begun
  cases phase <;> exact ⟨rel'⟩

/-- A call that processes one batch begins alike in both worlds. -/
lemma process (al : Alike r c c') (mt : p.Matches p' r) :
    Alike r (c.process p) (c'.process p') := by
  obtain @⟨q, w, w', work, taken, taken', rel⟩ := al
  have purged := mt.purge rel q
  simp only [Course.process]
  generalize q.purge p w = x, q.purge p' w' = y at purged
  obtain @⟨q₁, w₁, w₁', rel₁⟩ := purged
  have fetched := mt.fetch q₁.settings.batchSize q₁.settings.retryCeiling rel₁
  simp only [fetch]
  generalize p.fetch _ _ w₁ = x, p'.fetch _ _ w₁' = y at fetched
  obtain ⟨_ | records, rel₂⟩ := fetched <;> exact ⟨rel₂⟩

/-- A batch makes the same move in both worlds. -/
lemma move (al : Alike r c c') (mt : p.Matches p' r) (faithful : c.Faithful) {ticking b}
    (work : c.work = some (ticking, b)) (m : Batch.Move) :
    Alike r (c.move p ticking b m) (c'.move p' ticking b m) := by
  have own : ∀ k ∈ b.active, k.Faithful := by
    unfold Faithful batch at faithful
    rwa [work] at faithful
  obtain @⟨q, w, w', _, taken, taken', rel⟩ := al
  have moved := mt.move rel q.retryDelay q.settings.parallelism.toNat own m q.window
  simp only [Course.move, places]
  generalize b.move p _ _ m q.window w = x, b.move p' _ _ m q.window w' = y at moved
  obtain ⟨b', ⟨win, rel'⟩⟩ := moved
  exact ⟨rel'⟩

/-- A call ends alike in both worlds. -/
lemma conclude (al : Alike r c c') (mt : p.Matches p' r) (ticking : Bool) (b : Batch) :
    Alike r (c.conclude p ticking b) (c'.conclude p' ticking b) := by
  obtain @⟨q, w, w', _, taken, taken', rel⟩ := al
  have concluded := mt.conclude rel q b.results.report b.results.failure?
  unfold Course.conclude
  split
  · generalize q.conclude p _ _ w = x, q.conclude p' _ _ w' = y at concluded
    obtain ⟨t, ⟨q', rel'⟩⟩ := concluded
    exact ⟨rel'⟩
  · exact ⟨rel⟩

/-- The publishers of courses alike are the same. -/
lemma publisher (al : Alike r c c') : c'.publisher = c.publisher := by
  obtain ⟨-⟩ := al
  rfl

/-- What courses alike are at is the same. -/
lemma work (al : Alike r c c') : c'.work = c.work := by
  obtain ⟨-⟩ := al
  rfl

/-- The worlds of courses alike match. -/
lemma world (al : Alike r c c') : r c.world c'.world := by
  obtain ⟨rel⟩ := al
  exact rel

/-- Of an event, courses alike come to the same. -/
lemma step {e : Event ω} {e' : Event ω'} (al : Alike r c c') (mt : p.Matches p' r)
    (faithful : c.Faithful) (ev : Event.Alike r e e') :
    Alike r (c.step p e) (c'.step p' e') := by
  have work := al.work
  cases here : c.work with
  | none =>
    cases ev with
    | tick => simpa only [Course.step, here, work] using al.tick mt
    | process => simpa only [Course.step, here, work] using al.process mt
    | elsewhere both =>
      obtain ⟨rel⟩ := al
      exact ⟨both rel⟩
    | _ => simpa only [Course.step, here, work] using al
  | some x =>
    obtain ⟨ticking, b⟩ := x
    cases ev with
    | move m => simpa only [Course.step, here, work] using al.move mt faithful here m
    | conclude =>
      simp only [Course.step, here, work]
      split
      · exact al.conclude mt ticking b
      · exact al
    | elsewhere both =>
      obtain ⟨rel⟩ := al
      exact ⟨both rel⟩
    | _ => simpa only [Course.step, here, work] using al

/-- And so do the ticks that end in it. -/
lemma over?_eq {e : Event ω} {e' : Event ω'} (al : Alike r c c') (mt : p.Matches p' r)
    (ev : Event.Alike r e e') : c'.over? p' e' = c.over? p e := by
  -- Only the begin of a tick and its end can bring one to its end.
  obtain @⟨q, w, w', work, taken, taken', rel⟩ := al
  cases ev with
  | tick =>
    cases work with
    | none =>
      have asked := mt.skips rel q
      simp only [over?, ends?]
      generalize q.skips p w = x, q.skips p' w' = y at asked
      obtain ⟨_ | _, @⟨q₁, w₁, w₁', rel₁⟩⟩ := asked
      · have purged := mt.purge rel₁ q₁
        simp only
        generalize q₁.purge p w₁ = x, q₁.purge p' w₁' = y at purged
        obtain @⟨q₂, w₂, w₂', rel₂⟩ := purged
        have fetched := mt.fetch q₂.settings.batchSize q₂.settings.retryCeiling rel₂
        simp only [fetch]
        generalize p.fetch _ _ w₂ = x, p'.fetch _ _ w₂' = y at fetched
        obtain ⟨_ | records, rel₃⟩ := fetched
        · simp only [conclude_fst]
          rfl
        · rfl
      · rfl
    | some x => rfl
  | conclude =>
    cases work with
    | none => rfl
    | some x =>
      obtain ⟨_ | _, b⟩ := x
      · rfl
      · simp only [over?, ends?, conclude_fst]
        split <;> rfl
  | _ => cases work <;> rfl

/-- All ticks come to the same, and so does the publisher. -/
lemma run {es : List (Event ω)} {es' : List (Event ω')} (al : Alike r c c') (mt : p.Matches p' r)
    (faithful : c.Faithful) (evs : List.Forall₂ (Event.Alike r) es es') :
    Alike r (c.run p es) (c'.run p' es') ∧ c'.ticks p' es' = c.ticks p es := by
  induction evs generalizing c c' with
  | nil => exact ⟨al, rfl⟩
  | cons ev evs ih =>
    obtain ⟨al', ticks⟩ := ih (al.step mt faithful ev) (faithful.step _)
    exact ⟨al', congrArg₂ _ (congrArg _ (al.over?_eq mt ev)) ticks⟩

end Alike

end Course

end Publisher

end Outbox
