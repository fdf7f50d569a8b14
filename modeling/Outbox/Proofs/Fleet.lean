import Mathlib.Tactic.Lemma
import Outbox.Proofs.Publisher.Batch
import Outbox.Proofs.Store
import Outbox.Publisher

/-!
# Fleets

Any number of publishers that share one store. Each has its own settings, registry and window, and
any number of workers on copies that it fetched some time ago. Which publisher does what next is
left to chance, and so is all that it meets: what the clocks show, what the broker answers, and
whether the store call fails. Publishers come, crash and are built anew, and others commit to the
store.
-/

namespace Outbox

/-- What the publishers of a fleet share, and what they did so far. -/
structure Fleet.Ground where
  store : Store
  /-- What brokers took, with the number of the publisher that it came from. -/
  taken : List (Nat × Message × Shape) := []
  /-- The records of the retries that the store counted. -/
  counted : List Identifier := []

/-- One publisher of a fleet, with the workers that it started. -/
structure Fleet.Member where
  publisher : Publisher
  registry : Registry
  workers : List Publisher.Worker := []

/-- Publishers that share a store. -/
structure Fleet where
  ground : Fleet.Ground
  members : List Fleet.Member := []

namespace Fleet

/-- What a publisher meets in one step. -/
structure Chance where
  /-- What the clock of the publisher shows. -/
  now : Time.Instant
  /-- What the clock of the store shows. -/
  storeNow : Time.Instant
  /-- What the broker answers, if it is asked. -/
  answer : Answer Broker.Error Unit
  /-- Why a call to the store fails, if it is made to. -/
  fault : Option Store.Error

/-- A call to the store. One that is made to fail changes nothing. -/
def Ground.call (g : Ground) (c : Chance) (called : Answer Store.Error Store) :
    Answer Store.Error Unit × Ground :=
  match c.fault, called with
  | some e, _ => (.error e, g)
  | none, .ok store => (.ok (), { g with store })
  | none, .error e => (.error e, g)
  | none, .crash => (.crash, g)

/-- What a publisher works with in one step. -/
def surroundings (j : Nat) (registry : Registry) (c : Chance) : Publisher.Surroundings Ground where
  clock g := (c.now, g)
  resolve := registry.resolve
  fetch limit ceiling g :=
    match c.fault with
    | some e => (.error e, g)
    | none => (.ok (g.store.fetch c.storeNow limit.toNat ceiling), g)
  markProcessed id g := g.call c (.ofExcept (g.store.markProcessed c.storeNow id))
  markFailed id reason g := g.call c (.ofExcept (g.store.markFailed c.storeNow id reason))
  countRetry id reason delay g :=
    match g.call c (g.store.countRetry c.storeNow id reason delay) with
    | (.ok (), g) => (.ok (), { g with counted := g.counted ++ [id] })
    | failed => failed
  publish m s g :=
    match c.answer with
    | .ok () => (.ok (), { g with taken := g.taken ++ [(j, m, s)] })
    | refused => (refused, g)

/-- A member after it was built, which remembers nothing. -/
def Member.build (settings : Settings) (registry : Registry) : Option Member :=
  (Publisher.build settings).ok?.map fun publisher => { publisher, registry }

/-- The member after it purged its window. -/
def Member.purge (j : Nat) (c : Chance) (m : Member) (g : Ground) : Member × Ground :=
  let (publisher, g) := m.publisher.purge (surroundings j m.registry c) g
  ({ m with publisher }, g)

/-- The member after it fetched a batch, with a worker for each copy. -/
def Member.fetch (j : Nat) (c : Chance) (m : Member) (g : Ground) : Member × Ground :=
  match m.publisher.fetch (surroundings j m.registry c) g with
  | (.ok records, g) => ({ m with workers := m.workers ++ records.map ({ record := · }) }, g)
  | (.error _, g) => (m, g)

/-- The member after one of its workers took a step. -/
def Member.advance (j i : Nat) (c : Chance) (m : Member) (g : Ground) : Member × Ground :=
  match m.workers[i]? with
  | none => (m, g)
  | some k =>
    let (k, window, g) :=
      k.step (surroundings j m.registry c) m.publisher.retryDelay m.publisher.window g
    ({ m with publisher.window := window, workers := m.workers.set i k }, g)

/-- The member after one of its workers crashed. -/
def Member.lose (i : Nat) (m : Member) (g : Ground) : Member × Ground :=
  ({ m with workers := m.workers.eraseIdx i }, g)

/-- What can happen to a fleet. -/
inductive Event
  /-- Another publisher is built. -/
  | join (settings : Settings) (registry : Registry)
  /-- A publisher is dropped with all that it remembers, and another one is built in its place. -/
  | rebuild (j : Nat) (settings : Settings) (registry : Registry)
  | purge (j : Nat) (c : Chance)
  | fetch (j : Nat) (c : Chance)
  /-- One worker of a publisher takes a step. -/
  | advance (j i : Nat) (c : Chance)
  /-- One worker of a publisher crashes. -/
  | lose (j i : Nat)
  /-- Somebody else commits a transaction. -/
  | commit (t : Store.Transaction)

/-- The publisher of which an event is a step. -/
def Event.actor : Event → Option Nat
  | .purge j _ | .fetch j _ | .advance j _ _ | .lose j _ => some j
  | .join .. | .rebuild .. | .commit _ => none

/-- The fleet after one of its members did something. -/
def act (f : Fleet) (j : Nat) (deed : Member → Ground → Member × Ground) : Fleet :=
  match f.members[j]? with
  | none => f
  | some m =>
    let (m, ground) := deed m f.ground
    { ground, members := f.members.set j m }

/-- The fleet after an event. -/
def step (f : Fleet) : Event → Fleet
  | .join settings registry =>
    { f with members := f.members ++ (Member.build settings registry).toList }
  | .rebuild j settings registry =>
    match Member.build settings registry with
    | none => f
    | some m => { f with members := f.members.set j m }
  | .purge j c => f.act j (Member.purge j c)
  | .fetch j c => f.act j (Member.fetch j c)
  | .advance j i c => f.act j (Member.advance j i c)
  | .lose j i => f.act j (Member.lose i)
  | .commit t =>
    match t.commit f.ground.store with
    | .ok store => { f with ground.store := store }
    | .error _ => f

/-- The fleet after some events. -/
def run (f : Fleet) (es : List Event) : Fleet :=
  es.foldl step f

/-- The fleet without publishers on a store. -/
def on (s : Store) : Fleet where
  ground := { store := s }

end Fleet

end Outbox

/-!
## The ground of a fleet

What the steps of publishers do to the store that they share. `Ground.Descends` says that no record
is lost on the way and that every retry is accounted for; `Written` lists all that the write of a
fate can come to.
-/

namespace Outbox.Fleet
open Publisher (Fate Surroundings Worker)

/-- The ground became another one by some steps, in which the retries `new` were counted. -/
structure Ground.Descends (new : List Identifier) (g g' : Ground) : Prop where
  counted : g'.counted = g.counted ++ new
  taken : g.taken ⊆ g'.taken
  store : g.store.Descends (fun id => new.count id) g'.store

/-- Without a step the ground stays as it is. -/
lemma Ground.Descends.refl (g : Ground) : Descends [] g g :=
  ⟨(List.append_nil _).symm, List.Subset.refl _, .refl g.store⟩

/-- The retries of two runs come one after the other. -/
lemma Ground.Descends.trans {new new' g g' g''} (d : Descends new g g')
    (d' : Descends new' g' g'') : Descends (new ++ new') g g'' where
  counted := by rw [d'.counted, d.counted, List.append_assoc]
  taken := List.Subset.trans d.taken d'.taken
  store := by simpa only [List.count_append] using d.store.trans d'.store

/-- A call that changes only the store counts no retry. -/
lemma Ground.Descends.of_store {g : Ground} {s : Store} (d : g.store.Descends (fun _ => 0) s) :
    Descends [] g { g with store := s } :=
  ⟨(List.append_nil _).symm, List.Subset.refl _, d⟩

/-- A call to the store does what the store does, or it fails and changes nothing. -/
lemma Ground.call_inv {g g' : Ground} {c called a} (st : g.call c called = (a, g')) :
    (a = .ok () ∧ ∃ s, called = .ok s ∧ g' = { g with store := s }) ∨ (a ≠ .ok () ∧ g' = g) := by
  unfold Ground.call at st
  split at st <;> cases st
  · exact .inr ⟨nofun, rfl⟩
  · exact .inl ⟨rfl, _, rfl, rfl⟩
  · exact .inr ⟨nofun, rfl⟩
  · exact .inr ⟨nofun, rfl⟩

section Calls
variable {j : Nat} {registry : Registry} {c : Chance} {g g' : Ground}

/-- A broker that takes a message is remembered for it, and one that does not leaves no trace. -/
lemma publish_inv {m s a} (st : (surroundings j registry c).publish m s g = (a, g')) :
    (a = .ok () ∧ g' = { g with taken := g.taken ++ [(j, m, s)] }) ∨ (a ≠ .ok () ∧ g' = g) := by
  simp only [surroundings] at st
  split at st
  · cases st
    exact .inl ⟨rfl, rfl⟩
  · next refused =>
    cases st
    exact .inr ⟨refused, rfl⟩

/-- What a write of a fate to the store makes of the ground. -/
inductive Written (g : Ground) (id : Identifier) : Fate → Ground → Prop where
  | failed {fate} :
    Written g id fate g
  | processed {now s} :
    g.store.markProcessed now id = .ok s →
    Written g id .processed { g with store := s }
  | deadLettered {now reason s} :
    g.store.markFailed now id reason = .ok s →
    Written g id (.failed reason) { g with store := s }
  | retried {now reason delay s} :
    g.store.countRetry now id reason delay = .ok s →
    Written g id (.retry reason) { g with store := s, counted := g.counted ++ [id] }

/-- A write does what the store does for its fate, or it fails and changes nothing. -/
lemma write_inv {delay id fate a}
    (st : (surroundings j registry c).write delay id fate g = (a, g')) : Written g id fate g' := by
  cases fate with
  | processed =>
    obtain ⟨-, s, called, rfl⟩ | ⟨-, rfl⟩ := Ground.call_inv st
    · exact .processed (Answer.ofExcept_eq_ok_iff.1 called)
    · exact .failed
  | failed reason =>
    obtain ⟨-, s, called, rfl⟩ | ⟨-, rfl⟩ := Ground.call_inv st
    · exact .deadLettered (Answer.ofExcept_eq_ok_iff.1 called)
    · exact .failed
  | retry reason =>
    -- A retry is noted only once the store has counted it, so the answer is looked at twice.
    simp only [Surroundings.write, surroundings] at st
    split at st
    · next called =>
      cases st
      obtain ⟨-, s, stored, rfl⟩ | ⟨failed, -⟩ := Ground.call_inv called
      · exact .retried stored
      · exact absurd rfl failed
    · next failed =>
      obtain ⟨rfl, -⟩ | ⟨-, rfl⟩ := Ground.call_inv st
      · exact absurd st (failed g')
      · exact .failed

/-- Whatever becomes of a write, no record is lost, and the retry that it counts is counted. -/
lemma Written.descends {id fate} (wr : Written g id fate g') : ∃ new, g.Descends new g' := by
  cases wr with
  | failed => exact ⟨[], .refl g⟩
  | processed done =>
    have d := Store.descends_update done (Record.descends_markProcessed · _)
    exact ⟨[], .of_store (by simpa only [ite_self] using d)⟩
  | deadLettered done =>
    have d := Store.descends_update done (Record.descends_markFailed · _ _)
    exact ⟨[], .of_store (by simpa only [ite_self] using d)⟩
  | retried done =>
    obtain ⟨next, -, upd⟩ := Store.countRetry_inv done
    refine ⟨[id], rfl, List.Subset.refl _, ?_⟩
    have d := Store.descends_update upd (Record.descends_countRetry · _ _)
    simpa only [List.count_singleton, beq_iff_eq] using d

/-- A write makes a record processed only if that is the fate of this very record. -/
lemma Written.processed_inv {id fate j r r'} (wr : Written g id fate g')
    (found : g.store.get? j = some r) (un : r.processed = false)
    (found' : g'.store.get? j = some r') (done : r'.processed = true) :
    fate = .processed ∧ id = j := by
  cases wr with
  | failed =>
    cases found.symm.trans found'
    exact absurd (un.symm.trans done) nofun
  | processed upd =>
    refine ⟨rfl, ?_⟩
    have look := Store.get?_update upd j
    by_cases same : j = id
    · exact same.symm
    · rw [if_neg same, found', found] at look
      cases look
      exact absurd (un.symm.trans done) nofun
  | deadLettered upd =>
    have keeps := Store.processed_update upd (Record.processed_markFailed · _ _) found found'
    exact absurd (un.symm.trans (keeps.symm.trans done)) nofun
  | retried count =>
    obtain ⟨next, -, upd⟩ := Store.countRetry_inv count
    have keeps := Store.processed_update upd (Record.processed_countRetry · _ _) found found'
    exact absurd (un.symm.trans (keeps.symm.trans done)) nofun

/-- Whatever a worker does, no record is lost, and every retry that is counted is counted. -/
lemma descends_of_step {delay r stage stage' win win'}
    (st : Worker.Step (surroundings j registry c) delay r stage win g stage' win' g') :
    ∃ new, g.Descends new g' := by
  cases st with
  | skipped | forgotten | rested => exact ⟨[], .refl g⟩
  | known clock _ | unknown clock _ | remembered clock =>
    cases clock
    exact ⟨[], .refl _⟩
  | taken answer | refused answer | crashed answer =>
    obtain ⟨-, rfl⟩ | ⟨-, rfl⟩ := publish_inv answer
    · exact ⟨[], (List.append_nil _).symm, List.subset_append_left _ _, .refl _⟩
    · exact ⟨[], .refl _⟩
  | written wr => exact (write_inv wr).descends

end Calls

end Outbox.Fleet
