import Outbox.Proofs.Store
import Outbox.Proofs.UnitOfWork.Capture
import Outbox.Proofs.UnitOfWork.Ground

/-!
# Commits of a unit of work

A commit either fails and leaves the store, the aggregates and what is tracked and queued as they
were, or writes all of it and leaves nothing to do (`tryCommit_atomic`). This rests on a unit of
work having staged nothing between its calls, which is shown of every unit of work that calls lead
to.
-/

namespace Outbox.UnitOfWork
open Store (Transaction)

variable {ω α : Type}

section Over

variable {p : Storage ω Transaction} {store : ω → Store} (ov : p.Over store)
  {u u' : UnitOfWork Transaction} {table table' : Aggregate.Table} {w w' : ω}
include ov

/-- A commit that fails gives its transaction up and leaves all else as it is. -/
lemma Storage.Over.tryCommit_error {e}
    (failed : u.tryCommit p table w = (.error e, u', table', w')) :
    u' = { u with transaction := none } ∧ table' = table ∧ store w' = store w := by
  -- Whatever became of the transaction, giving it up leaves a unit of work without one.
  have given {v : UnitOfWork Transaction} {w₁ : ω} (tracked : v.tracked = u.tracked)
      (queued : v.queued = u.queued) (same : store w₁ = store w) :
      (v.abort p w₁).1 = { u with transaction := none } ∧ store (v.abort p w₁).2 = store w := by
    rw [abort_fst, tracked, queued, ov.abort v w₁]
    exact ⟨rfl, same⟩
  have clock := ov.clock w
  unfold tryCommit at failed
  simp only at failed
  split at failed
  · cases failed
    obtain ⟨same, kept⟩ := given rfl rfl clock
    exact ⟨same, rfl, kept⟩
  · next es ds _ =>
    have numbered := ov.number (p.clock w).1 ds (p.clock w).2
    split at failed
    · next written =>
      cases failed
      obtain ⟨kept, tracked, queued⟩ := ov.write_error written
      obtain ⟨same, kept⟩ := given tracked queued (kept.trans (numbered.trans clock))
      exact ⟨same, rfl, kept⟩
    · cases failed

/-- A commit that goes through writes the entities of what was tracked and the records of what was
pending, which are all done then. -/
lemma Storage.Over.tryCommit_ok {notices} (un : u.Unstaged)
    (done : u.tryCommit p table w = (.ok notices, u', table', w')) :
    ∃ es rs, List.Forall₂ (fun h e => (table h).SavedAs e) u.tracked es ∧
      List.Forall₂ (fun m r => Record.ofMessage r.id m (p.clock w).1 = .ok r) (u.pending table) rs ∧
      Transaction.commit ⟨es, rs⟩ (store w) = .ok (store w') ∧
      notices = rs.map Notice.ofRecord ∧ u' = {} ∧
      table' = table.change u.tracked Aggregate.settle := by
  have clock := ov.clock w
  unfold tryCommit at done
  simp only at done
  split at done
  · cases done
  · next es ds captured =>
    obtain ⟨saved, drafted⟩ := capture_ok captured
    have numbered := ov.number (p.clock w).1 ds (p.clock w).2
    split at done
    · cases done
    · next w₁ written =>
      cases done
      obtain ⟨rfl, committed⟩ := ov.write_ok un written
      refine ⟨es, _, saved, forall₂_number _ drafted, ?_, rfl, rfl, rfl⟩
      rw [ov.announced, ← clock, ← numbered]
      exact committed

end Over

/-- What neither a commit of a transaction nor any other call but an announcement changes is as
before until the notices of a commit are announced. -/
lemma Storage.Keeps.tryCommit {τ : Type} {p : Storage ω τ} {part : ω → α} (keeps : p.Keeps part)
    (commit : ∀ t w, part (p.commit t w).2 = part w) {u u' : UnitOfWork τ}
    {table table' : Aggregate.Table} {w w' : ω} {result}
    (called : u.tryCommit p table w = (result, u', table', w')) :
    ∃ w₁, part w₁ = part w ∧
      w' = (result.toOption.getD []).foldl (fun w n => p.announce n w) w₁ := by
  have clock := keeps.clock w
  unfold UnitOfWork.tryCommit at called
  simp only at called
  split at called
  · cases called
    exact ⟨_, (keeps.abort u _).trans clock, rfl⟩
  · next es ds _ =>
    have numbered := keeps.number (p.clock w).1 ds (p.clock w).2
    generalize UnitOfWork.number p (p.clock w).1 ds (p.clock w).2 = next at called numbered
    obtain ⟨rs, w₁⟩ := next
    have written := keeps.write commit u es rs w₁
    simp only at called
    split at called
    · next e =>
      rw [e] at written
      cases called
      exact ⟨_, (keeps.abort _ _).trans (written.trans (numbered.trans clock)), rfl⟩
    · next e =>
      rw [e] at written
      cases called
      exact ⟨_, written.trans (numbered.trans clock), rfl⟩

/-- Opening a transaction keeps what single calls keep, and so do what is tracked and queued. -/
lemma Storage.Keeps.begin {τ : Type} {p : Storage ω τ} {part : ω → α} (keeps : p.Keeps part)
    (u : UnitOfWork τ) (w : ω) :
    part (u.begin p w).2.2 = part w ∧
      ∃ transaction, (u.begin p w).2.1 = { u with transaction } := by
  have opened := keeps.ensureOpen u w
  unfold UnitOfWork.begin
  split <;> next e =>
    rw [e] at opened
    exact ⟨opened, _, rfl⟩

/-- Opening a transaction stages nothing. -/
lemma unstaged_begin {p : Storage ω Transaction} {store : ω → Store} (ov : p.Over store)
    {u : UnitOfWork Transaction} (un : u.Unstaged) (w : ω) : (u.begin p w).2.1.Unstaged := by
  unfold begin
  split
  · next opened =>
    cases ov.ensureOpen_ok un opened
    rintro _ ⟨⟩
    rfl
  · exact un

/-- A commit leaves no transaction open. -/
lemma transaction_tryCommit {p : Storage ω Transaction} {store : ω → Store} (ov : p.Over store)
    {u : UnitOfWork Transaction} (un : u.Unstaged) (table : Aggregate.Table) (w : ω) :
    (u.tryCommit p table w).2.1.transaction = none := by
  generalize called : u.tryCommit p table w = next
  obtain ⟨_ | _, u', table', w'⟩ := next
  · obtain ⟨rfl, -⟩ := ov.tryCommit_error called
    rfl
  · obtain ⟨_, _, -, -, -, -, rfl, -⟩ := ov.tryCommit_ok un called
    rfl

/-- A roll-back leaves nothing to do. -/
lemma rollback_snd (p : Storage ω Transaction) (u : UnitOfWork Transaction) (w : ω) :
    (u.rollback p w).2.1 = {} := by
  simp [rollback, abort_fst]

/-- A roll-back keeps what single calls keep. -/
lemma Storage.Keeps.giveUp {τ : Type} {p : Storage ω τ} {part : ω → α} (keeps : p.Keeps part)
    (u : UnitOfWork τ) (w : ω) : part (u.rollback p w).2.2 = part w :=
  keeps.abort u w

/-- The units of work that calls on grounds lead to, whatever else happens between the calls. -/
inductive Reached (β ε : Type) : UnitOfWork Transaction → Prop where
  | new :
    Reached β ε {}
  | track {u} (h) :
    Reached β ε u →
    Reached β ε (u.track h)
  | queue {u} (m) :
    Reached β ε u →
    Reached β ε (u.queue m)
  | begin {u} (send : Option (Notice → β → Except ε Unit × β)) (g) :
    Reached β ε u →
    Reached β ε (u.begin (Ground.storage send) g).2.1
  | tryCommit {u} (send : Option (Notice → β → Except ε Unit × β)) (table g) :
    Reached β ε u →
    Reached β ε (u.tryCommit (Ground.storage send) table g).2.1
  | rollback {u} (send : Option (Notice → β → Except ε Unit × β)) (g) :
    Reached β ε u →
    Reached β ε (u.rollback (Ground.storage send) g).2.1

variable {β ε : Type}

/-- A commit hands its notices to the bus, and none if it fails. -/
lemma Ground.handed_tryCommit {send : Option (Notice → β → Except ε Unit × β)}
    {u u' : UnitOfWork Transaction} {table table' : Aggregate.Table} {g g' : Ground β} {result}
    (called : u.tryCommit (Ground.storage send) table g = (result, u', table', g')) :
    g'.handed = g.handed ++ if send.isSome then result.toOption.getD [] else [] := by
  have keeps : (Ground.storage send).Keeps Ground.handed := keeps_storage send fun _ _ _ => rfl
  obtain ⟨g₁, kept, rfl⟩ := keeps.tryCommit handed_commit called
  rw [← kept]
  exact handed_foldl_announce send _ g₁

/-- A unit of work that calls lead to has staged nothing. -/
lemma Reached.unstaged {u : UnitOfWork Transaction} (rc : Reached β ε u) : u.Unstaged := by
  induction rc with
  | new => exact unstaged_of_none rfl
  | track h _ ih => exact fun _ here => ih here
  | queue m _ ih => exact fun _ here => ih here
  | begin send g _ ih => exact unstaged_begin (Ground.over_storage send) ih g
  | tryCommit send table g _ ih =>
    exact unstaged_of_none (transaction_tryCommit (Ground.over_storage send) ih table g)
  | rollback send g _ _ => exact unstaged_of_none (congrArg transaction (rollback_snd ..))

/-- A commit is all or nothing. If it fails, whichever call is to blame, then the store and the
aggregates are as before, and so is what is tracked and queued. If it goes through, then the store
has one more record for each pending message, in order, the entities of what was tracked, of which
the later ones count, and nothing else; the aggregates that were tracked have no events, the others
are as before, and nothing is left to do. -/
theorem tryCommit_atomic {u u' : UnitOfWork Transaction} (rc : Reached β ε u)
    {send : Option (Notice → β → Except ε Unit × β)} {table table' : Aggregate.Table}
    {g g' : Ground β} {result}
    (called : u.tryCommit (Ground.storage send) table g = (result, u', table', g')) :
    (∀ e, result = .error e →
      g'.store = g.store ∧ table' = table ∧ u' = { u with transaction := none }) ∧
    ∀ notices, result = .ok notices →
      ∃ es rs,
        g'.store.records.items = g.store.records.items ++ rs ∧
        rs.length = (u.pending table).length ∧
        List.Forall₂ (fun m r => r.Fresh m g.now) (u.pending table) rs ∧
        (∀ r ∈ rs, g.store.get? r.id = none) ∧
        notices = rs.map Notice.ofRecord ∧
        List.Forall₂ (fun h e => (table h).SavedAs e) u.tracked es ∧
        (∀ key, g'.store.entities.find? key =
          (es.reverse.find? (·.key = key)).or (g.store.entities.find? key)) ∧
        g'.store.refused = g.store.refused ∧
        (∀ h, table' h = if h ∈ u.tracked then { table h with events := {} } else table h) ∧
        u' = {} := by
  -- Whatever fails, the storage is over the store, and only that is used.
  have ov := Ground.over_storage send
  constructor
  · rintro e rfl
    obtain ⟨rest, same, kept⟩ := ov.tryCommit_error called
    exact ⟨kept, same, rest⟩
  · rintro notices rfl
    obtain ⟨es, rs, saved, recorded, done, rfl, rfl, rfl⟩ := ov.tryCommit_ok rc.unstaged called
    have fresh := recorded.imp fun _ _ => Record.fresh_of_ofMessage
    have refused := Transaction.refused_commit done
    refine ⟨es, rs, Transaction.records_commit done, fresh.length_eq.symm, fresh, ?_, rfl, saved,
      ?_, refused, fun h => rfl, rfl⟩
    · intro r mem
      exact Transaction.get?_of_commit done mem
    · intro key
      rw [Transaction.entities_commit done]
      exact Keyed.find?_foldl_put ..

/-- A message that a product is gone. -/
def gone : Message :=
  ⟨Contract.productDeleted, (⟨7⟩, ())⟩

/-- One aggregate with one event under every handle. -/
def shelf : Aggregate.Table := fun _ =>
  { typeName := "Shelf", id := ⟨1⟩, version := 3, state := .ok .null, events := ⟨[gone]⟩ }

/-- A unit of work that tracks an aggregate and queues a message. -/
def clearance : UnitOfWork Transaction :=
  UnitOfWork.queue (.track {} "shelf") gone

/-- An empty store of which some calls fail. -/
def Ground.bare (verdicts : List (Option Store.Error)) : Ground Unit where
  store := .empty
  now := .epoch
  mint := .stamped 0
  verdicts := verdicts
  bus := ()

/-- Where nobody is told of what was committed. -/
def silent : Storage (Ground Unit) Transaction :=
  Ground.storage (none : Option (Notice → Unit → Except Empty Unit × Unit))

/-- Of one event and one queued message the store has two fresh records if no call fails, and none
if the second record cannot be staged. -/
theorem tryCommit_atomic_clearance :
    let good := clearance.tryCommit silent shelf (.bare [])
    let bad := clearance.tryCommit silent shelf (.bare [none, none, none, some (.storage "full")])
    ((∃ notices, good.1 = .ok notices) ∧
      ∃ rs, good.2.2.2.store.records.items = rs ∧
        List.Forall₂ (fun m r => r.Fresh m .epoch) [gone, gone] rs) ∧
    (∃ e, bad.1 = .error e) ∧ bad.2.2.2.store = .empty := by
  have rc : Reached Unit Empty clearance := .queue _ (.track _ .new)
  constructor
  · have called : clearance.tryCommit silent shelf (.bare []) = (.ok _, _, _, _) := rfl
    obtain ⟨es, rs, items, -, fresh, -⟩ := (tryCommit_atomic rc called).2 _ rfl
    exact ⟨⟨_, rfl⟩, rs, items, fresh⟩
  · have called : clearance.tryCommit silent shelf
        (.bare [none, none, none, some (.storage "full")]) = (.error _, _, _, _) := rfl
    obtain ⟨same, -⟩ := (tryCommit_atomic rc called).1 _ rfl
    exact ⟨⟨_, rfl⟩, same⟩

end Outbox.UnitOfWork
