import Outbox.Proofs.UnitOfWork.Commit
import Outbox.Proofs.Workshop

/-!
# The order of what was committed

The messages that a workshop committed stand in its store in the order of their commits. They get
their identifiers from the mint one after another, and their dates from the clock, so they are in
order of both as long as the mint goes up and the clock never moves back. `Ordered` says so; every
event keeps it (`Ordered.step`) and only adds to what was committed.
-/

namespace Outbox
open UnitOfWork (Ground Draft Storage)

/-- The identifiers that a source made since it had made the first ones. -/
def Identifier.Mint.since (first : Nat) (m : Identifier.Mint) : List Identifier :=
  (List.range' first (m.made - first)).map m.coin

namespace UnitOfWork.Ground

variable {β ε : Type} (send : Option (Notice → β → Except ε Unit × β))

/-- Records are numbered by the mint, one after another, and carry the date of the call. -/
lemma number_storage (now : Time.Instant) (ds : List Draft) (g : Ground β) :
    (number (storage send) now ds g).1.map Record.id =
        (List.range' g.mint.made ds.length).map g.mint.coin ∧
      (∀ r ∈ (number (storage send) now ds g).1, r.occurredAt = now) ∧
      (number (storage send) now ds g).2.mint =
        { g.mint with made := g.mint.made + ds.length } := by
  induction ds generalizing g with
  | nil => exact ⟨rfl, fun _ mem => absurd mem List.not_mem_nil, rfl⟩
  | cons d ds ih =>
    obtain ⟨ids, dates, mint⟩ := ih { g with mint := { g.mint with made := g.mint.made + 1 } }
    refine ⟨?_, List.forall_mem_cons.2 ⟨rfl, dates⟩, ?_⟩
    · rw [List.length_cons, List.range'_succ, List.map_cons, number, List.map_cons]
      exact congrArg (List.cons _) ids
    · refine mint.trans ?_
      simp only [List.length_cons, Identifier.Mint.mk.injEq, true_and]
      omega

/-- The storage of a ground, less its mint. -/
def unminted : Storage (Ground β) Store.Transaction :=
  { storage send with fresh := fun g => (default, g) }

/-- Without the mint no call changes it. -/
lemma keeps_unminted : (unminted send).Keeps Ground.mint where
  clock _ := rfl
  fresh _ := rfl
  start g := by
    show (start g).2.mint = g.mint
    unfold start
    split <;> next ruled =>
      obtain ⟨_, rfl⟩ := rule_inv ruled
      rfl
  save e t g := by
    obtain ⟨_, same⟩ := g.stage_snd (fun s t => t.save s e) t
    exact (congrArg Ground.mint same).trans rfl
  append r t g := by
    obtain ⟨_, same⟩ := g.stage_snd (fun _ t => .ok (t.append r)) t
    exact (congrArg Ground.mint same).trans rfl
  rollback t g := by
    show (rollback t g).2.mint = g.mint
    unfold rollback
    split <;> next ruled =>
      obtain ⟨_, rfl⟩ := rule_inv ruled
      rfl

/-- Putting in what a transaction staged makes no identifiers and takes no time. -/
lemma commit_snd (t : Store.Transaction) (g : Ground β) :
    (commit t g).2.mint = g.mint ∧ (commit t g).2.now = g.now := by
  generalize called : commit t g = next
  obtain ⟨answer, g'⟩ := next
  obtain ⟨-, _, _, -, rfl⟩ | ⟨-, _, rfl⟩ := commit_inv called <;> exact ⟨rfl, rfl⟩

/-- Announcing messages makes no identifiers and takes no time. -/
lemma foldl_announce (ns : List Notice) (g : Ground β) :
    (ns.foldl (fun g n => announce send n g) g).mint = g.mint ∧
      (ns.foldl (fun g n => announce send n g) g).now = g.now := by
  induction ns generalizing g with
  | nil => exact ⟨rfl, rfl⟩
  | cons n ns ih =>
    rw [List.foldl_cons, (ih _).1, (ih _).2]
    cases send <;> exact ⟨rfl, rfl⟩

variable {send}

/-- An attempt to commit takes no time. -/
lemma now_tryCommit {u u' : UnitOfWork Store.Transaction} {table table' : Aggregate.Table}
    {g g' : Ground β} {result}
    (called : u.tryCommit (storage send) table g = (result, u', table', g')) :
    g'.now = g.now := by
  have keeps : (storage send).Keeps Ground.now := keeps_storage send fun _ _ _ => rfl
  obtain ⟨g₁, kept, rfl⟩ := keeps.tryCommit (fun t g => (commit_snd t g).2) called
  exact (foldl_announce send _ g₁).2.trans kept

/-- A commit lets the mint go on. The messages of one that goes through have the identifiers that
were made for it, and its date. -/
lemma tryCommit_minted {u u' : UnitOfWork Store.Transaction} {table table' : Aggregate.Table}
    {g g' : Ground β} {result}
    (called : u.tryCommit (storage send) table g = (result, u', table', g')) :
    ∃ k, g'.mint = { g.mint with made := g.mint.made + k } ∧ ∀ ns, result = .ok ns →
      ns.map Notice.recordId = (List.range' g.mint.made k).map g.mint.coin ∧
        ∀ n ∈ ns, n.occurredAt = g.now := by
  -- Identifiers are made while drafts are numbered, and by no other part of a commit.
  have keeps : (unminted send).Keeps Ground.mint := keeps_unminted send
  unfold tryCommit at called
  simp only at called
  split at called
  · cases called
    exact ⟨0, keeps.abort u g, nofun⟩
  · next es ds _ =>
    obtain ⟨ids, dates, minted⟩ :=
      number_storage send ((storage send).clock g).1 ds ((storage send).clock g).2
    generalize number (storage send) ((storage send).clock g).1 ds ((storage send).clock g).2 = next
      at called ids dates minted
    obtain ⟨rs, g₁⟩ := next
    have written := keeps.write (fun t g => (commit_snd t g).1) u es rs g₁
    change (u.write (storage send) es rs g₁).2.2.mint = g₁.mint at written
    simp only at called
    split at called
    · next e =>
      rw [e] at written
      cases called
      exact ⟨ds.length, (keeps.abort _ _).trans (written.trans minted), nofun⟩
    · next e =>
      rw [e] at written
      cases called
      refine ⟨ds.length, (foldl_announce send _ _).1.trans (written.trans minted), ?_⟩
      rintro _ ⟨⟩
      refine ⟨?_, List.forall_mem_map.2 dates⟩
      rw [List.map_map]
      exact ids

end UnitOfWork.Ground

/-- A source that goes on has made the same identifiers before. -/
lemma Identifier.Mint.since_add {m : Identifier.Mint} {first : Nat} (begun : first ≤ m.made)
    (k : Nat) : since first { m with made := m.made + k } =
      m.since first ++ (List.range' m.made k).map m.coin := by
  have length : m.made + k - first = m.made - first + k := by omega
  have start : first + (m.made - first) = m.made := by omega
  rw [since, since, length, ← List.range'_append_1, List.map_append, start]

namespace Workshop

variable {β ε : Type} {d d' : Workshop β} {first : Nat}

/-- The messages that were committed, in order. -/
def committed (d : Workshop β) : List Notice :=
  d.answers.flatMap fun answer => answer.toOption.getD []

/-- The records of a workshop that began without any are those of what was committed, with
identifiers in the order in which they were made and dates that never go back. -/
structure Ordered (first : Nat) (d : Workshop β) : Prop where
  unstaged : d.unit.Unstaged
  begun : first ≤ d.ground.mint.made
  stored : d.ground.store.records.items.map Notice.ofRecord = d.committed
  numbered : (d.committed.map Notice.recordId).Sublist (d.ground.mint.since first)
  dated : d.committed.Pairwise fun a b => a.occurredAt ≤ b.occurredAt
  past : ∀ n ∈ d.committed, n.occurredAt ≤ d.ground.now

/-- A workshop went on and wrote some records. -/
structure Adds (first : Nat) (rs : List Record) (d d' : Workshop β) : Prop where
  items : d'.ground.store.records.items = d.ground.store.records.items ++ rs
  untouched : ∀ r ∈ rs, r.Untouched
  committed : d'.committed = d.committed ++ rs.map Notice.ofRecord
  since : d.ground.mint.since first <+: d'.ground.mint.since first

/-- A workshop without records is in order. -/
lemma ordered_start (table : Aggregate.Table) {g : Ground β} (none : g.store.records.items = []) :
    Ordered g.mint.made (start table g) where
  unstaged := UnitOfWork.unstaged_of_none rfl
  begun := Nat.le_refl _
  stored := congrArg (List.map _) none
  numbered := List.nil_sublist _
  dated := .nil
  past _ mem := absurd mem List.not_mem_nil

/-- Order is kept if what is written now has the identifiers that are made now, and today's date. -/
lemma Ordered.add {rs : List Record} {k} (od : Ordered first d) (unstaged : d'.unit.Unstaged)
    (items : d'.ground.store.records.items = d.ground.store.records.items ++ rs)
    (untouched : ∀ r ∈ rs, r.Untouched)
    (committed : d'.committed = d.committed ++ rs.map Notice.ofRecord)
    (mint : d'.ground.mint = { d.ground.mint with made := d.ground.mint.made + k })
    (ids : (rs.map Record.id).Sublist ((List.range' d.ground.mint.made k).map d.ground.mint.coin))
    (now : d.ground.now ≤ d'.ground.now) (dates : ∀ r ∈ rs, r.occurredAt = d'.ground.now) :
    Ordered first d' ∧ ∃ rs, Adds first rs d d' := by
  -- The new identifiers are the next ones of the mint.
  have since := Identifier.Mint.since_add od.begun k
  rw [← mint] at since
  refine ⟨⟨unstaged, ?_, ?_, ?_, ?_, ?_⟩, rs, ⟨items, untouched, committed, ?_⟩⟩
  · rw [mint]
    exact Nat.le_add_right_of_le od.begun
  · rw [items, committed, List.map_append, od.stored]
  · rw [committed, since, List.map_append, List.map_map]
    exact od.numbered.append ids
  · rw [committed]
    refine List.pairwise_append.2 ⟨od.dated, ?_, ?_⟩
    · refine List.pairwise_map.2 (List.pairwise_of_forall_mem_list fun a mem b mem' => ?_)
      show a.occurredAt ≤ b.occurredAt
      rw [dates a mem, dates b mem']
      exact Int.le_refl _
    · intro n mem _ new
      obtain ⟨r, mem', rfl⟩ := List.mem_map.1 new
      show n.occurredAt ≤ r.occurredAt
      rw [dates r mem']
      exact Int.le_trans (od.past n mem) now
  · intro n mem
    rw [committed, List.mem_append] at mem
    rcases mem with old | new
    · exact Int.le_trans (od.past n old) now
    · obtain ⟨r, mem', rfl⟩ := List.mem_map.1 new
      show r.occurredAt ≤ d'.ground.now
      rw [dates r mem']
      exact Int.le_refl _
  · rw [since]
    exact List.prefix_append ..

/-- Order is kept as long as nothing is written. -/
lemma Ordered.of_same {k} (od : Ordered first d) (unstaged : d'.unit.Unstaged)
    (store : d'.ground.store = d.ground.store) (committed : d'.committed = d.committed)
    (mint : d'.ground.mint = { d.ground.mint with made := d.ground.mint.made + k })
    (now : d.ground.now ≤ d'.ground.now) : Ordered first d' ∧ ∃ rs, Adds first rs d d' := by
  have items : d'.ground.store.records.items = d.ground.store.records.items ++ [] := by
    rw [store, List.append_nil]
  refine od.add unstaged items ?_ ?_ mint (List.nil_sublist _) now ?_
  · exact fun _ mem => absurd mem List.not_mem_nil
  · rw [committed, List.map_nil, List.append_nil]
  · exact fun _ mem => absurd mem List.not_mem_nil

/-- What a commit wrote down was committed, and nothing if it failed. -/
lemma committed_commit (send : Notice → β → Except ε Unit × β) (d : Workshop β) :
    (d.commit send).committed = d.committed ++ (d.tryCommit send).1.toOption.getD [] := by
  unfold committed commit
  simp

variable {send : Notice → β → Except ε Unit × β}

/-- Every commit keeps the order and adds what it wrote. -/
lemma Ordered.commit (od : Ordered first d) :
    Ordered first (d.commit send) ∧ ∃ rs, Adds first rs d (d.commit send) := by
  have committed := committed_commit send d
  have ov : (d.storage send).Over Ground.store := Ground.over_storage _
  unfold Workshop.commit at committed ⊢
  generalize called : d.tryCommit send = next at committed
  obtain ⟨result, unit, table, ground⟩ := next
  have now := Ground.now_tryCommit called
  obtain ⟨k, mint, minted⟩ := Ground.tryCommit_minted called
  cases result with
  | error e =>
    -- a failed commit leaves the store as it was
    obtain ⟨rfl, rfl, store⟩ := ov.tryCommit_error called
    refine od.of_same (UnitOfWork.unstaged_of_none rfl) store ?_ mint (now ▸ Int.le_refl _)
    exact committed.trans (List.append_nil _)
  | ok ns =>
    obtain ⟨es, rs, -, recorded, done, rfl, rfl, rfl⟩ := ov.tryCommit_ok od.unstaged called
    obtain ⟨ids, -⟩ := minted _ rfl
    have fresh := recorded.imp fun _ _ => Record.fresh_of_ofMessage
    have all : ∀ r ∈ rs, ∃ m, r.Fresh m d.ground.now := by
      intro r mem
      obtain ⟨i, lt, rfl⟩ := List.getElem_of_mem mem
      exact ⟨_, (List.forall₂_iff_get.1 fresh).2 i (fresh.length_eq ▸ lt) lt⟩
    refine od.add (k := k) (UnitOfWork.unstaged_of_none rfl) ?_ ?_ committed mint ?_ ?_ ?_
    · exact Store.Transaction.records_commit done
    · intro r mem
      obtain ⟨m, made⟩ := all r mem
      exact made.isUntouched
    · rw [← ids, List.map_map]
      exact List.Sublist.refl _
    · exact now ▸ Int.le_refl _
    · intro r mem
      obtain ⟨m, made⟩ := all r mem
      exact made.occurredAt.trans now.symm

/-- Only what is met moves the clock. -/
lemma now_step (send : Notice → β → Except ε Unit × β) (d : Workshop β) (e : Event) :
    (d.step send e).ground.now = match e with
      | .meet now _ => now
      | _ => d.ground.now := by
  have dated : (d.storage send).Keeps Ground.now := Ground.keeps_storage _ fun _ _ _ => rfl
  cases e with
  | commit =>
    show (d.commit send).ground.now = d.ground.now
    unfold Workshop.commit
    generalize called : d.tryCommit send = next
    obtain ⟨result, unit, table, ground⟩ := next
    exact Ground.now_tryCommit called
  | track h =>
    simp only [Workshop.step]
    split <;> rfl
  | begin => exact (dated.begin d.unit d.ground).1
  | rollback => exact dated.giveUp d.unit d.ground
  | _ => rfl

/-- Every event keeps the order, as long as it does not move the clock back. -/
lemma Ordered.step (od : Ordered first d) (e : Event)
    (clock : ∀ now verdicts, e = .meet now verdicts → d.ground.now ≤ now) :
    Ordered first (d.step send e) ∧ ∃ rs, Adds first rs d (d.step send e) := by
  have later : d.ground.now ≤ (d.step send e).ground.now := by
    rw [now_step]
    cases e with
    | meet now verdicts => exact clock now verdicts rfl
    | _ => exact Int.le_refl _
  have ov : (d.storage send).Over Ground.store := Ground.over_storage _
  have minted : (Ground.unminted (if d.notifies then some send else none)).Keeps Ground.mint :=
    Ground.keeps_unminted _
  -- Nothing but a commit writes records, and no other event lets the mint go on.
  cases e with
  | commit => exact od.commit
  | track h =>
    simp only [Workshop.step]
    split <;> exact od.of_same (k := 0) od.unstaged rfl rfl rfl (Int.le_refl _)
  | begin =>
    have unstaged := UnitOfWork.unstaged_begin ov od.unstaged d.ground
    obtain ⟨store, -⟩ := ov.begin d.unit d.ground
    obtain ⟨mint, -⟩ := minted.begin d.unit d.ground
    exact od.of_same (k := 0) unstaged store rfl mint later
  | rollback =>
    have unit : (d.step send .rollback).unit = {} :=
      UnitOfWork.rollback_snd (d.storage send) d.unit d.ground
    exact od.of_same (k := 0) (unit ▸ UnitOfWork.unstaged_of_none rfl)
      (ov.giveUp d.unit d.ground) rfl (minted.giveUp d.unit d.ground) later
  | renew => exact od.of_same (k := 0) (UnitOfWork.unstaged_of_none rfl) rfl rfl rfl later
  | _ => exact od.of_same (k := 0) od.unstaged rfl rfl rfl later

end Workshop

end Outbox
