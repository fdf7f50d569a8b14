import Mathlib.Data.List.Nodup
import Mathlib.Tactic.Lemma
import Outbox.Proofs.Store

/-!
# What is fetched

A fetch gives the oldest of the records that are ready: those that are to be relayed and have waited
out their last failure. No other record matters to it (`fetch_eq_of_ready`), neither one that is
there nor one that is not, and so the main statement `fetch_exact` also says what a failure means
for the fetches after it: up to some instant the record takes no place in a batch, and from then on
it is as if it had never had to wait.
-/

namespace Outbox

namespace Record

/-- Whether a record is older than another one, or as old and with a smaller identifier. -/
def Older (a b : Record) : Prop :=
  a.occurredAt < b.occurredAt ∨ a.occurredAt = b.occurredAt ∧ a.id.number < b.id.number

/-- Of two records with different identifiers, one that is relayed before the other is older. -/
lemma older_of_isBefore {a b : Record} (before : a.isBefore b = true) (other : a.id ≠ b.id) :
    a.Older b := by
  have number : a.id.number ≠ b.id.number := fun same =>
    other (congrArg Identifier.mk (BitVec.toNat_inj.1 same))
  obtain less | ⟨same, le⟩ := isBefore_iff.1 before
  · exact .inl less
  · exact .inr ⟨Time.Instant.rank_inj same, Nat.lt_of_le_of_ne le number⟩

/-- Whether a record is to be relayed and has waited out its last failure. -/
def isReady (ceiling : UInt32) (now : Time.Instant) (r : Record) : Bool :=
  r.isEligible ceiling && r.isDue now

/-- A record is ready if it is to be relayed and has waited out its last failure. -/
lemma isReady_iff {r : Record} {ceiling now} :
    r.isReady ceiling now = true ↔ r.isEligible ceiling = true ∧ r.isDue now = true :=
  Bool.and_eq_true_iff

/-- The record without a wait for its next attempt. -/
def undelayed (r : Record) : Record :=
  { r with nextAttemptAt := none }

/-- A record that has waited long enough is as ready as one that never had to wait. -/
lemma isReady_undelayed {r : Record} {ceiling now} (due : r.isDue now = true) :
    r.undelayed.isReady ceiling now = r.isReady ceiling now := by
  have due' : r.undelayed.isDue now = true := rfl
  rw [isReady, isReady, due, due']
  rfl

end Record

namespace Store
open Record (Older isReady)

/-- The store without the record of an identifier. -/
def without (s : Store) (id : Identifier) : Store :=
  { s with records := s.records.remove id }

/-- The store in which the record of an identifier does not have to wait. -/
def undelayed (s : Store) (id : Identifier) : Store :=
  { s with records := s.records.adjust id .undelayed fun _ => rfl }

variable {s s' : Store} {now : Time.Instant} {ceiling : UInt32}

/-- The records of a store are those that it finds under their identifiers. -/
lemma mem_items_iff {r : Record} : r ∈ s.records.items ↔ s.get? r.id = some r := by
  rw [get?, Keyed.find?_eq_some_iff, and_iff_left rfl]

/-- No two ready records have the same identifier. -/
lemma nodup_ready (s : Store) (now : Time.Instant) (ceiling : UInt32) :
    ((s.records.items.filter (isReady ceiling now)).map Record.id).Nodup :=
  s.records.distinct.sublist (List.filter_sublist.map Record.id)

/-- All ready records, the oldest ones first. -/
def ready (s : Store) (now : Time.Instant) (ceiling : UInt32) : List Record :=
  Record.oldestFirst (s.records.items.filter (isReady ceiling now))

/-- A fetch brings the first of all ready records. -/
lemma fetch_eq_take (s : Store) (now : Time.Instant) (limit : Nat) (ceiling : UInt32) :
    s.fetch now limit ceiling = (s.ready now ceiling).take limit :=
  rfl

/-- A record is among the ready ones if it is stored and ready. -/
lemma mem_ready_iff {r : Record} :
    r ∈ s.ready now ceiling ↔ r ∈ s.records.items ∧ r.isReady ceiling now = true := by
  rw [ready, Record.oldestFirst, List.mem_mergeSort, List.mem_filter]

/-- There are as many ready records as the store holds. -/
lemma length_ready :
    (s.ready now ceiling).length = s.records.items.countP (isReady ceiling now) := by
  rw [ready, Record.oldestFirst, List.length_mergeSort, List.countP_eq_length_filter]

/-- Every ready record is older than those behind it. -/
lemma pairwise_ready (s : Store) (now : Time.Instant) (ceiling : UInt32) :
    (s.ready now ceiling).Pairwise Older := by
  have ordered : (s.ready now ceiling).Pairwise fun a b => a.isBefore b = true :=
    List.pairwise_mergeSort Record.isBefore_trans Record.isBefore_total _
  have nodup : ((s.ready now ceiling).map Record.id).Nodup :=
    ((List.mergeSort_perm ..).map Record.id).nodup_iff.2 (s.nodup_ready now ceiling)
  exact ordered.imp₂ (fun _ _ => Record.older_of_isBefore) (List.pairwise_map.1 nodup)

/-- Stores with the same ready records give the same batch, in whatever order they hold them and
whatever else they hold. -/
lemma fetch_eq_of_ready (same : ∀ r : Record, r.isReady ceiling now = true →
      (s'.get? r.id = some r ↔ s.get? r.id = some r)) (limit : Nat) :
    s'.fetch now limit ceiling = s.fetch now limit ceiling := by
  have perm : (s'.records.items.filter (isReady ceiling now)).Perm
      (s.records.items.filter (isReady ceiling now)) := by
    refine (List.perm_ext_iff_of_nodup ?_ ?_).2 fun r => ?_
    · exact (s'.nodup_ready now ceiling).of_map
    · exact (s.nodup_ready now ceiling).of_map
    · rw [List.mem_filter, List.mem_filter, mem_items_iff, mem_items_iff]
      exact and_congr_left (same r)
  rw [fetch_eq_take, fetch_eq_take, ready, ready,
    Record.oldestFirst_eq_of_perm perm (s'.nodup_ready now ceiling)]

/-- No record is found any more under an identifier that was taken out. -/
lemma get?_without (s : Store) (id j : Identifier) :
    (s.without id).get? j = if j = id then none else s.get? j :=
  Keyed.find?_remove

/-- A record that failed is not ready before its next attempt. From then on it is due, unless it was
processed before it failed. -/
lemma ready_countRetry (r : Record) (ceiling : UInt32) (now : Time.Instant) (reason : String)
    (next : Time.Instant) :
    (now < next → (r.countRetry reason next).isReady ceiling now = false) ∧
      (next ≤ now → (r.countRetry reason next).isDue now = true ∨
        (r.countRetry reason next).processed = true) := by
  unfold Record.countRetry Record.countRetry?
  cases done : r.processed with
  | true => exact ⟨fun _ => by simp [isReady, Record.isEligible, done], fun _ => .inr done⟩
  | false =>
    refine ⟨fun early => ?_, fun late => .inl (decide_eq_true late)⟩
    have waits : ¬ next ≤ now := Int.not_le.2 early
    simp [isReady, Record.isDue, waits]

/-- Up to its next attempt a record that failed takes no place in a batch. -/
lemma fetch_before_retry {id reason next hf}
    (upd : s.update id (·.countRetry reason next) hf = .ok s') (early : now < next) (limit : Nat) :
    s'.fetch now limit ceiling = (s.without id).fetch now limit ceiling := by
  refine fetch_eq_of_ready (fun r ready => ?_) limit
  rw [get?_update upd, get?_without]
  split
  · refine iff_of_false (fun here => ?_) nofun
    obtain ⟨r', -, rfl⟩ := Option.map_eq_some_iff.1 here
    cases ready.symm.trans ((ready_countRetry ..).1 early)
  · rfl

/-- Records that are replaced by others which are as ready and as old leave them their places. -/
lemma fetch_map {f : Record → Record} (items : s'.records.items = s.records.items.map f)
    (ready : ∀ r ∈ s.records.items, (f r).isReady ceiling now = r.isReady ceiling now)
    (old : ∀ a b : Record, (f a).isBefore (f b) = a.isBefore b) (limit : Nat) :
    s'.fetch now limit ceiling = (s.fetch now limit ceiling).map f := by
  have filter : s'.records.items.filter (isReady ceiling now) =
      (s.records.items.filter (isReady ceiling now)).map f := by
    rw [items, List.filter_map]
    exact congrArg (List.map f) (List.filter_congr ready)
  have sorted : ((s.records.items.filter (isReady ceiling now)).mergeSort Record.isBefore).map f =
      ((s.records.items.filter (isReady ceiling now)).map f).mergeSort Record.isBefore :=
    List.map_mergeSort fun a _ b _ => (old a b).symm
  rw [fetch_eq_take, fetch_eq_take, Store.ready, Store.ready, filter, List.map_take,
    Record.oldestFirst, Record.oldestFirst, sorted]

/-- From its next attempt on a record that failed has the place that it would have if it did not
have to wait. -/
lemma fetch_after_retry {id reason next hf}
    (upd : s.update id (·.countRetry reason next) hf = .ok s') (late : next ≤ now) (limit : Nat) :
    (s'.undelayed id).fetch now limit ceiling =
      (s'.fetch now limit ceiling).map fun r => if r.id = id then r.undelayed else r := by
  refine fetch_map rfl (fun r mem => ?_) (fun a b => ?_) limit
  · split
    · next here =>
      have found := mem_items_iff.1 mem
      rw [get?_update upd, if_pos here] at found
      obtain ⟨r', -, rfl⟩ := Option.map_eq_some_iff.1 found
      obtain due | done := (ready_countRetry r' ceiling now reason next).2 late
      · exact Record.isReady_undelayed due
      · have done' : (r'.countRetry reason next).undelayed.processed = true := done
        simp [isReady, Record.isEligible, done, done']
    · rfl
  · split <;> split <;> rfl

/-- A fetch gives ready records, each of them older than the next one, as many as there are and as
the limit allows, and leaves no older one out. It depends on nothing but the ready records of the
store: not on their order there, and not on records that are not to be relayed or still have to
wait. In particular a record whose failure is counted takes no place in a batch until it has waited
as long as it is told to, and from then on it takes the place that it would have without a wait. -/
theorem fetch_exact (s : Store) (now : Time.Instant) (limit : Nat) (ceiling : UInt32) :
    let batch := s.fetch now limit ceiling
    batch.Pairwise Older ∧
    batch.length = min limit (s.records.items.countP (isReady ceiling now)) ∧
    (∀ r ∈ batch, s.get? r.id = some r ∧ r.isEligible ceiling = true ∧ r.isDue now = true) ∧
    (∀ r, s.get? r.id = some r → r.isEligible ceiling = true → r.isDue now = true → r ∉ batch →
      ∀ r' ∈ batch, r'.Older r) ∧
    (∀ s' : Store, s'.records.items.Perm s.records.items → s'.fetch now limit ceiling = batch) ∧
    (∀ s' : Store,
      (∀ r : Record, r.isEligible ceiling = true → r.isDue now = true →
        (s'.get? r.id = some r ↔ s.get? r.id = some r)) →
      s'.fetch now limit ceiling = batch) ∧
    ∀ (failed : Time.Instant) (id : Identifier) (reason : String) (delay : Time.Span) (s' : Store),
      s.countRetry failed id reason delay = .ok s' →
      ∃ next, failed.add? delay = some next ∧
        (now < next → s'.fetch now limit ceiling = (s.without id).fetch now limit ceiling ∧
          ∀ r ∈ s'.fetch now limit ceiling, r.id ≠ id) ∧
        (next ≤ now → (s'.fetch now limit ceiling).map Record.id =
          ((s'.undelayed id).fetch now limit ceiling).map Record.id) := by
  intro batch
  have ordered := s.pairwise_ready now ceiling
  have member : ∀ {s : Store} {r}, r ∈ s.fetch now limit ceiling →
      s.get? r.id = some r ∧ r.isReady ceiling now = true := by
    intro s r mem
    obtain ⟨here, ready⟩ := mem_ready_iff.1 (List.mem_of_mem_take mem)
    exact ⟨mem_items_iff.1 here, ready⟩
  refine ⟨ordered.sublist (List.take_sublist ..), ?_, fun r mem => ?_, ?_, fun s' perm => ?_,
    fun s' same => ?_, ?_⟩
  · exact List.length_take.trans (congrArg _ length_ready)
  · exact ⟨(member mem).1, Record.isReady_iff.1 (member mem).2⟩
  · intro r here eligible due out r' mem
    -- What is left out comes behind what is taken.
    have all : r ∈ batch ++ (s.ready now ceiling).drop limit := by
      rw [show batch = (s.ready now ceiling).take limit from rfl, List.take_append_drop]
      exact mem_ready_iff.2 ⟨mem_items_iff.2 here, Record.isReady_iff.2 ⟨eligible, due⟩⟩
    rw [← List.take_append_drop limit (s.ready now ceiling)] at ordered
    exact (List.pairwise_append.1 ordered).2.2 r' mem r ((List.mem_append.1 all).resolve_left out)
  · refine fetch_eq_of_ready (fun r _ => ?_) limit
    rw [← mem_items_iff, ← mem_items_iff, perm.mem_iff]
  · refine fetch_eq_of_ready (fun r ready => ?_) limit
    obtain ⟨eligible, due⟩ := Record.isReady_iff.1 ready
    exact same r eligible due
  · intro failed id reason delay s' count
    obtain ⟨next, later, upd⟩ := countRetry_inv count
    refine ⟨next, later, fun early => ?_, fun late => ?_⟩
    · have without : s'.fetch now limit ceiling = (s.without id).fetch now limit ceiling :=
        fetch_before_retry upd early limit
      refine ⟨without, fun r mem same => ?_⟩
      have here := (member (without ▸ mem)).1
      rw [get?_without, if_pos same] at here
      cases here
    · rw [fetch_after_retry upd late, List.map_map]
      refine List.map_congr_left fun r _ => ?_
      show r.id = Record.id (if r.id = id then r.undelayed else r)
      split <;> rfl

/-- A store with two records that are as old as each other. -/
def twins : Store where
  records := ⟨[⟨⟨1⟩, "stock.low", "", .epoch, false, none, none, 0, none, none⟩,
    ⟨⟨2⟩, "stock.low", "", .epoch, false, none, none, 0, none, none⟩], by decide⟩
  entities := .empty

/-- The instant of a second of the first day. -/
def secondOf (n : Nat) (small : n < 86400) : Time.Instant :=
  { Time.Instant.epoch with second := n, second_lt := small }

/-- A minute. -/
def minute : Time.Span :=
  ⟨60000000000, by decide, by decide⟩

/-- With a limit of one, a record that failed leaves its place to the other one for a minute. -/
theorem fetch_exact_twins :
    ∃ s', twins.countRetry .epoch ⟨1⟩ "timeout" minute = .ok s' ∧
      (s'.fetch (secondOf 59 (by decide)) 1 10).map Record.id = [⟨2⟩] ∧
      (s'.fetch (secondOf 60 (by decide)) 1 10).map Record.id = [⟨1⟩] := by
  refine ⟨_, rfl, ?_, ?_⟩
  · obtain ⟨-, -, -, -, -, -, waits⟩ := fetch_exact twins (secondOf 59 (by decide)) 1 10
    obtain ⟨next, later, early, -⟩ := waits .epoch ⟨1⟩ "timeout" minute _ rfl
    cases later
    rw [(early (by decide)).1, fetch_eq_take, ready, Record.oldestFirst,
      List.mergeSort_of_pairwise (by decide)]
    rfl
  · obtain ⟨-, -, -, -, -, -, waits⟩ := fetch_exact twins (secondOf 60 (by decide)) 1 10
    obtain ⟨next, later, -, late⟩ := waits .epoch ⟨1⟩ "timeout" minute _ rfl
    cases later
    rw [late (by decide), fetch_eq_take, ready, Record.oldestFirst,
      List.mergeSort_of_pairwise (by decide)]
    rfl

end Store

end Outbox
