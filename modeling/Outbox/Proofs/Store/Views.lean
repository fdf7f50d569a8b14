import Outbox.Proofs.Store

/-!
# What operators see

The counters of a store, the records that are still relayed and the list of dead letters, compared
with each other. Every record stands in one way, and the counters and the fetches go by that. The
list of dead letters does not: it also shows the records that were processed after they were
dead-lettered, and `views_agree` says that this is the only difference.
-/

namespace Outbox

namespace Record

variable {r : Record} {ceiling : UInt32}

/-- A record is relayed as long as it is pending. -/
lemma standing_eq_pending_iff : r.standing ceiling = .pending ↔ r.isEligible ceiling = true := by
  unfold standing isEligible isExhausted
  cases r.processed <;> cases r.isDeadLettered <;> simp

/-- A record has waited long enough if its next attempt, if there is one, is not still to come. -/
lemma isDue_iff {now : Time.Instant} :
    r.isDue now = true ↔ ∀ next, r.nextAttemptAt = some next → next ≤ now := by
  unfold isDue
  cases r.nextAttemptAt <;> simp

/-- A processed record stands as processed, even if it is dead-lettered or exhausted. -/
lemma standing_eq_processed_iff : r.standing ceiling = .processed ↔ r.processed = true := by
  unfold standing
  cases r.processed <;> cases r.isDeadLettered <;> cases r.isExhausted ceiling <;> simp

/-- Of the records that are not processed those are listed that stand as dead-lettered or as
exhausted. -/
lemma listed_iff_of_unprocessed (un : r.processed = false) :
    (r.isDeadLettered || r.isExhausted ceiling) = true ↔
      r.standing ceiling = .deadLettered ∨ r.standing ceiling = .exhausted := by
  unfold standing
  cases r.isDeadLettered <;> cases r.isExhausted ceiling <;> simp [un]

/-- Of the records that are processed those are listed that were dead-lettered before. -/
lemma listed_iff_of_processed (done : r.processed = true) :
    (r.isDeadLettered || r.isExhausted ceiling) = true ↔ r.isDeadLettered = true := by
  simp [isExhausted, done]

end Record

namespace Store

variable (s : Store) (ceiling : UInt32)

/-- Every record is counted once. -/
lemma size_eq_stats :
    (s.stats ceiling).pending + (s.stats ceiling).processed + (s.stats ceiling).deadLettered +
      (s.stats ceiling).exhausted = s.records.size := by
  unfold stats count Keyed.size
  induction s.records.items with
  | nil => rfl
  | cons r rs ih =>
    simp only [List.length_cons, List.countP_cons, ← ih]
    cases r.standing ceiling <;> simp <;> omega

/-- Without a limit, and once every record has waited out its last failure, all pending records are
fetched. -/
lemma length_fetch {now limit} (room : s.records.size ≤ limit)
    (due : ∀ r ∈ s.records.items, r.isDue now = true) :
    (s.fetch now limit ceiling).length = (s.stats ceiling).pending := by
  have all : s.records.items.countP (·.isEligible ceiling) = s.count ceiling .pending :=
    List.countP_congr fun r _ => by simp [Record.standing_eq_pending_iff]
  rw [length_fetch_of_isDue due, Nat.min_eq_right (Nat.le_trans List.countP_le_length room), all]
  rfl

/-- Without a limit the dead letters are the records counted as dead-lettered or exhausted, and
those that were processed although they are dead-lettered. -/
lemma length_deadLetters {limit} (room : s.records.size ≤ limit) :
    (s.deadLetters ceiling limit).length =
      (s.stats ceiling).deadLettered + (s.stats ceiling).exhausted +
        s.records.items.countP fun r => r.processed && r.isDeadLettered := by
  have le := List.length_filter_le (fun r => r.isDeadLettered || r.isExhausted ceiling)
    s.records.items
  rw [deadLetters, List.length_take, Record.oldestFirst, List.length_mergeSort,
    Nat.min_eq_right (Nat.le_trans le room), ← List.countP_eq_length_filter]
  clear le room
  simp only [stats, count]
  -- Each record counts as much on the one side as on the other.
  induction s.records.items with
  | nil => rfl
  | cons r rs ih =>
    simp only [List.countP_cons, ih]
    cases un : r.processed with
    | false =>
      simp only [Record.listed_iff_of_unprocessed un]
      cases r.standing ceiling <;> simp <;> omega
    | true =>
      simp only [Record.listed_iff_of_processed un, Record.standing_eq_processed_iff.2 un]
      cases r.isDeadLettered with
      | false => simp
      | true =>
        simp
        omega

/-- A record that is listed as a dead letter is dead-lettered or exhausted. -/
lemma listed_of_mem_deadLetters {limit r} (mem : r ∈ s.deadLetters ceiling limit) :
    (r.isDeadLettered || r.isExhausted ceiling) = true :=
  (List.mem_filter.1 (List.mem_mergeSort.1 (List.mem_of_mem_take mem))).2

/-- The counters add up to the number of records. Once every record has waited out its last failure,
as many are fetched without a limit as are pending, and no record that is fetched is listed as a
dead letter. The list has the records that are counted as dead-lettered or exhausted; beside these
it has the records that are processed although they are dead-lettered, which are counted as
processed, and no others. -/
theorem views_agree {now limit} (room : s.records.size ≤ limit)
    (due : ∀ r ∈ s.records.items, ∀ next, r.nextAttemptAt = some next → next ≤ now) :
    let counts := s.stats ceiling
    let listed := s.deadLetters ceiling limit
    let late := s.records.items.countP fun r => r.processed && r.isDeadLettered
    counts.pending + counts.processed + counts.deadLettered + counts.exhausted = s.records.size ∧
      (s.fetch now limit ceiling).length = counts.pending ∧
      listed.length = counts.deadLettered + counts.exhausted + late ∧
      (∀ r ∈ s.fetch now limit ceiling, r.processed = false ∧ r ∉ listed) ∧
      ∀ r ∈ listed,
        r.standing ceiling = .processed ↔ r.processed = true ∧ r.isDeadLettered = true := by
  have due r mem := Record.isDue_iff.2 (due r mem)
  refine ⟨s.size_eq_stats ceiling, s.length_fetch ceiling room due,
    s.length_deadLetters ceiling room, fun r mem => ?_, fun r mem => ?_⟩
  · have pending := Record.standing_eq_pending_iff.2 (isEligible_of_mem_fetch mem)
    have un : r.processed = false := by
      cases done : r.processed with
      | false => rfl
      | true => cases pending.symm.trans (Record.standing_eq_processed_iff.2 done)
    refine ⟨un, fun dead => ?_⟩
    have listed := s.listed_of_mem_deadLetters ceiling dead
    rcases (Record.listed_iff_of_unprocessed un).1 listed with dead | dead <;>
      cases pending.symm.trans dead
  · have listed := s.listed_of_mem_deadLetters ceiling mem
    rw [Record.standing_eq_processed_iff]
    exact ⟨fun done => ⟨done, (Record.listed_iff_of_processed done).1 listed⟩, And.left⟩

/-- A record of a message whose tag nobody knows. -/
def stray : Record where
  id := ⟨1⟩
  typeTag := "catalog.product.lost"
  payload := "\x7b\x7d"
  occurredAt := .epoch

/-- A store with this record, processed after it was dead-lettered. -/
def revived : Store where
  records := .put .empty ((stray.markFailed "type not found" .epoch).markProcessed .epoch)
  entities := .empty

/-- The only record of the store is listed as a dead letter. -/
lemma deadLetters_revived : (revived.deadLetters 10 100).map Record.id = [stray.id] := by
  show (List.take 100 (List.mergeSort [_] _)).map Record.id = _
  rw [List.mergeSort_singleton]
  rfl

/-- Nothing waits in the store, and its only dead letter is late. -/
theorem views_agree_revived :
    revived.records.size ≤ 100 ∧
      (∀ r ∈ revived.records.items, ∀ next, r.nextAttemptAt = some next → next ≤ .epoch) ∧
      (revived.fetch .epoch 100 10).length = 0 ∧
      (revived.deadLetters 10 100).length = 0 + 0 + 1 := by
  have room : revived.records.size ≤ 100 := by decide
  have due : ∀ r ∈ revived.records.items, ∀ next, r.nextAttemptAt = some next → next ≤ .epoch := by
    intro r mem next waits
    cases List.mem_singleton.1 mem
    cases waits
  obtain ⟨-, fetched, listed, -⟩ := views_agree revived 10 room due
  exact ⟨room, due, fetched, listed⟩

/-- Calls lead to a store whose counters know of one processed record and of no other, and which
lists this very record as a dead letter. -/
theorem processed_deadLetter_listed :
    ∃ s₁ s₂, empty.insert stray = .ok s₁ ∧
      s₁.markFailed .epoch stray.id "type not found" = .ok s₂ ∧
      s₂.markProcessed .epoch stray.id = .ok revived ∧
      revived.stats 10 = ⟨0, 1, 0, 0⟩ ∧ (revived.deadLetters 10 100).map Record.id = [stray.id] :=
  ⟨_, _, rfl, rfl, rfl, rfl, deadLetters_revived⟩

end Store

end Outbox
