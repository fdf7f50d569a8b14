import Outbox.Proofs.Record

/-!
# Lifecycles

A record from the moment it was made, through any calls that mark it as processed, mark it as failed
or count a retry. `Step` lists all that one call can do. From it come what the fields of a record
tell of each other at every moment (`Lawful`) and what no later call takes away again (`Lasts`);
`lifecycle_after` has both for every run of calls.

A processed record is left alone by all calls, but a dead letter is not: it can still be processed,
and its retries are still counted. `after_deadLettered` says what becomes of it.
-/

namespace Outbox.Record

/-- A call that may change a record. -/
inductive Call
  | markProcessed (at_ : Time.Instant)
  | markFailed (reason : String) (at_ : Time.Instant)
  | countRetry (reason : String) (next : Time.Instant)

namespace Call

/-- Whether a call marks the record as processed. -/
def isProcessing : Call → Bool
  | markProcessed _ => true
  | _ => false

/-- Whether a call marks the record as failed. -/
def isFailing : Call → Bool
  | markFailed .. => true
  | _ => false

/-- Whether a call counts a retry. -/
def isRetry : Call → Bool
  | countRetry .. => true
  | _ => false

end Call

/-- Whether a call says that it changed the record, and the record after it. -/
def call (r : Record) : Call → Bool × Record
  | .markProcessed at_ => ((r.markProcessed? at_).isSome, r.markProcessed at_)
  | .markFailed reason at_ => ((r.markFailed? reason at_).isSome, r.markFailed reason at_)
  | .countRetry reason next => ((r.countRetry? reason next).isSome, r.countRetry reason next)

/-- The record after some calls. -/
def after (r : Record) (cs : List Call) : Record :=
  cs.foldl (fun r c => (r.call c).2) r

/-- A record with which nothing was done since it was made. -/
inductive Made : Record → Prop
  | new (id : Identifier) (typeTag payload : String) (occurredAt : Time.Instant) :
    Made { id, typeTag, payload, occurredAt }
  | ofMessage {id m occurredAt r} : ofMessage id m occurredAt = .ok r → Made r

/-- All that a call can do to a record. -/
inductive Step (r : Record) : Call → Bool × Record → Prop
  /-- A processed record is left alone. -/
  | settled {c} : r.processed = true → Step r c (false, r)
  /-- A record fails for good only once. -/
  | known {reason at_} : r.processed = false → r.isDeadLettered = true →
    Step r (.markFailed reason at_) (false, r)
  | processed {at_} : r.processed = false →
    Step r (.markProcessed at_)
      (true,
        { r with processed := true, processedAt := some at_, error := none, nextAttemptAt := none })
  | failed {reason at_} : r.processed = false → r.isDeadLettered = false →
    Step r (.markFailed reason at_)
      (true, { r with error := some reason, deadLetteredAt := some at_ })
  | retried {reason next} : r.processed = false →
    Step r (.countRetry reason next)
      (true,
        { r with
          retryCount := saturatingSucc r.retryCount, error := some reason,
          nextAttemptAt := some next })

/-- Each call does one of the things that it can do. -/
lemma call_inv (r : Record) (c : Call) : Step r c (r.call c) := by
  cases c with
  | markProcessed at_ =>
    simp only [call, markProcessed, markProcessed?]
    split
    · next done => exact .settled done
    · next un => exact .processed (Bool.eq_false_iff.2 un)
  | markFailed reason at_ =>
    simp only [call, markFailed, markFailed?]
    split
    · next ended =>
      cases done : r.processed with
      | true => exact .settled done
      | false => exact .known done (by simpa [done] using ended)
    · next open_ =>
      obtain ⟨un, alive⟩ := not_or.1 (mt Bool.or_eq_true_iff.2 open_)
      exact .failed (Bool.eq_false_iff.2 un) (Bool.eq_false_iff.2 alive)
  | countRetry reason next =>
    simp only [call, countRetry, countRetry?]
    split
    · next done => exact .settled done
    · next un => exact .retried (Bool.eq_false_iff.2 un)

/-- A call that says it changed nothing has changed nothing. -/
lemma call_eq_self {r : Record} {c : Call} (no : (r.call c).1 = false) : (r.call c).2 = r := by
  generalize result : r.call c = result at *
  cases result ▸ r.call_inv c with
  | settled => rfl
  | known => rfl
  | processed => cases no
  | failed => cases no
  | retried => cases no

/-- What the fields of a record tell of each other. -/
structure Lawful (r : Record) : Prop where
  processedAt : r.processed = true ↔ r.processedAt.isSome = true
  cleared : r.processed = true → r.error = none ∧ r.nextAttemptAt = none
  waits : r.processed = false → (r.nextAttemptAt.isSome = true ↔ 0 < r.retryCount)
  complains : r.processed = false →
    (r.error.isSome = true ↔ 0 < r.retryCount ∨ r.isDeadLettered = true)

/-- A record that was just made has nothing done to it. -/
lemma Made.untouched {r : Record} (made : Made r) :
    r.processed = false ∧ r.retryCount = 0 ∧ r.processedAt = none ∧ r.error = none ∧
      r.deadLetteredAt = none ∧ r.nextAttemptAt = none := by
  cases made with
  | new => exact ⟨rfl, rfl, rfl, rfl, rfl, rfl⟩
  | ofMessage made =>
    have fresh := fresh_of_ofMessage made
    exact ⟨fresh.processed, fresh.retryCount, fresh.untouched⟩

/-- A record that was just made keeps the law. -/
lemma Made.lawful {r : Record} (made : Made r) : r.Lawful := by
  obtain ⟨un, zero, processedAt, error, deadLetteredAt, nextAttemptAt⟩ := made.untouched
  constructor
  · simp [un, processedAt]
  · simp [un]
  · simp [zero, nextAttemptAt]
  · simp [zero, error, isDeadLettered, deadLetteredAt]

/-- However often a record failed already, after one more time it did fail. -/
lemma saturatingSucc_pos (n : UInt32) : 0 < saturatingSucc n := by
  rw [UInt32.lt_iff_toNat_lt, toNat_saturatingSucc]
  exact Nat.lt_min.2 ⟨by decide, Nat.succ_pos _⟩

/-- Counting one more failure never makes fewer. -/
lemma le_saturatingSucc (n : UInt32) : n ≤ saturatingSucc n := by
  have := n.toNat_lt
  rw [UInt32.le_iff_toNat_le, toNat_saturatingSucc]
  omega

/-- Every call keeps the law. -/
lemma Lawful.call {r : Record} (law : r.Lawful) (c : Call) : (r.call c).2.Lawful := by
  generalize result : r.call c = result
  cases result ▸ r.call_inv c with
  | settled => exact law
  | known => exact law
  | processed => exact ⟨by simp, fun _ => ⟨rfl, rfl⟩, nofun, nofun⟩
  | failed un alive =>
    refine ⟨law.processedAt, fun done => ?_, law.waits, fun _ => ?_⟩
    · cases un.symm.trans done
    · simp [isDeadLettered]
  | retried un =>
    refine ⟨law.processedAt, fun done => ?_, fun _ => ?_, fun _ => ?_⟩
    · cases un.symm.trans done
    · simp [saturatingSucc_pos]
    · simp [saturatingSucc_pos]

/-- Every run of calls keeps the law. -/
lemma Lawful.after {r : Record} (law : r.Lawful) (cs : List Call) : (r.after cs).Lawful := by
  induction cs generalizing r with
  | nil => exact law
  | cons c cs ih => exact ih (law.call c)

/-- What lasts of a record in the one that it became. -/
structure Lasts (r r' : Record) : Prop where
  retryCount : r.retryCount ≤ r'.retryCount
  deadLetteredAt : ∀ t, r.deadLetteredAt = some t → r'.deadLetteredAt = some t
  processed : r.processed = true → r' = r

namespace Lasts

variable {r r' r'' : Record}

/-- All of a record lasts where nothing happened. -/
lemma refl (r : Record) : Lasts r r :=
  ⟨UInt32.le_refl _, fun _ dead => dead, fun _ => rfl⟩

/-- What lasts through two runs lasts through both of them one after the other. -/
lemma trans (ls : Lasts r r') (ls' : Lasts r' r'') : Lasts r r'' where
  retryCount := UInt32.le_trans ls.retryCount ls'.retryCount
  deadLetteredAt t dead := ls'.deadLetteredAt t (ls.deadLetteredAt t dead)
  processed done := by
    have same := ls.processed done
    rw [← same] at done
    exact (ls'.processed done).trans same

/-- A dead letter stays one. -/
lemma isDeadLettered (ls : Lasts r r') (dead : r.isDeadLettered = true) :
    r'.isDeadLettered = true := by
  obtain ⟨t, dead⟩ := Option.isSome_iff_exists.1 dead
  exact Option.isSome_iff_exists.2 ⟨t, ls.deadLetteredAt t dead⟩

/-- A record that is not to be relayed any more never is again. -/
lemma isEligible_eq_false (ls : Lasts r r') {ceiling : UInt32}
    (no : r.isEligible ceiling = false) : r'.isEligible ceiling = false := by
  rw [isEligible_eq_false_iff] at *
  obtain done | dead | often := no
  · rw [ls.processed done]
    exact .inl done
  · exact .inr (.inl (ls.isDeadLettered dead))
  · exact .inr (.inr (UInt32.le_trans often ls.retryCount))

end Lasts

/-- No call takes away what lasts. -/
lemma lasts_call (r : Record) (c : Call) : Lasts r (r.call c).2 := by
  generalize result : r.call c = result
  cases result ▸ r.call_inv c with
  | settled => exact .refl r
  | known => exact .refl r
  | processed un =>
    refine ⟨UInt32.le_refl _, fun _ dead => dead, fun done => ?_⟩
    cases un.symm.trans done
  | failed un alive =>
    refine ⟨UInt32.le_refl _, fun t dead => ?_, fun done => ?_⟩
    · rw [isDeadLettered, dead] at alive
      cases alive
    · cases un.symm.trans done
  | retried un =>
    refine ⟨le_saturatingSucc _, fun _ dead => dead, fun done => ?_⟩
    cases un.symm.trans done

/-- No run of calls takes away what lasts. -/
lemma lasts_after (r : Record) (cs : List Call) : Lasts r (r.after cs) := by
  induction cs generalizing r with
  | nil => exact .refl r
  | cons c cs ih => exact (lasts_call r c).trans (ih _)

/-- A call counts a retry or none. -/
lemma descends_call (r : Record) (c : Call) :
    Descends (if c.isRetry then 1 else 0) r (r.call c).2 := by
  cases c with
  | markProcessed at_ => exact descends_markProcessed r at_
  | markFailed reason at_ => exact descends_markFailed r reason at_
  | countRetry reason next => exact descends_countRetry r reason next

/-- A run of calls counts as many retries as there are calls in it that count one. -/
lemma descends_after (r : Record) (cs : List Call) :
    Descends (cs.countP Call.isRetry) r (r.after cs) := by
  induction cs generalizing r with
  | nil => exact .refl r
  | cons c cs ih =>
    rw [List.countP_cons, Nat.add_comm]
    exact (descends_call r c).trans (ih _)

/-- Under every ceiling a record is processed, or a dead letter, or exhausted, or to be relayed. -/
lemma count_standings (r : Record) (ceiling : UInt32) :
    [r.processed, r.isDeadLettered && !r.processed, r.isExhausted ceiling,
      r.isEligible ceiling].count true = 1 := by
  unfold isExhausted isEligible
  by_cases often : ceiling ≤ r.retryCount
  · have few : ¬ r.retryCount < ceiling := UInt32.not_lt.2 often
    cases r.processed <;> cases r.isDeadLettered <;> simp [often, few]
  · have few : r.retryCount < ceiling := UInt32.not_le.1 often
    cases r.processed <;> cases r.isDeadLettered <;> simp [often, few]

/-- A record at any moment after it was made, and at any later one. At every moment its fields tell
of each other what the law says, it stands in one way, and as long as it is unprocessed it has one
retry for each call that counted one, up to the greatest number. What a call says it left alone it
has left alone. Later on there are no fewer retries, the dates at which the record was processed or
dead-lettered are the same, a processed record is the same in every field, and one that is not to be
relayed is not to be relayed again. -/
theorem lifecycle_after {r : Record} (made : Made r) (cs ds : List Call) :
    let now := r.after cs
    let later := now.after ds
    now.Lawful ∧
    (∀ ceiling, [now.processed, now.isDeadLettered && !now.processed, now.isExhausted ceiling,
      now.isEligible ceiling].count true = 1) ∧
    (now.processed = false →
      now.retryCount.toNat = min 4294967295 (cs.countP Call.isRetry)) ∧
    (∀ c, (now.call c).1 = false → (now.call c).2 = now) ∧
    now.retryCount ≤ later.retryCount ∧
    (∀ t, now.processedAt = some t → later.processedAt = some t) ∧
    (∀ t, now.deadLetteredAt = some t → later.deadLetteredAt = some t) ∧
    (now.processed = true → later = now) ∧
    ∀ ceiling, now.isEligible ceiling = false → later.isEligible ceiling = false := by
  intro now later
  have law : now.Lawful := made.lawful.after cs
  have lasts : now.Lasts later := lasts_after now ds
  refine ⟨law, now.count_standings, fun un => ?_, fun c => call_eq_self, lasts.retryCount,
    fun t at_ => ?_, lasts.deadLetteredAt, lasts.processed, fun _ => lasts.isEligible_eq_false⟩
  · have retries := (descends_after r cs).retries un
    obtain ⟨-, zero, -⟩ := made.untouched
    rwa [zero, UInt32.toNat_zero, Nat.zero_add] at retries
  · have done := law.processedAt.2 (Option.isSome_iff_exists.2 ⟨t, at_⟩)
    rw [lasts.processed done]
    exact at_

/-- A record of a message whose tag nobody knows. -/
def unknown : Record where
  id := ⟨1⟩
  typeTag := "catalog.product.lost"
  payload := "\x7b\x7d"
  occurredAt := .epoch

/-- Of a record that failed once, then for good, and then once more before it was processed. -/
theorem lifecycle_after_failures :
    let now := unknown.after [.countRetry "timeout" .epoch, .markFailed "type not found" .epoch]
    let later := now.after [.countRetry "timeout" .epoch, .markProcessed .epoch]
    Made unknown ∧ now.Lawful ∧ now.processed = false ∧ now.retryCount.toNat = 1 ∧
      now.retryCount ≤ later.retryCount ∧ later.deadLetteredAt = some .epoch ∧
      later.isEligible 10 = false := by
  have made : Made unknown := .new ..
  obtain ⟨law, -, retries, -, grows, -, dead, -, no⟩ :=
    lifecycle_after made [.countRetry "timeout" .epoch, .markFailed "type not found" .epoch]
      [.countRetry "timeout" .epoch, .markProcessed .epoch]
  exact ⟨made, law, rfl, retries rfl, grows, dead .epoch rfl, no 10 rfl⟩

/-- Whether a record is processed depends on whether a call has marked it. -/
lemma processed_after (r : Record) (cs : List Call) :
    (r.after cs).processed = (r.processed || cs.any Call.isProcessing) := by
  induction cs generalizing r with
  | nil => simp [after]
  | cons c cs ih =>
    show ((r.call c).2.after cs).processed = _
    rw [ih, List.any_cons, ← Bool.or_assoc]
    congr 1
    cases c with
    | markProcessed at_ => exact (processed_markProcessed r at_).trans (Bool.or_true _).symm
    | markFailed reason at_ =>
      exact (processed_markFailed r reason at_).trans (Bool.or_false _).symm
    | countRetry reason next =>
      exact (processed_countRetry r reason next).trans (Bool.or_false _).symm

/-- A dead letter cannot fail for good again. -/
lemma after_eq_self {r : Record} (dead : r.isDeadLettered = true) {cs : List Call}
    (failing : ∀ c ∈ cs, c.isFailing = true) : r.after cs = r := by
  induction cs with
  | nil => rfl
  | cons c cs ih =>
    obtain ⟨here, behind⟩ := List.forall_mem_cons.1 failing
    have same : (r.call c).2 = r := by
      cases c with
      | markFailed reason at_ => simp [call, markFailed, markFailed?, dead]
      | _ => cases here
    show (r.call c).2.after cs = r
    rw [same]
    exact ih behind

/-- A dead letter that is not processed, after some further calls. Its mark is the same, and it is
not to be relayed again. It is left as it is as long as all calls mark it as failed, and only as
long as that unless its retries are at the greatest number: a call that marks it as processed makes
it a processed record, and a call that counts a retry counts one more. -/
theorem after_deadLettered {r : Record} (dead : r.isDeadLettered = true)
    (un : r.processed = false) (cs : List Call) :
    let later := r.after cs
    later.deadLetteredAt = r.deadLetteredAt ∧
    (∀ ceiling, later.isEligible ceiling = false) ∧
    ((∀ c ∈ cs, c.isFailing = true) → later = r) ∧
    (r.retryCount < 4294967295 → later = r → ∀ c ∈ cs, c.isFailing = true) ∧
    (later.processed = true ↔ ∃ c ∈ cs, c.isProcessing = true) ∧
    (later.processed = false →
      later.retryCount.toNat =
        min 4294967295 (r.retryCount.toNat + cs.countP Call.isRetry)) := by
  intro later
  have lasts : Lasts r later := lasts_after r cs
  have processed : later.processed = cs.any Call.isProcessing := by
    rw [processed_after, un, Bool.false_or]
  have retries := (descends_after r cs).retries
  obtain ⟨t, at_⟩ := Option.isSome_iff_exists.1 dead
  refine ⟨?_, fun ceiling => ?_, after_eq_self dead, fun few same c mem => ?_, ?_, retries⟩
  · rw [at_]
    exact lasts.deadLetteredAt t at_
  · exact lasts.isEligible_eq_false (isEligible_eq_false_iff.2 (.inr (.inl dead)))
  -- Had a call been of another kind, it would show in the record.
  · have none : cs.any Call.isProcessing = false := by rw [← processed, same, un]
    have kept : later.retryCount.toNat = r.retryCount.toNat := by rw [same]
    have counted := kept.symm.trans (retries (processed.trans none))
    have few : r.retryCount.toNat < 4294967295 := UInt32.lt_iff_toNat_lt.1 few
    have zero : cs.countP Call.isRetry = 0 := by omega
    have idle := List.countP_eq_zero.1 zero c mem
    have calm := List.any_eq_false.1 none c mem
    cases c with
    | markProcessed => exact absurd rfl calm
    | markFailed => rfl
    | countRetry => exact absurd rfl idle
  · rw [processed, List.any_eq_true]

/-- Of a record that failed for good, then once more, and then for good again. -/
theorem after_deadLettered_unknown :
    let dead := unknown.markFailed "type not found" .epoch
    let later := dead.after [.countRetry "timeout" .epoch, .markFailed "gone" .epoch]
    dead.isDeadLettered = true ∧ dead.processed = false ∧ later.deadLetteredAt = some .epoch ∧
      later.isEligible 10 = false ∧ later ≠ dead := by
  have un : (unknown.markFailed "type not found" .epoch).processed = false := rfl
  obtain ⟨mark, no, -, only, -⟩ := after_deadLettered rfl un
    [.countRetry "timeout" .epoch, .markFailed "gone" .epoch]
  refine ⟨rfl, un, mark, no 10, fun same => ?_⟩
  cases only (by decide) same _ List.mem_cons_self

/-- A dead letter does not stay as it is: a retry is counted and replaces the reason why it failed
for good, and then it is processed and has no reason at all. -/
theorem deadLetter_revived :
    let dead := unknown.markFailed "type not found" .epoch
    let retried := dead.after [.countRetry "timeout" .epoch]
    let revived := retried.after [.markProcessed .epoch]
    dead.isDeadLettered = true ∧ dead.processed = false ∧ dead.retryCount = 0 ∧
      dead.error = some "type not found" ∧ retried.retryCount = 1 ∧
      retried.error = some "timeout" ∧ revived.processed = true ∧ revived.error = none :=
  ⟨rfl, rfl, rfl, rfl, rfl, rfl, rfl, rfl⟩

end Outbox.Record
