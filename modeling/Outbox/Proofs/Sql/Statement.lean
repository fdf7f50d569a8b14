import Outbox.Proofs.Record
import Outbox.Proofs.Sql.Row

/-!
# What commands mean for records

The conditions of the commands are always true or false on the row of a record, never neither, and
ask what the program asks of the record. Where an update applies, it leaves the row of the record
that the program would make: `Changes` says so of a command, and there is one lemma for each command
that changes records.
-/

namespace Outbox.Sql

open Condition (compare isNull isNotNull)

namespace Truth

/-- Of what is not unknown, both are true as usual. -/
@[simp] lemma and_some (a b : Bool) : Truth.and (some a) (some b) = some (a && b) := by
  cases a <;> cases b <;> rfl

/-- Of what is not unknown, either is true as usual. -/
@[simp] lemma or_some (a b : Bool) : Truth.or (some a) (some b) = some (a || b) := by
  cases a <;> cases b <;> rfl

end Truth

/-- Both conditions are as true as the two of them together. -/
@[simp] lemma truth_and {row : Row} {ps : Parameters} (a b : Condition) :
    (a.and b).truth row ps = (a.truth row ps).and (b.truth row ps) := rfl

/-- Both conditions hold for certain when each of them does. -/
lemma holds_and {ps : Parameters} {row : Row} (a b : Condition) :
    (a.and b).holds ps row = (a.holds ps row && b.holds ps row) := by
  show decide ((a.truth row ps).and (b.truth row ps) = some true) = _
  unfold Condition.holds
  obtain _ | _ | _ := a.truth row ps <;> obtain _ | _ | _ := b.truth row ps <;> rfl

/-- Either condition holds for certain when one of them does. -/
lemma holds_or {ps : Parameters} {row : Row} (a b : Condition) :
    (a.or b).holds ps row = (a.holds ps row || b.holds ps row) := by
  show decide ((a.truth row ps).or (b.truth row ps) = some true) = _
  unfold Condition.holds
  obtain _ | _ | _ := a.truth row ps <;> obtain _ | _ | _ := b.truth row ps <;> rfl

/-- A condition that is true or false holds for certain when it is true. -/
lemma holds_eq {condition : Condition} {ps : Parameters} {row : Row} {b : Bool}
    (here : condition.truth row ps = some b) : condition.holds ps row = b := by
  rw [Condition.holds, here]
  cases b <;> rfl

section Conditions

variable {r : Record} (ps : Parameters)

/-- The condition for what waits asks whether the record is unprocessed. -/
@[simp] lemma truth_unprocessed : unprocessed.truth (Row.ofRecord r) ps = some !r.processed := by
  show some (decide (_ = Ordering.eq)) = _
  cases r.processed <;> rfl

/-- The condition for what is done asks whether the record is processed. -/
@[simp] lemma truth_processed :
    (compare .equal (.column .processed) (.boolean true)).truth (Row.ofRecord r) ps =
      some r.processed := by
  show some (decide (_ = Ordering.eq)) = _
  cases r.processed <;> rfl

/-- A row has no date of its dead letter if the record is none. -/
@[simp] lemma truth_isNull_deadLetteredAt :
    (isNull .deadLetteredAt).truth (Row.ofRecord r) ps = some !r.isDeadLettered := by
  unfold Record.isDeadLettered
  show some (Value.ofOption .ofInstant r.deadLetteredAt).isNull = _
  cases r.deadLetteredAt <;> rfl

/-- A row has the date of its dead letter if the record is one. -/
@[simp] lemma truth_isNotNull_deadLetteredAt :
    (isNotNull .deadLetteredAt).truth (Row.ofRecord r) ps = some r.isDeadLettered := by
  unfold Record.isDeadLettered
  show some (!(Value.ofOption .ofInstant r.deadLetteredAt).isNull) = _
  cases r.deadLetteredAt <;> rfl

/-- The condition for an identifier asks whether the record has it. -/
lemma truth_hasId {id : Identifier} (first : ps.get 1 = .uuid id) :
    hasId.truth (Row.ofRecord r) ps = some (decide (r.id = id)) := by
  show ((Value.uuid r.id).order? (ps.get 1)).map _ = _
  rw [first]
  refine congrArg some (decide_eq_decide.2 ?_)
  rw [← order?_uuid_iff, Value.order?, Option.some.injEq]

section Ceiling

variable {ceiling : UInt32} (fits : r.Fits) (low : ceiling.toNat ≤ 2147483647)
  (first : ps.get 1 = .ofCount ceiling)
include fits low first

/-- The number of failures is compared with the ceiling as it is, since no column of counts and no
parameter cuts either of them off. -/
lemma truth_retryCount (c : Comparison) :
    (compare c (.column .retryCount) (.parameter 1)).truth (Row.ofRecord r) ps =
      some (c.holds (Ord.compare (r.retryCount.toNat : Int) ceiling.toNat)) := by
  show ((Value.ofCount r.retryCount).order? (ps.get 1)).map _ = _
  rw [first, ofCount_eq fits.retryCount, ofCount_eq low]
  rfl

/-- The condition for the ceiling asks whether the record failed less often. -/
lemma truth_belowCeiling :
    belowCeiling.truth (Row.ofRecord r) ps = some (decide (r.retryCount < ceiling)) := by
  rw [belowCeiling, truth_retryCount ps fits low first]
  refine congrArg some (decide_eq_decide.2 ?_)
  rw [Int.compare_eq_lt, Int.ofNat_lt, UInt32.lt_iff_toNat_lt]

/-- The condition for what has reached the ceiling asks whether the record failed as often. -/
lemma truth_atCeiling :
    atCeiling.truth (Row.ofRecord r) ps = some (decide (ceiling ≤ r.retryCount)) := by
  rw [atCeiling, truth_retryCount ps fits low first]
  refine congrArg some (decide_eq_decide.2 ?_)
  rw [ne_eq, Int.compare_eq_lt, Int.ofNat_lt, Nat.not_lt, UInt32.le_iff_toNat_le]

end Ceiling

/-- A record is due when it was never told to wait or has waited. -/
lemma truth_isDue {now : Time.Instant} (fits : r.Fits) (whole : now.IsWhole)
    (third : ps.get 3 = .ofInstant now) :
    (Condition.or (isNull .nextAttemptAt)
      (compare .atMost (.column .nextAttemptAt) (.parameter 3))).truth (Row.ofRecord r) ps =
      some (r.isDue now) := by
  show Truth.or (some (Value.ofOption .ofInstant r.nextAttemptAt).isNull)
    (((Value.ofOption .ofInstant r.nextAttemptAt).order? (ps.get 3)).map _) = _
  unfold Record.isDue
  cases waits : r.nextAttemptAt with
  | none => rfl
  | some next =>
    have le := microseconds_le_iff (fits.nextAttemptAt next waits) whole
    rw [third]
    refine (Truth.or_some ..).trans ?_
    show some (false || decide (Ord.compare _ _ ≠ .gt)) = _
    rw [Bool.false_or]
    refine congrArg some (decide_eq_decide.2 ?_)
    rw [ne_eq, Int.compare_eq_gt, Int.not_lt, le]

/-- A record is fetched when it is to be relayed now. -/
lemma holds_fetch {now : Time.Instant} {limit : UInt64} {ceiling : UInt32} (fits : r.Fits)
    (whole : now.IsWhole) (low : ceiling.toNat ≤ 2147483647) :
    (Condition.all unprocessed [isNull .deadLetteredAt, belowCeiling,
      .or (isNull .nextAttemptAt) (compare .atMost (.column .nextAttemptAt) (.parameter 3))]).holds
        (fetchCommand now limit ceiling).parameters (Row.ofRecord r) =
      (r.isEligible ceiling && r.isDue now) := by
  have below := truth_belowCeiling (fetchCommand now limit ceiling).parameters fits low rfl
  have due := truth_isDue (fetchCommand now limit ceiling).parameters fits whole rfl
  refine holds_eq ?_
  simp [Condition.all, below, due, Record.isEligible]

section Standing

variable {ceiling : UInt32}

/-- Those are counted as processed that stand so. -/
lemma holds_processed :
    (compare .equal (.column .processed) (.boolean true)).holds (statsCommand ceiling).parameters
        (Row.ofRecord r) = decide (r.standing ceiling = .processed) := by
  refine holds_eq ?_
  unfold Record.standing
  cases done : r.processed <;> cases r.isDeadLettered <;> cases r.isExhausted ceiling <;>
    simp [done]

/-- Those are counted as dead-lettered that stand so. -/
lemma holds_deadLettered :
    (unprocessed.and (isNotNull .deadLetteredAt)).holds (statsCommand ceiling).parameters
        (Row.ofRecord r) = decide (r.standing ceiling = .deadLettered) := by
  refine holds_eq ?_
  unfold Record.standing
  cases done : r.processed <;> cases dead : r.isDeadLettered <;>
    cases r.isExhausted ceiling <;> simp [done, dead]

variable (fits : r.Fits) (low : ceiling.toNat ≤ 2147483647)
include fits low

/-- Those are counted as pending that stand so. -/
lemma holds_pending :
    (Condition.all unprocessed [isNull .deadLetteredAt, belowCeiling]).holds
        (statsCommand ceiling).parameters (Row.ofRecord r) =
      decide (r.standing ceiling = .pending) := by
  have below := truth_belowCeiling (statsCommand ceiling).parameters fits low rfl
  refine holds_eq ?_
  unfold Record.standing Record.isExhausted
  cases done : r.processed <;> cases dead : r.isDeadLettered <;>
    simp [Condition.all, done, dead, below]

/-- Those are counted as exhausted that stand so. -/
lemma holds_exhausted :
    (Condition.all unprocessed [isNull .deadLetteredAt, atCeiling]).holds
        (statsCommand ceiling).parameters (Row.ofRecord r) =
      decide (r.standing ceiling = .exhausted) := by
  have reached := truth_atCeiling (statsCommand ceiling).parameters fits low rfl
  refine holds_eq ?_
  unfold Record.standing Record.isExhausted
  cases done : r.processed <;> cases dead : r.isDeadLettered <;>
    simp [Condition.all, done, dead, reached]

end Standing

end Conditions

/-- Some assignments under a condition change a record as a function does: the condition asks
whether the record has an identifier and the function makes something of it, and then this fits into
the tables and the assignments make the same of its row. -/
structure Changes (assignments : List (Column × Assigned)) (condition : Condition)
    (ps : Parameters) (id : Identifier) (change? : Record → Option Record) (r : Record) : Prop where
  holds : condition.holds ps (Row.ofRecord r) = (decide (r.id = id) && (change? r).isSome)
  fits : r.id = id → ∀ r', change? r = some r' → r'.Fits
  applies : r.id = id → ∀ r', change? r = some r' →
    Assigned.apply (Row.ofRecord r) ps assignments = .ok (Row.ofRecord r')

/-- What becomes of a record when a function changes the one with an identifier. -/
def changed (id : Identifier) (change? : Record → Option Record) (r : Record) : Record :=
  if r.id = id then (change? r).getD r else r

/-- Where the function makes nothing of a record, the record stays. -/
lemma changed_eq_self {id : Identifier} {change? : Record → Option Record} {r : Record}
    (not : r.id = id → change? r = none) : changed id change? r = r := by
  unfold changed
  split
  · next same => rw [not same, Option.getD_none]
  · rfl

/-- What makes nothing of any record changes none. -/
lemma map_changed_eq_self {id : Identifier} {change? : Record → Option Record} {rs : List Record}
    (not : ∀ r ∈ rs, r.id = id → change? r = none) : rs.map (changed id change?) = rs :=
  (List.map_congr_left fun r mem => changed_eq_self (not r mem)).trans (List.map_id rs)

/-- What an update makes of the rows of records that it changes as a function does. -/
lemma updated_map {assignments condition ps id} {change? : Record → Option Record}
    {rs : List Record} (changes : ∀ r ∈ rs, Changes assignments condition ps id change? r) :
    updated assignments condition ps (rs.map Row.ofRecord) =
      .ok ((rs.map (changed id change?)).map Row.ofRecord,
        rs.countP fun r => decide (r.id = id) && (change? r).isSome) := by
  induction rs with
  | nil => rfl
  | cons r rs ih =>
    obtain ⟨here, behind⟩ := List.forall_mem_cons.1 changes
    rw [List.map_cons, updated, ih behind, List.map_cons, List.countP_cons]
    simp only [bind, Except.bind, here.holds]
    by_cases same : r.id = id
    · cases made : change? r with
      | none =>
        rw [changed_eq_self fun _ => made]
        simp
        rfl
      | some r' =>
        simp [changed, same, made, here.applies same r' made]
        rfl
    · rw [changed_eq_self fun here => absurd here same]
      simp [same]
      rfl

/-- While there is room for one more, the database counts as the program does. -/
lemma value_increment {r : Record} (ps : Parameters) (room : r.retryCount.toNat < 2147483647) :
    Assigned.increment.value (Row.ofRecord r) ps .retryCount =
      .ok (.ofCount (saturatingSucc r.retryCount)) := by
  have succ := toNat_saturatingSucc r.retryCount
  have before : Row.ofRecord r .retryCount = .integer r.retryCount.toNat := ofCount_eq (by omega)
  rw [Assigned.value, before, ofCount_eq (by omega), succ]
  simp only
  rw [if_pos (by omega), Nat.min_eq_right (by omega), Int.natCast_succ]

section Commands

variable {r : Record} (fits : r.Fits) (id : Identifier) {now : Time.Instant} (whole : now.IsWhole)
  (reason : String)

include fits whole

/-- What marks a row as processed does to it what marking does to its record. -/
lemma changes_markProcessed :
    Changes [(.processed, .boolean true), (.processedAt, .parameter 2), (.error, .null),
      (.nextAttemptAt, .null)] (.and hasId unprocessed) (markProcessedCommand now id).parameters id
      (·.markProcessed? now) r where
  holds := by
    have here := truth_hasId (r := r) (markProcessedCommand now id).parameters rfl
    refine holds_eq ?_
    unfold Record.markProcessed?
    cases done : r.processed <;> simp [here, done]
  fits _ r' made := by
    obtain ⟨-, rfl⟩ := Record.markProcessed?_inv made
    exact { fits with
      processedAt := fun _ at_ => Option.some.inj at_ ▸ whole
      nextAttemptAt := fun _ waits => nomatch waits }
  applies _ r' made := by
    obtain ⟨-, rfl⟩ := Record.markProcessed?_inv made
    refine congrArg Except.ok (funext fun c => ?_)
    cases c <;> rfl

/-- What marks a row as failed does to it what marking does to its record. -/
lemma changes_markFailed :
    Changes [(.error, .parameter 2), (.deadLetteredAt, .parameter 3)]
      (.all hasId [unprocessed, isNull .deadLetteredAt])
      (markFailedCommand now id reason).parameters id (·.markFailed? reason now) r where
  holds := by
    have here := truth_hasId (r := r) (markFailedCommand now id reason).parameters rfl
    refine holds_eq ?_
    unfold Record.markFailed?
    cases done : r.processed <;> cases dead : r.isDeadLettered <;>
      simp [Condition.all, here, done, dead]
  fits _ r' made := by
    obtain ⟨-, -, rfl⟩ := Record.markFailed?_inv made
    exact { fits with deadLetteredAt := fun _ at_ => Option.some.inj at_ ▸ whole }
  applies _ r' made := by
    obtain ⟨-, -, rfl⟩ := Record.markFailed?_inv made
    refine congrArg Except.ok (funext fun c => ?_)
    cases c <;> rfl

/-- While there is room for one more, a retry is counted. -/
lemma changes_countRetry
    (room : r.id = id → r.processed = false → r.retryCount.toNat < 2147483647) :
    Changes [(.retryCount, .increment), (.error, .parameter 2), (.nextAttemptAt, .parameter 3)]
      (.and hasId unprocessed) (countRetryCommand id reason now).parameters id
      (fun r => r.countRetry? reason now) r where
  holds := by
    have here := truth_hasId (r := r) (countRetryCommand id reason now).parameters rfl
    refine holds_eq ?_
    unfold Record.countRetry?
    cases done : r.processed <;> simp [here, done]
  fits same r' made := by
    obtain ⟨un, rfl⟩ := Record.countRetry?_inv made
    have room := room same un
    have succ := toNat_saturatingSucc r.retryCount
    exact { fits with
      nextAttemptAt := fun _ waits => Option.some.inj waits ▸ whole
      retryCount := by
        show (saturatingSucc r.retryCount).toNat ≤ 2147483647
        omega }
  applies same r' made := by
    obtain ⟨un, rfl⟩ := Record.countRetry?_inv made
    have counted := value_increment (countRetryCommand id reason now).parameters
      (room same un)
    rw [Assigned.apply, counted]
    refine congrArg Except.ok (funext fun c => ?_)
    cases c <;> rfl

end Commands

end Outbox.Sql
