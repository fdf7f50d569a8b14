import Mathlib.Data.List.Nodup
import Mathlib.Tactic.Lemma
import Outbox.Record

/-!
# The life of a record

What the calls of a store may do to a record. `Record.Descends` relates a record to what became of
it after some calls, of which a given number counted a retry: the message is the same (`notice`), a
processed record stays processed (`unprocessed`), and no retry is lost (`retries`). The relation is
closed under composition (`Descends.trans`), and each call has a lemma that says which step it is.
-/

namespace Outbox

/-- Two records with one notice have the same message. -/
lemma Notice.ofRecord_eq_iff {a b : Record} :
    Notice.ofRecord a = Notice.ofRecord b ↔
      a.id = b.id ∧ a.typeTag = b.typeTag ∧ a.payload = b.payload ∧
        a.occurredAt = b.occurredAt := by
  simp [Notice.ofRecord]

/-- A saturating successor is the successor below the greatest number. -/
lemma toNat_saturatingSucc (n : UInt32) :
    (saturatingSucc n).toNat = min 4294967295 (n.toNat + 1) := by
  have := n.toNat_lt
  unfold saturatingSucc
  split
  · next e => subst e; rfl
  · next ne =>
    have : n.toNat ≠ 4294967295 := fun e => ne (UInt32.toNat_inj.1 e)
    rw [UInt32.toNat_add, UInt32.toNat_one]
    omega

namespace Record

/-- A record of a message with which nothing was done yet. -/
structure Fresh (r : Record) (m : Message) (now : Time.Instant) : Prop where
  typeTag : r.typeTag = m.tag
  payload : m.payload = .ok r.payload
  occurredAt : r.occurredAt = now
  processed : r.processed = false
  retryCount : r.retryCount = 0
  untouched : r.processedAt = none ∧ r.error = none ∧ r.deadLetteredAt = none ∧
    r.nextAttemptAt = none

/-- The record that is made of a message is fresh. -/
lemma fresh_of_ofMessage {id m now} {r : Record} (made : ofMessage id m now = .ok r) :
    r.Fresh m now := by
  unfold ofMessage at made
  generalize written : m.payload = payload at made
  cases payload with
  | error => cases made
  | ok payload =>
    cases made
    exact ⟨rfl, written, rfl, rfl, rfl, rfl, rfl, rfl, rfl⟩

/-- A record became another one by some calls, of which `n` counted a retry. -/
structure Descends (n : Nat) (r r' : Record) : Prop where
  notice : Notice.ofRecord r' = Notice.ofRecord r
  unprocessed : r'.processed = false → r.processed = false
  retries : r'.processed = false →
    r'.retryCount.toNat = min 4294967295 (r.retryCount.toNat + n)

/-- Without a call a record stays as it is. -/
lemma Descends.refl (r : Record) : Descends 0 r r where
  notice := rfl
  unprocessed un := un
  retries _ := by have := r.retryCount.toNat_lt; omega

/-- The retries of two runs of calls add up. -/
lemma Descends.trans {m n r r' r''} (d : Descends m r r') (d' : Descends n r' r'') :
    Descends (m + n) r r'' where
  notice := d'.notice.trans d.notice
  unprocessed un := d.unprocessed (d'.unprocessed un)
  retries un := by
    have := d.retries (d'.unprocessed un)
    have := d'.retries un
    omega

/-- Marking a record as processed counts no retry. -/
lemma descends_markProcessed (r : Record) (at_ : Time.Instant) :
    Descends 0 r (r.markProcessed at_) := by
  unfold markProcessed markProcessed?
  split
  · exact .refl r
  · exact ⟨rfl, nofun, nofun⟩

/-- Marking a record as failed counts no retry. -/
lemma descends_markFailed (r : Record) (reason : String) (at_ : Time.Instant) :
    Descends 0 r (r.markFailed reason at_) := by
  unfold markFailed markFailed?
  split
  · exact .refl r
  · exact ⟨rfl, fun un => un, (Descends.refl r).retries⟩

/-- Counting a retry counts one. -/
lemma descends_countRetry (r : Record) (reason : String) (next : Time.Instant) :
    Descends 1 r (r.countRetry reason next) := by
  unfold countRetry countRetry?
  split
  · next done => exact ⟨rfl, fun un => un, fun un => absurd (done.symm.trans un) nofun⟩
  · exact ⟨rfl, fun un => un, fun _ => toNat_saturatingSucc _⟩

/-- A record that is marked as processed is processed, whether it was before or not. -/
lemma processed_markProcessed (r : Record) (at_ : Time.Instant) :
    (r.markProcessed at_).processed = true := by
  unfold markProcessed markProcessed?
  split
  · next done => exact done
  · rfl

/-- Marking a record as failed leaves open whether it is processed. -/
lemma processed_markFailed (r : Record) (reason : String) (at_ : Time.Instant) :
    (r.markFailed reason at_).processed = r.processed := by
  unfold markFailed markFailed?
  split <;> rfl

/-- Counting a retry leaves open whether the record is processed. -/
lemma processed_countRetry (r : Record) (reason : String) (next : Time.Instant) :
    (r.countRetry reason next).processed = r.processed := by
  unfold countRetry countRetry?
  split <;> rfl

/-- Only an open record is marked as processed. -/
lemma markProcessed?_inv {r r' : Record} {at_ : Time.Instant}
    (made : r.markProcessed? at_ = some r') :
    r.processed = false ∧
      r' = { r with
        processed := true, processedAt := some at_, error := none, nextAttemptAt := none } := by
  obtain ⟨un, same⟩ := Option.ite_none_left_eq_some.1 made
  cases same
  exact ⟨Bool.eq_false_iff.2 un, rfl⟩

/-- Only a record that is neither processed nor dead-lettered is marked as failed. -/
lemma markFailed?_inv {r r' : Record} {reason : String} {at_ : Time.Instant}
    (made : r.markFailed? reason at_ = some r') :
    r.processed = false ∧ r.isDeadLettered = false ∧
      r' = { r with error := some reason, deadLetteredAt := some at_ } := by
  obtain ⟨open_, same⟩ := Option.ite_none_left_eq_some.1 made
  obtain ⟨un, alive⟩ := not_or.1 (mt Bool.or_eq_true_iff.2 open_)
  cases same
  exact ⟨Bool.eq_false_iff.2 un, Bool.eq_false_iff.2 alive, rfl⟩

/-- Only of an open record a retry is counted. -/
lemma countRetry?_inv {r r' : Record} {reason : String} {next : Time.Instant}
    (made : r.countRetry? reason next = some r') :
    r.processed = false ∧
      r' = { r with
        retryCount := saturatingSucc r.retryCount, error := some reason,
        nextAttemptAt := some next } := by
  obtain ⟨un, same⟩ := Option.ite_none_left_eq_some.1 made
  cases same
  exact ⟨Bool.eq_false_iff.2 un, rfl⟩

/-- A record that is not to be relayed is processed, or failed for good, or too often. -/
lemma isEligible_eq_false_iff {r : Record} {ceiling : UInt32} :
    r.isEligible ceiling = false ↔
      r.processed = true ∨ r.isDeadLettered = true ∨ ceiling ≤ r.retryCount := by
  unfold isEligible
  cases r.processed <;> cases r.isDeadLettered <;> simp

end Record

end Outbox

/-!
## The order of records

The order in which records are relayed is a total one for records with different identifiers, so
that it does not depend on how they are found (`oldestFirst_eq_of_perm`).
-/

namespace Outbox

namespace Record

/-- The order of records, in numbers: the date decides, and between equal dates the identifier. -/
lemma isBefore_iff {a b : Record} :
    a.isBefore b = true ↔
      a.occurredAt.rank < b.occurredAt.rank ∨
        a.occurredAt.rank = b.occurredAt.rank ∧ a.id.number ≤ b.id.number := by
  have same : a.occurredAt = b.occurredAt ↔ a.occurredAt.rank = b.occurredAt.rank :=
    ⟨congrArg _, Time.Instant.rank_inj⟩
  rw [isBefore, Bool.or_eq_true, Bool.and_eq_true, decide_eq_true_eq, decide_eq_true_eq,
    decide_eq_true_eq, Time.Instant.lt_iff, same]

/-- The order of records is transitive. -/
lemma isBefore_trans (a b c : Record) (ab : a.isBefore b = true) (bc : b.isBefore c = true) :
    a.isBefore c = true := by
  rw [isBefore_iff] at *
  omega

/-- Of any two records one comes before the other. -/
lemma isBefore_total (a b : Record) : (a.isBefore b || b.isBefore a) = true := by
  rw [Bool.or_eq_true, isBefore_iff, isBefore_iff]
  omega

/-- Records that come before each other have the same identifier. -/
lemma id_eq_of_isBefore {a b : Record} (ab : a.isBefore b = true) (ba : b.isBefore a = true) :
    a.id = b.id := by
  have same : a.id.number = b.id.number := by
    rw [isBefore_iff] at *
    omega
  exact congrArg Identifier.mk (BitVec.toNat_inj.1 same)

/-- Records with different identifiers are put in the same order, in whatever order they come. -/
lemma oldestFirst_eq_of_perm {rs rs' : List Record} (perm : rs.Perm rs')
    (distinct : (rs.map id).Nodup) : oldestFirst rs = oldestFirst rs' := by
  have sorted := (List.mergeSort_perm rs isBefore).trans
    (perm.trans (List.mergeSort_perm rs' isBefore).symm)
  have antisymm : ∀ a b, a ∈ rs.mergeSort isBefore → b ∈ rs'.mergeSort isBefore →
      a.isBefore b = true → b.isBefore a = true → a = b := by
    intro a b here there ab ba
    have ha : a ∈ rs := List.mem_mergeSort.1 here
    have hb : b ∈ rs := perm.mem_iff.2 (List.mem_mergeSort.1 there)
    exact List.inj_on_of_nodup_map distinct ha hb (id_eq_of_isBefore ab ba)
  exact List.Perm.eq_of_pairwise antisymm
    (List.pairwise_mergeSort isBefore_trans isBefore_total rs)
    (List.pairwise_mergeSort isBefore_trans isBefore_total rs') sorted

end Record

end Outbox
