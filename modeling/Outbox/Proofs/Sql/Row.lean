import Mathlib.Tactic.Lemma
import Outbox.Sql.Client

/-!
# What columns hold

A column of instants holds whole microseconds and no leap seconds (`Instant.IsWhole`), a column of
counts holds the numbers below 2^31. Such values are read back as they were written, and columns
compare them as the program does.
-/

namespace Outbox

namespace Time.Instant

/-- An instant of whole microseconds, outside of leap seconds. -/
structure IsWhole (t : Instant) : Prop where
  noLeap : t.isLeap = false
  total_mod : t.total % 1000 = 0

/-- An instant that is made of nanoseconds lies outside of leap seconds and has so many. -/
lemma ofTotal?_inv {n : Int} {t : Instant} (made : ofTotal? n = some t) :
    t.isLeap = false ∧ t.total = n := by
  obtain ⟨range, same⟩ := Option.dite_none_right_eq_some.1 made
  cases same
  unfold isLeap total
  rw [decide_eq_false_iff_not]
  simp only
  omega

/-- Whole microseconds and whole microseconds add up to whole microseconds. -/
lemma IsWhole.add? {t t' : Instant} (whole : t.IsWhole) {s : Span}
    (even : s.nanoseconds % 1000 = 0) (later : t.add? s = some t') : t'.IsWhole := by
  rw [Instant.add?, whole.noLeap] at later
  obtain ⟨noLeap, total⟩ := ofTotal?_inv later
  have := whole.total_mod
  exact ⟨noLeap, by omega⟩

end Time.Instant

namespace Sql
open Time (Instant)

/-- The epoch of a column of instants is 2000-01-01, in nanoseconds. -/
lemma total_timestampEpoch : timestampEpoch.total = 946684800000000000 := rfl

/-- Of whole microseconds nothing is cut off. -/
lemma microseconds_mul {t : Instant} (whole : t.IsWhole) :
    microseconds t * 1000 = t.total - timestampEpoch.total := by
  have divides : (1000 : Int) ∣ t.total - timestampEpoch.total := by
    have := whole.total_mod
    rw [total_timestampEpoch]
    omega
  rw [microseconds, Instant.nanoseconds_elapsed whole.noLeap rfl]
  exact Int.tdiv_mul_cancel divides

/-- Whole microseconds are read back as they were written. -/
lemma instant?_microseconds {t : Instant} (whole : t.IsWhole) :
    instant? (microseconds t) = some t := by
  rw [instant?, microseconds_mul whole, Int.add_comm, Int.sub_add_cancel]
  exact Instant.ofTotal?_total whole.noLeap

/-- What is read of a column of instants are whole microseconds, of which it would be written. -/
lemma instant?_inv {n : Int} {t : Instant} (here : instant? n = some t) :
    t.IsWhole ∧ microseconds t = n := by
  obtain ⟨noLeap, total⟩ := Instant.ofTotal?_inv here
  have whole : t.IsWhole := by
    refine ⟨noLeap, ?_⟩
    rw [total, total_timestampEpoch]
    omega
  have := microseconds_mul whole
  exact ⟨whole, by omega⟩

/-- A column orders whole microseconds as instants are ordered. -/
lemma microseconds_le_iff {a b : Instant} (ha : a.IsWhole) (hb : b.IsWhole) :
    microseconds a ≤ microseconds b ↔ a ≤ b := by
  have := microseconds_mul ha
  have := microseconds_mul hb
  rw [Instant.rank_le_iff_total_le ha.noLeap hb.noLeap]
  omega

/-- A column tells earlier from later as instants do. -/
lemma microseconds_lt_iff {a b : Instant} (ha : a.IsWhole) (hb : b.IsWhole) :
    microseconds a < microseconds b ↔ a < b := by
  rw [← Int.not_le, microseconds_le_iff hb ha, Instant.le_iff, Int.not_le, Instant.lt_iff]

/-- Columns hold the same just for the same instant. -/
lemma microseconds_eq_iff {a b : Instant} (ha : a.IsWhole) (hb : b.IsWhole) :
    microseconds a = microseconds b ↔ a = b := by
  refine ⟨fun same => ?_, congrArg microseconds⟩
  have here := instant?_microseconds ha
  rw [same, instant?_microseconds hb, Option.some.injEq] at here
  exact here.symm

/-- A column of counts tells a count from another one that is in its range. -/
lemma ofCount_eq {n : UInt32} (fits : n.toNat ≤ 2147483647) :
    Value.ofCount n = .integer n.toNat := by
  rw [Value.ofCount, Int.min_eq_left (by omega)]

/-- A count is read back as it was written. -/
lemma countOf_toNat (n : UInt32) : countOf n.toNat = n := by
  rw [countOf, if_neg (by omega), Int.toNat_natCast, UInt32.ofNat_toNat]

/-- The number that a column of counts holds stands for itself. -/
lemma toNat_countOf {n : Int} (low : 0 ≤ n) (high : n ≤ 2147483647) : (countOf n).toNat = n := by
  have small : n.toNat < UInt32.size := by
    show n.toNat < 4294967296
    omega
  rw [countOf, if_neg (by omega), UInt32.toNat_ofNat_of_lt' small, Int.toNat_of_nonneg low]

end Sql

end Outbox

/-!
## Records as rows

The rows of the table of records are the records whose fields fit into its columns: every such
record is read back from its row (`readRecord_ofRecord`), and the rows of the right types are those
of such records (`typed_ofRecord`, `exists_ofRecord`). Rows are ordered as their records are
(`isBefore_ofRecord`).
-/

namespace Outbox

/-- A record whose fields fit into the columns of the table. -/
structure Record.Fits (r : Record) : Prop where
  occurredAt : r.occurredAt.IsWhole
  processedAt : ∀ t, r.processedAt = some t → t.IsWhole
  deadLetteredAt : ∀ t, r.deadLetteredAt = some t → t.IsWhole
  nextAttemptAt : ∀ t, r.nextAttemptAt = some t → t.IsWhole
  retryCount : r.retryCount.toNat ≤ 2147483647

namespace Sql

namespace Sent

variable {α : Type} {row : Sent} {name : String} {read? : Value → Option α}

/-- A column that must hold something is read as what it holds. -/
lemma plain_eq (null : read? .null = none) {a : α} (here : read? (row name) = some a) :
    row.plain name read? = .ok a := by
  unfold plain
  split
  · next empty =>
    rw [empty, null] at here
    cases here
  · rw [here]

/-- A column that may be empty is read as what it holds, or as nothing. -/
lemma optional_eq {f : α → Value} {o : Option α} (here : row name = .ofOption f o)
    (there : ∀ a, (f a).isNull = false) (read : ∀ a, o = some a → read? (f a) = some a) :
    row.optional name read? = .ok o := by
  unfold optional
  cases o with
  | none => rw [show row name = .null from here]
  | some a =>
    have here : row name = f a := here
    split
    · next empty =>
      have := there a
      rw [← here, empty] at this
      cases this
    · rw [here, read a rfl]

end Sent

namespace Row

/-- A column is found by its name. -/
lemma find?_name (c : Column) : Column.all.find? (·.name = c.name) = some c := by
  cases c <;> rfl

/-- A row that was sent has its columns under their names. -/
lemma sent_name (row : Row) (c : Column) : row.sent c.name = row c := by
  rw [sent, find?_name]

/-- A row whose columns hold values of their types. -/
structure Typed (row : Row) : Prop where
  id : ∃ id, row .id = .uuid id
  typeTag : ∃ s, row .typeTag = .text s
  payload : ∃ s, row .payload = .text s
  occurredAt : ∃ n t, row .occurredAt = .timestamp n ∧ instant? n = some t
  processed : ∃ b, row .processed = .boolean b
  processedAt : row .processedAt = .null ∨
    ∃ n t, row .processedAt = .timestamp n ∧ instant? n = some t
  error : row .error = .null ∨ ∃ s, row .error = .text s
  retryCount : ∃ n : Int, row .retryCount = .integer n ∧ 0 ≤ n ∧ n ≤ 2147483647
  deadLetteredAt : row .deadLetteredAt = .null ∨
    ∃ n t, row .deadLetteredAt = .timestamp n ∧ instant? n = some t
  nextAttemptAt : row .nextAttemptAt = .null ∨
    ∃ n t, row .nextAttemptAt = .timestamp n ∧ instant? n = some t

end Row

/-- What a column holds of an instant that may be missing is one of whole microseconds, or none. -/
lemma exists_ofInstant {v : Value}
    (typed : v = .null ∨ ∃ n t, v = .timestamp n ∧ instant? n = some t) :
    ∃ o : Option Time.Instant, v = .ofOption .ofInstant o ∧ ∀ t, o = some t → t.IsWhole := by
  obtain rfl | ⟨n, t, rfl, here⟩ := typed
  · refine ⟨none, rfl, ?_⟩
    rintro _ ⟨⟩
  · obtain ⟨whole, rfl⟩ := instant?_inv here
    refine ⟨some t, rfl, ?_⟩
    rintro _ ⟨⟩
    exact whole

/-- A row whose columns hold values of their types is the row of a record that fits. -/
lemma exists_ofRecord {row : Row} (typed : row.Typed) :
    ∃ r : Record, r.Fits ∧ row = Row.ofRecord r := by
  obtain ⟨id, hid⟩ := typed.id
  obtain ⟨typeTag, htypeTag⟩ := typed.typeTag
  obtain ⟨payload, hpayload⟩ := typed.payload
  obtain ⟨n, occurredAt, hoccurredAt, here⟩ := typed.occurredAt
  obtain ⟨whole, rfl⟩ := instant?_inv here
  obtain ⟨processed, hprocessed⟩ := typed.processed
  obtain ⟨processedAt, hprocessedAt, wholeProcessed⟩ := exists_ofInstant typed.processedAt
  obtain ⟨error, herror⟩ : ∃ o : Option String, row .error = .ofOption .text o := by
    obtain missing | ⟨s, here⟩ := typed.error
    · exact ⟨none, missing⟩
    · exact ⟨some s, here⟩
  obtain ⟨count, hcount, low, high⟩ := typed.retryCount
  obtain ⟨deadLetteredAt, hdeadLetteredAt, wholeDead⟩ := exists_ofInstant typed.deadLetteredAt
  obtain ⟨nextAttemptAt, hnextAttemptAt, wholeNext⟩ := exists_ofInstant typed.nextAttemptAt
  have fits : (countOf count).toNat ≤ 2147483647 := by
    have := toNat_countOf low high
    omega
  refine ⟨⟨id, typeTag, payload, occurredAt, processed, processedAt, error, countOf count,
    deadLetteredAt, nextAttemptAt⟩, ⟨whole, wholeProcessed, wholeDead, wholeNext, fits⟩, ?_⟩
  funext c
  cases c with
  | retryCount => rw [hcount, Row.ofRecord, ofCount_eq fits, toNat_countOf low high]
  | _ => assumption

/-- The row of a record that fits holds values of the types of its columns. -/
lemma typed_ofRecord {r : Record} (fits : r.Fits) : (Row.ofRecord r).Typed := by
  have column {o : Option Time.Instant} (whole : ∀ t, o = some t → t.IsWhole) :
      Value.ofOption .ofInstant o = .null ∨
        ∃ n t, Value.ofOption .ofInstant o = .timestamp n ∧ instant? n = some t := by
    cases o with
    | none => exact .inl rfl
    | some t => exact .inr ⟨_, t, rfl, instant?_microseconds (whole t rfl)⟩
  have counted := ofCount_eq fits.retryCount
  exact {
    id := ⟨_, rfl⟩
    typeTag := ⟨_, rfl⟩
    payload := ⟨_, rfl⟩
    occurredAt := ⟨_, _, rfl, instant?_microseconds fits.occurredAt⟩
    processed := ⟨_, rfl⟩
    processedAt := column fits.processedAt
    error := by
      cases here : r.error with
      | none => exact .inl (congrArg (Value.ofOption .text) here)
      | some s => exact .inr ⟨s, congrArg (Value.ofOption .text) here⟩
    retryCount := ⟨r.retryCount.toNat, counted, Int.natCast_nonneg _, by
      have := fits.retryCount
      omega⟩
    deadLetteredAt := column fits.deadLetteredAt
    nextAttemptAt := column fits.nextAttemptAt }

/-- Values of identifiers are equal if the identifiers are. -/
lemma order?_uuid_iff {a b : Identifier} :
    (Value.uuid a).order? (.uuid b) = some .eq ↔ a = b := by
  rw [Value.order?, Option.some.injEq, Identifier.compare, Nat.compare_eq_eq, Identifier.number,
    Identifier.number, BitVec.toNat_inj]
  exact ⟨fun same => congrArg Identifier.mk same, congrArg Identifier.bits⟩

/-- Rows are ordered as their records are. -/
lemma isBefore_ofRecord {a b : Record} (ha : a.Fits) (hb : b.Fits) :
    (Row.ofRecord a).isBefore (Row.ofRecord b) = a.isBefore b := by
  have lt := microseconds_lt_iff ha.occurredAt hb.occurredAt
  have eq := microseconds_eq_iff ha.occurredAt hb.occurredAt
  have id : a.id.compare b.id ≠ .gt ↔ a.id.number ≤ b.id.number := Nat.compare_ne_gt
  have times : (Row.ofRecord a .occurredAt).order? (Row.ofRecord b .occurredAt) =
    some (compare (microseconds a.occurredAt) (microseconds b.occurredAt)) := rfl
  have ids : (Row.ofRecord a .id).order? (Row.ofRecord b .id) = some (a.id.compare b.id) := rfl
  rw [Row.isBefore, Record.isBefore, times, ids]
  -- rows compare times first and then keys, each with three answers
  cases order : compare (microseconds a.occurredAt) (microseconds b.occurredAt) with
  | lt => simp [lt.1 (Int.compare_eq_lt.1 order)]
  | eq =>
    have same := Int.compare_eq_eq.1 order
    have apart : ¬a.occurredAt < b.occurredAt := fun less => by
      have := lt.2 less
      omega
    rw [decide_eq_false apart, decide_eq_true (eq.1 same)]
    simp [id]
  | gt =>
    have after := Int.compare_eq_gt.1 order
    have apart : ¬a.occurredAt < b.occurredAt := fun less => by
      have := lt.2 less
      omega
    have other : a.occurredAt ≠ b.occurredAt := fun same => by
      have := eq.2 same
      omega
    simp [apart, other]

/-- The parameters with which a record is appended are the columns of its row. -/
lemma ofParameters_appendCommand (r : Record) :
    Row.ofParameters (appendCommand r).parameters = Row.ofRecord r := by
  funext c
  cases c <;> rfl

/-- A record that fits is read back from its row. -/
lemma readRecord_ofRecord {r : Record} (fits : r.Fits) :
    readRecord (Row.ofRecord r).sent = .ok r := by
  -- Columns are read in the order of the record, each under its own name.
  have sent := (Row.ofRecord r).sent_name
  have instant {t : Time.Instant} (whole : t.IsWhole) :
      (Value.ofInstant t).instant? = some t := instant?_microseconds whole
  have id : (Row.ofRecord r).sent.plain "id" Value.uuid? = .ok r.id :=
    Sent.plain_eq rfl (congrArg _ (sent .id))
  have typeTag : (Row.ofRecord r).sent.plain "type_tag" Value.text? = .ok r.typeTag :=
    Sent.plain_eq rfl (congrArg _ (sent .typeTag))
  have payload : (Row.ofRecord r).sent.plain "payload" Value.text? = .ok r.payload :=
    Sent.plain_eq rfl (congrArg _ (sent .payload))
  have occurredAt : (Row.ofRecord r).sent.plain "occurred_at" Value.instant? = .ok r.occurredAt :=
    Sent.plain_eq rfl ((congrArg _ (sent .occurredAt)).trans (instant fits.occurredAt))
  have processed : (Row.ofRecord r).sent.plain "processed" Value.boolean? = .ok r.processed :=
    Sent.plain_eq rfl (congrArg _ (sent .processed))
  have processedAt :
      (Row.ofRecord r).sent.optional "processed_at" Value.instant? = .ok r.processedAt :=
    Sent.optional_eq (sent .processedAt) (fun _ => rfl) fun t here =>
      instant (fits.processedAt t here)
  have error : (Row.ofRecord r).sent.optional "error" Value.text? = .ok r.error :=
    Sent.optional_eq (sent .error) (fun _ => rfl) fun _ _ => rfl
  have retryCount : (Row.ofRecord r).sent.plain "retry_count" Value.integer? =
      .ok (r.retryCount.toNat : Int) :=
    Sent.plain_eq rfl
      (congrArg Value.integer? ((sent .retryCount).trans (ofCount_eq fits.retryCount)))
  have deadLetteredAt :
      (Row.ofRecord r).sent.optional "dead_lettered_at" Value.instant? = .ok r.deadLetteredAt :=
    Sent.optional_eq (sent .deadLetteredAt) (fun _ => rfl) fun t here =>
      instant (fits.deadLetteredAt t here)
  have nextAttemptAt :
      (Row.ofRecord r).sent.optional "next_attempt_at" Value.instant? = .ok r.nextAttemptAt :=
    Sent.optional_eq (sent .nextAttemptAt) (fun _ => rfl) fun t here =>
      instant (fits.nextAttemptAt t here)
  simp only [readRecord, id, typeTag, payload, occurredAt, processed, processedAt, error,
    retryCount, deadLetteredAt, nextAttemptAt, bind, Except.bind, countOf_toNat]
  rfl

/-- Which rows have the identifier of a record. -/
lemma sameId_ofRecord_iff {r : Record} {row : Row} :
    (Row.ofRecord r).sameId row = true ↔ row .id = .uuid r.id := by
  refine decide_eq_true_iff.trans ?_
  show (Value.uuid r.id).order? (row .id) = some .eq ↔ _
  cases row .id with
  | uuid id => rw [order?_uuid_iff, Value.uuid.injEq, eq_comm]
  | _ => exact ⟨nofun, nofun⟩

/-- Rows have one identifier if their records have. -/
lemma sameId_ofRecord (a b : Record) :
    (Row.ofRecord a).sameId (Row.ofRecord b) = true ↔ a.id = b.id := by
  rw [sameId_ofRecord_iff, Row.ofRecord, Value.uuid.injEq, eq_comm]

end Sql

end Outbox
