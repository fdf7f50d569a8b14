import Mathlib.Data.List.Perm.Subperm
import Outbox.Proofs.Sql.Refinement

/-!
# Numbers in a database

A database knows integers with a sign only. `Figure.sent` is the integer that stands for a number,
of which it is known when it is negative and when it keeps the order (`Figure.sent_le_sent_iff`);
and these integers are what every call sends, to whatever server (`Query.sent_eq`).
-/

namespace Outbox.Sql

/-- A number that a call brings to a database. -/
inductive Figure
  /-- How often a record failed, or a ceiling for that. -/
  | count (n : UInt32)
  /-- A limit or a version. -/
  | word (n : UInt64)

namespace Figure

/-- The integer that stands for a number in a column of as many bits, one of which is the sign. The
greatest such integer stands for all counts that are too great; words that are too great turn
negative. -/
def sent : Figure → Int
  | count n => min n.toNat 2147483647
  | word n => if n.toNat < 9223372036854775808 then n.toNat else n.toNat - 18446744073709551616

/-- A number that does not turn negative: any count, and a word in the lower half of its range. -/
def Fits : Figure → Prop
  | count _ => True
  | word n => n.toNat < 9223372036854775808

instance : DecidablePred Fits
  | count _ => inferInstanceAs (Decidable True)
  | word n => inferInstanceAs (Decidable (n.toNat < 9223372036854775808))

/-- The order of numbers of one kind. -/
inductive Le : Figure → Figure → Prop
  | count {m n : UInt32} : m ≤ n → Le (count m) (count n)
  | word {m n : UInt64} : m ≤ n → Le (word m) (word n)

/-- Just the numbers that fit are sent as integers that are not negative. -/
lemma sent_nonneg_iff (f : Figure) : 0 ≤ f.sent ↔ f.Fits := by
  cases f with
  | count n =>
    refine ⟨fun _ => trivial, fun _ => ?_⟩
    simp only [sent]
    omega
  | word n =>
    have small := n.toNat_lt
    simp only [sent, Fits]
    split <;> omega

/-- The order is kept unless the greater number turns negative and the smaller one does not. -/
lemma sent_le_sent_iff {f g : Figure} (le : f.Le g) : f.sent ≤ g.sent ↔ (f.Fits → g.Fits) := by
  cases le with
  | @count m n le =>
    have le := UInt32.le_iff_toNat_le.1 le
    refine ⟨fun _ _ => trivial, fun _ => ?_⟩
    simp only [sent]
    omega
  | @word m n le =>
    have le := UInt64.le_iff_toNat_le.1 le
    have small := n.toNat_lt
    simp only [sent, Fits]
    split <;> split <;> omega

/-- The order of counts is always kept. -/
lemma sent_le_sent_of_count {m n : UInt32} (le : m ≤ n) : (count m).sent ≤ (count n).sent :=
  (sent_le_sent_iff (.count le)).2 fun _ => trivial

end Figure

/-- What is sent of a limit or a version is the integer that stands for it. -/
lemma ofWord_eq_sent (n : UInt64) : Value.ofWord n = .integer (Figure.word n).sent := by
  have same : n.toInt64.toInt = if 2 * n.toNat < 18446744073709551616 then (n.toNat : Int)
      else n.toNat - 18446744073709551616 := BitVec.toInt_eq_toNat_cond n.toBitVec
  rw [Value.ofWord, same, Figure.sent]
  refine congrArg Value.integer (if_congr ?_ rfl rfl)
  omega

/-- The integers among the parameters of a command. -/
def Command.integers (c : Command) : List Int :=
  c.parameters.filterMap Value.integer?

/-- The server, which also notes down the integers that it is sent. -/
def Server.noting {ω τ : Type} (v : Server ω τ) : Server (ω × List Int) τ where
  execute c w :=
    let (answer, w') := v.execute c w.1
    (answer, w', w.2 ++ c.integers)
  start w :=
    let (opened, w') := v.start w.1
    (opened, w', w.2)
  executeIn c t w :=
    let (answer, t, w') := v.executeIn c t w.1
    (answer, t, w', w.2 ++ c.integers)
  commit t w :=
    let (done, w') := v.commit t w.1
    (done, w', w.2)
  rollback t w :=
    let (done, w') := v.rollback t w.1
    (done, w', w.2)

/-- A call that brings numbers to a database. -/
inductive Query
  | fetch (now : Time.Instant) (limit : UInt64) (ceiling : UInt32)
  | deadLetters (ceiling : UInt32) (limit : UInt64)
  | stats (ceiling : UInt32)
  | append (r : Record)
  | save (e : Entity)

namespace Query

/-- The numbers that a call brings. -/
def figures : Query → List Figure
  | fetch _ limit ceiling => [.count ceiling, .word limit]
  | deadLetters ceiling limit => [.count ceiling, .word limit]
  | stats ceiling => [.count ceiling]
  | append r => [.count r.retryCount]
  | save e => [.word e.version]

/-- The world after a call, in a transaction if it needs one. -/
def world {ω τ : Type} (v : Server ω τ) (t : τ) (w : ω) : Query → ω
  | fetch now limit ceiling => (v.fetch now limit ceiling w).2
  | deadLetters ceiling limit => (v.deadLetters ceiling limit w).2
  | stats ceiling => (v.stats ceiling w).2
  | append r => (v.append r t w).2.2
  | save e => (v.save e t w).2.2

/-- The integers that a server is sent by a call. -/
def sent {ω τ : Type} (q : Query) (v : Server ω τ) (t : τ) (w : ω) : List Int :=
  (q.world v.noting t (w, [])).2

end Query

section

variable {ω τ : Type} (v : Server ω τ)

/-- A call that reads records sends the integers of its command. -/
lemma noting_records (operation : String) (c : Command) (w : ω) (ns : List Int) :
    (v.noting.records operation c (w, ns)).2.2 = ns ++ c.integers := by
  simp only [Server.records, Server.noting]
  cases (v.execute c w).1 <;> rfl

/-- A call that reads one row sends the integers of its command. -/
lemma noting_row (operation : String) (c : Command) (w : ω) (ns : List Int) :
    (v.noting.row operation c (w, ns)).2.2 = ns ++ c.integers := by
  simp only [Server.row, Server.noting]
  cases (v.execute c w).1 with
  | error f => rfl
  | ok response =>
    simp only
    cases response.sentRows <;> rfl

/-- Every call sends the integers that stand for its numbers, and no others. -/
lemma Query.sent_eq (q : Query) (t : τ) (w : ω) : q.sent v t w = q.figures.map Figure.sent := by
  cases q with
  | fetch now limit ceiling =>
    rw [sent, world, Server.fetch, noting_records, Command.integers, fetchCommand, ofWord_eq_sent]
    rfl
  | deadLetters ceiling limit =>
    rw [sent, world, Server.deadLetters, noting_records, Command.integers, deadLettersCommand,
      ofWord_eq_sent]
    rfl
  | stats ceiling =>
    have row := noting_row v "stats" (statsCommand ceiling) w []
    rw [sent, world, Server.stats]
    generalize v.noting.row "stats" (statsCommand ceiling) (w, []) = answered at row ⊢
    obtain ⟨answer, after⟩ := answered
    cases answer <;> exact row
  | append r =>
    -- Whichever fields are missing, the number of failures is the only integer.
    obtain ⟨_, _, _, _, _, _ | _, _ | _, _, _ | _, _ | _⟩ := r <;> rfl
  | save e =>
    show [] ++ (saveCommand e).integers = _
    rw [Command.integers, saveCommand, ofWord_eq_sent]
    rfl

end

end Outbox.Sql

/-!
## Limits, ceilings and versions

What tables do with the integers that stand for numbers. A list of records is cut off where its
limit says, or refused when the limit turned negative (`Tables.Lists`); a higher ceiling lets more
records through; and a count is read back as it was stored. `sent_in_order` has all of this of every
call that brings numbers.
-/

namespace Outbox.Sql

open Condition (compare isNull isNotNull)

section Ceiling

variable {row : Row} {ps : Parameters} {ceiling : UInt32} (first : ps.get 1 = .ofCount ceiling)
include first

/-- A row is compared with a ceiling by the integer in its column, if there is one. -/
lemma holds_retryCount_iff {c : Comparison} :
    (compare c (.column .retryCount) (.parameter 1)).holds ps row = true ↔
      ∃ n : Int, row .retryCount = .integer n ∧
        c.holds (Ord.compare n (Figure.count ceiling).sent) = true := by
  refine decide_eq_true_iff.trans ?_
  show ((row .retryCount).order? (ps.get 1)).map c.holds = some true ↔ _
  rw [first]
  cases row .retryCount with
  | integer n =>
    refine ⟨fun holds => ⟨n, rfl, Option.some.inj holds⟩, ?_⟩
    rintro ⟨_, same, holds⟩
    cases same
    exact congrArg some holds
  | _ => exact ⟨nofun, nofun⟩

/-- A row is below a ceiling if the integer in its column is. -/
lemma holds_belowCeiling_iff :
    belowCeiling.holds ps row = true ↔
      ∃ n : Int, row .retryCount = .integer n ∧ n < (Figure.count ceiling).sent := by
  refine (holds_retryCount_iff first).trans ?_
  simp only [Comparison.holds, decide_eq_true_eq, Int.compare_eq_lt]

/-- A row has reached a ceiling unless the integer in its column is below it. -/
lemma holds_atCeiling_iff :
    atCeiling.holds ps row = true ↔
      ∃ n : Int, row .retryCount = .integer n ∧ (Figure.count ceiling).sent ≤ n := by
  refine (holds_retryCount_iff first).trans ?_
  simp only [Comparison.holds, decide_eq_true_eq, ne_eq, Int.compare_eq_lt, Int.not_lt]

variable {ps' : Parameters} {ceiling' : UInt32} (first' : ps'.get 1 = .ofCount ceiling')
  (le : ceiling ≤ ceiling')
include first' le

/-- What is below a ceiling is below a higher one. -/
lemma belowCeiling_mono (below : belowCeiling.holds ps row = true) :
    belowCeiling.holds ps' row = true := by
  have le := Figure.sent_le_sent_of_count le
  obtain ⟨n, counted, below⟩ := (holds_belowCeiling_iff first).1 below
  exact (holds_belowCeiling_iff first').2 ⟨n, counted, by omega⟩

/-- What has reached a ceiling has reached a lower one. -/
lemma atCeiling_anti (reached : atCeiling.holds ps' row = true) :
    atCeiling.holds ps row = true := by
  have le := Figure.sent_le_sent_of_count le
  obtain ⟨n, counted, reached⟩ := (holds_atCeiling_iff first').1 reached
  exact (holds_atCeiling_iff first).2 ⟨n, counted, by omega⟩

end Ceiling

/-- What a command selects: the rows under its condition. -/
def Command.selects (c : Command) (row : Row) : Bool :=
  match c.statement with
  | .select condition _ => condition.holds c.parameters row
  | _ => false

section Mono

variable {ceiling ceiling' : UInt32} (le : ceiling ≤ ceiling') {row : Row}
include le

/-- A higher ceiling lets a fetch have more rows. -/
lemma selects_fetchCommand {now : Time.Instant} {limit limit' : UInt64}
    (selects : (fetchCommand now limit ceiling).selects row = true) :
    (fetchCommand now limit' ceiling').selects row = true := by
  simp only [Command.selects, fetchCommand, Condition.all, holds_and, Bool.and_eq_true]
    at selects ⊢
  obtain ⟨⟨⟨waits, alive⟩, below⟩, due⟩ := selects
  exact ⟨⟨⟨waits, alive⟩, belowCeiling_mono rfl rfl le below⟩, due⟩

/-- A lower ceiling makes dead letters of more rows. -/
lemma selects_deadLettersCommand {limit limit' : UInt64}
    (selects : (deadLettersCommand ceiling' limit').selects row = true) :
    (deadLettersCommand ceiling limit).selects row = true := by
  simp only [Command.selects, deadLettersCommand, holds_and, holds_or, Bool.and_eq_true,
    Bool.or_eq_true] at selects ⊢
  obtain ⟨waits, dead | reached⟩ := selects
  · exact ⟨waits, .inl dead⟩
  · exact ⟨waits, .inr (atCeiling_anti rfl rfl le reached)⟩

end Mono

namespace Tables

/-- Some records are what a call with a limit lists: it brings as many of them as the limit says,
and nothing when the limit turns negative. -/
structure Lists (t : Tables) (found : List Record)
    (call : UInt64 → Tables → Except Store.Error (List Record) × Tables) : Prop where
  brings (limit : UInt64) :
    (Figure.word limit).Fits → call limit t = (.ok (found.take limit.toNat), t)
  refuses (limit : UInt64) : ¬(Figure.word limit).Fits → ∃ e, call limit t = (.error e, t)

variable {t : Tables} {rs : List Record}

/-- What a command with a limit lists of some records, where the limit has no bearing on which rows
are selected. -/
lemma Holds.lists (h : t.Holds rs) {operation : String} {c : UInt64 → Command}
    {condition : Condition} (select : ∀ limit, (c limit).statement = .select condition (some 2))
    (second : ∀ limit, (c limit).parameters.get 2 = .ofWord limit)
    (alike : ∀ limit row, (c limit).selects row = (c 0).selects row) :
    t.Lists (Record.oldestFirst (rs.filter fun r => (c 0).selects (Row.ofRecord r)))
      fun limit => server.records operation (c limit) where
  brings limit fits := by
    refine listed_server h (select limit) (second limit) fits fun r _ => ?_
    rw [← alike limit, Command.selects, select limit]
  refuses limit unfit := by
    refine ⟨_, refused_server (select limit) (second limit) ?_⟩
    have same := Value.integer.inj (ofWord_eq_sent limit)
    rw [same]
    exact Int.not_le.1 fun le => unfit ((Figure.sent_nonneg_iff _).1 le)

/-- Of the records that pass a test all are among those that pass a weaker one. -/
lemma subperm_oldestFirst {p q : Record → Bool} (weaker : ∀ r, p r = true → q r = true) :
    (Record.oldestFirst (rs.filter p)).Subperm (Record.oldestFirst (rs.filter q)) := by
  have sorted (rs : List Record) : (Record.oldestFirst rs).Perm rs := List.mergeSort_perm ..
  have less : (rs.filter p).Subperm (rs.filter q) :=
    (List.monotone_filter_right rs weaker).subperm
  exact (sorted _).subperm.trans (less.trans (sorted _).symm.subperm)

/-- What a fetch and a look for dead letters list under each ceiling. -/
lemma Holds.exists_lists (h : t.Holds rs) (now : Time.Instant) :
    ∃ ready dead : UInt32 → List Record,
      (∀ ceiling, t.Lists (ready ceiling) fun limit => server.fetch now limit ceiling) ∧
      (∀ ceiling, t.Lists (dead ceiling) (server.deadLetters ceiling)) ∧
      ∀ m n, m ≤ n → (ready m).Subperm (ready n) ∧ (dead n).Subperm (dead m) := by
  refine ⟨_, _,
    fun ceiling => h.lists (c := (fetchCommand now · ceiling)) (fun _ => rfl) (fun _ => rfl)
      fun _ _ => rfl,
    fun ceiling => h.lists (c := deadLettersCommand ceiling) (fun _ => rfl) (fun _ => rfl)
      fun _ _ => rfl, fun m n le => ⟨?_, ?_⟩⟩
  · exact subperm_oldestFirst fun _ => selects_fetchCommand le
  · exact subperm_oldestFirst fun _ => selects_deadLettersCommand le

/-- How many rows there are under each condition of the command that counts records. -/
def counts (t : Tables) (ceiling : UInt32) : Store.Counts :=
  let count (condition : Condition) : Nat :=
    t.records.countP (condition.holds (statsCommand ceiling).parameters)
  ⟨count (.all unprocessed [isNull .deadLetteredAt, belowCeiling]),
    count (compare .equal (.column .processed) (.boolean true)),
    count (.and unprocessed (isNotNull .deadLetteredAt)),
    count (.all unprocessed [isNull .deadLetteredAt, atCeiling])⟩

/-- The stats are the counts of the command that asks for them. -/
lemma stats_eq_counts (t : Tables) (ceiling : UInt32) :
    server.stats ceiling t = (.ok (t.counts ceiling), t) := rfl

section Mono

variable {ceiling ceiling' : UInt32} (le : ceiling ≤ ceiling')
include le

/-- A higher ceiling leaves no fewer records pending. -/
lemma pending_mono (t : Tables) : (t.counts ceiling).pending ≤ (t.counts ceiling').pending := by
  refine List.countP_mono_left fun row _ pending => ?_
  simp only [Condition.all, holds_and, Bool.and_eq_true] at pending ⊢
  obtain ⟨waits, below⟩ := pending
  exact ⟨waits, belowCeiling_mono rfl rfl le below⟩

/-- A higher ceiling leaves no more records exhausted. -/
lemma exhausted_anti (t : Tables) :
    (t.counts ceiling').exhausted ≤ (t.counts ceiling).exhausted := by
  refine List.countP_mono_left fun row _ exhausted => ?_
  simp only [Condition.all, holds_and, Bool.and_eq_true] at exhausted ⊢
  obtain ⟨waits, reached⟩ := exhausted
  exact ⟨waits, atCeiling_anti rfl rfl le reached⟩

end Mono

end Tables

/-- What is read of a row is the record whose number of failures the row holds. -/
lemma exists_readRecord {row : Row} (typed : row.Typed) :
    ∃ r, readRecord row.sent = .ok r ∧ row .retryCount = .integer r.retryCount.toNat := by
  obtain ⟨r, fits, rfl⟩ := exists_ofRecord typed
  exact ⟨r, readRecord_ofRecord fits, ofCount_eq fits.retryCount⟩

open Tables (server)

/-- Every call sends to every server the integers that stand for the numbers it brings. Such an
integer is negative just for a limit or a version in the upper half of its range, and the order of
numbers is kept up to there. So tables with rows of the right types list as many records as a limit
says, unless the limit turned negative; they let more records through and count more of them as
pending when the ceiling is higher; and they hold of a version or a count the integer that stands
for it. A count is read back as it is held. -/
theorem sent_in_order {t : Tables} (typed : ∀ row ∈ t.records, row.Typed) :
    (∀ {ω τ : Type} (v : Server ω τ) (q : Query) (x : τ) (w : ω),
      q.sent v x w = q.figures.map Figure.sent) ∧
    (∀ f : Figure, 0 ≤ f.sent ↔ f.Fits) ∧
    (∀ f g : Figure, f.Le g → (f.sent ≤ g.sent ↔ (f.Fits → g.Fits))) ∧
    (∀ now, ∃ ready dead : UInt32 → List Record,
      (∀ ceiling, t.Lists (ready ceiling) fun limit => server.fetch now limit ceiling) ∧
      (∀ ceiling, t.Lists (dead ceiling) (server.deadLetters ceiling)) ∧
      ∀ m n, m ≤ n → (ready m).Subperm (ready n) ∧ (dead n).Subperm (dead m)) ∧
    (∃ counts : UInt32 → Store.Counts,
      (∀ ceiling, server.stats ceiling t = (.ok (counts ceiling), t)) ∧
      ∀ m n, m ≤ n →
        (counts m).pending ≤ (counts n).pending ∧ (counts n).exhausted ≤ (counts m).exhausted) ∧
    (∀ (own : List Command) (seen : Tables), t.executeAll own = .ok seen →
      (∀ e : Entity, ∃ own' t', server.save e own t = (.ok (), own', t) ∧
        server.commitWork own' t = (.ok (), t') ∧
        t'.version? e.aggregateType e.aggregateId = some (.integer (Figure.word e.version).sent)) ∧
      ∀ r : Record, (∀ row ∈ seen.records, row .id ≠ .uuid r.id) →
        ∃ own' t', server.append r own t = (.ok (), own', t) ∧
          server.commitWork own' t = (.ok (), t') ∧
          ∃ row ∈ t'.records, row .id = .uuid r.id ∧
            row .retryCount = .integer (Figure.count r.retryCount).sent) ∧
    ∀ row ∈ t.records,
      ∃ r, readRecord row.sent = .ok r ∧ row .retryCount = .integer r.retryCount.toNat := by
  -- Rows of the right types are rows of records, of which the rest is known.
  refine ⟨fun v q x w => q.sent_eq v x w, Figure.sent_nonneg_iff,
    fun _ _ => Figure.sent_le_sent_iff, fun now => ?_, ?_,
    fun own seen so => ⟨fun e => ?_, fun r unused => ?_⟩,
    fun row mem => exists_readRecord (typed row mem)⟩
  · obtain ⟨rs, rows, fits⟩ := exists_map_ofRecord typed
    exact Tables.Holds.exists_lists ⟨rows, fits⟩ now
  · exact ⟨t.counts, t.stats_eq_counts, fun _ _ le => ⟨t.pending_mono le, t.exhausted_anti le⟩⟩
  · obtain ⟨own', t', saved, so', version⟩ := Tables.save_server so e
    exact ⟨own', t', saved, Tables.commitWork_server so', ofWord_eq_sent e.version ▸ version⟩
  · obtain ⟨own', appended, so'⟩ := Tables.append_server so unused
    exact ⟨own', _, appended, Tables.commitWork_server so', Row.ofRecord r,
      List.mem_append_right _ (List.mem_singleton_self _), rfl, rfl⟩

/-- An entity in some version. -/
def crate (version : UInt64) : Entity :=
  ⟨"crate", ⟨1⟩, version, .null⟩

/-- One more turns the greatest limit that brings records into one that is refused, and the greatest
version into the smallest. -/
theorem limit_turns_negative :
    (Query.fetch .epoch 9223372036854775807 10).sent server [] shelf = [10, 9223372036854775807] ∧
      (server.fetch .epoch 9223372036854775807 10 shelf).1 =
        .ok [waiting, { waiting with id := ⟨2⟩ }] ∧
      (Query.fetch .epoch 9223372036854775808 10).sent server [] shelf =
        [10, -9223372036854775808] ∧
      (server.fetch .epoch 9223372036854775808 10 shelf).1 =
        .error (.storage "database error in fetch_batch (2201W): LIMIT must not be negative") ∧
      (Query.save (crate 9223372036854775807)).sent server [] shelf = [9223372036854775807] ∧
      (Query.save (crate 9223372036854775808)).sent server [] shelf = [-9223372036854775808] := by
  have brought : (server.fetch .epoch 9223372036854775807 10 shelf).1 =
      .ok ((Record.oldestFirst [{ waiting with id := ⟨2⟩ }, waiting]).take 9223372036854775807) :=
    congrArg Prod.fst (Tables.fetch_server holds_shelf isWhole_epoch (by decide) (by decide))
  have sorted : Record.oldestFirst [{ waiting with id := ⟨2⟩ }, waiting] =
      [waiting, { waiting with id := ⟨2⟩ }] := by
    rw [Record.oldestFirst_eq_of_perm (.swap ..) (by decide), Record.oldestFirst,
      List.mergeSort_of_pairwise (by decide)]
  rw [sorted, List.take_of_length_le (by decide)] at brought
  exact ⟨Query.sent_eq .., brought, Query.sent_eq .., rfl, Query.sent_eq .., Query.sent_eq ..⟩

/-- Calls with small and great numbers, and what tables make of them. -/
theorem sent_in_order_shelf :
    (Query.fetch .epoch 2 4294967295).sent server [] shelf = [2147483647, 2] ∧
      (Figure.word 2).Le (.word 3) ∧ (Figure.word 2).sent ≤ (Figure.word 3).sent ∧
      (∀ row ∈ shelf.records, row.Typed) ∧
      (∃ few many : List Record, server.fetch .epoch 5 0 shelf = (.ok (few.take 5), shelf) ∧
        server.fetch .epoch 5 10 shelf = (.ok (many.take 5), shelf) ∧ few.Subperm many) ∧
      (∃ e, server.deadLetters 10 9223372036854775808 shelf = (.error e, shelf)) ∧
      (∃ few many : Store.Counts, server.stats 0 shelf = (.ok few, shelf) ∧
        server.stats 10 shelf = (.ok many, shelf) ∧ few.pending ≤ many.pending) ∧
      (∃ own t, server.save (crate 7) [] shelf = (.ok (), own, shelf) ∧
        server.commitWork own shelf = (.ok (), t) ∧
        t.version? "crate" ⟨1⟩ = some (.integer 7)) ∧
      (∃ own t, server.append { waiting with id := ⟨3⟩, retryCount := 4294967295 } [] shelf =
          (.ok (), own, shelf) ∧ server.commitWork own shelf = (.ok (), t) ∧
        ∃ row ∈ t.records, row .id = .uuid ⟨3⟩ ∧ row .retryCount = .integer 2147483647) ∧
      ∃ r, readRecord (Row.ofRecord waiting).sent = .ok r ∧
        Row.ofRecord waiting .retryCount = .integer r.retryCount.toNat := by
  have typed : ∀ row ∈ shelf.records, row.Typed := (sound_iff.2 ⟨drawer, mirrors_shelf⟩).typed
  have unused : ∀ row ∈ shelf.records, row .id ≠ .uuid ⟨3⟩ := holds_shelf.unused (by decide)
  have le : (Figure.word 2).Le (.word 3) := .word (by decide)
  obtain ⟨sends, -, ordered, listed, ⟨counts, counted, grows⟩, kept, read⟩ := sent_in_order typed
  obtain ⟨ready, dead, fetches, buries, mono⟩ := listed .epoch
  obtain ⟨saves, appends⟩ := kept [] shelf rfl
  exact ⟨sends server (.fetch .epoch 2 4294967295) [] shelf, le,
    (ordered _ _ le).2 fun _ => by decide, typed,
    ⟨ready 0, ready 10, (fetches 0).brings 5 (by decide), (fetches 10).brings 5 (by decide),
      (mono 0 10 (by decide)).1⟩,
    (buries 10).refuses 9223372036854775808 (by decide),
    ⟨counts 0, counts 10, counted 0, counted 10, (grows 0 10 (by decide)).1⟩,
    saves (crate 7), appends { waiting with id := ⟨3⟩, retryCount := 4294967295 } unused,
    read _ (List.mem_cons_of_mem _ List.mem_cons_self)⟩

end Outbox.Sql
