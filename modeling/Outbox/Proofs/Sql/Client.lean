import Outbox.Proofs.Publisher
import Outbox.Proofs.Sql.Statement
import Outbox.UnitOfWork

/-!
# What calls do to records in tables

For tables with the rows of some records, what each call to the database returns and which rows it
leaves, in terms of these records.
-/

namespace Outbox.Sql

/-- Appends some records in a transaction of their own, and commits it unless one of them cannot be
appended. -/
def Server.appendAll {ω τ : Type} (s : Server ω τ) (rs : List Record) (w : ω) :
    Except Store.Error Unit × ω :=
  match s.begin w with
  | (.error e, w) => (.error e, w)
  | (.ok t, w) =>
    match UnitOfWork.eachUntilError s.append rs t w with
    | (.ok (), t, w) => s.commitWork t w
    | (.error e, t, w) => (.error e, (s.rollbackWork t w).2)

/-- The tables hold the rows of some records that fit into them, in this order. -/
structure Tables.Holds (t : Tables) (rs : List Record) : Prop where
  rows : t.records = rs.map Row.ofRecord
  fits : ∀ r ∈ rs, r.Fits

/-- The rows under a condition are those of the records that pass a test. -/
lemma filter_ofRecord {condition : Condition} {ps : Parameters} {p : Record → Bool}
    {rs : List Record} (holds : ∀ r ∈ rs, condition.holds ps (Row.ofRecord r) = p r) :
    (rs.map Row.ofRecord).filter (condition.holds ps) = (rs.filter p).map Row.ofRecord := by
  rw [List.filter_map]
  exact congrArg _ (List.filter_congr holds)

/-- There are as many rows under a condition as there are records that pass a test. -/
lemma countP_ofRecord {condition : Condition} {ps : Parameters} {p : Record → Bool}
    {rs : List Record} (holds : ∀ r ∈ rs, condition.holds ps (Row.ofRecord r) = p r) :
    (rs.map Row.ofRecord).countP (condition.holds ps) = rs.countP p := by
  rw [List.countP_map]
  exact List.countP_congr fun r mem => by rw [Function.comp_apply, holds r mem]

/-- Whether a row of the table of entities has a key. -/
def EntityRow.hasKey (aggregateType aggregateId : Value) (row : EntityRow) : Bool :=
  row.aggregateType.order? aggregateType = some .eq && row.aggregateId.order? aggregateId = some .eq

/-- The version that the tables hold of an entity. -/
def Tables.version? (t : Tables) (aggregateType : String) (aggregateId : Identifier) :
    Option Value :=
  (t.entities.find? (·.hasKey (.text aggregateType) (.uuid aggregateId))).map EntityRow.version

/-- The row of an entity. -/
def EntityRow.ofEntity (e : Entity) : EntityRow :=
  ⟨.text e.aggregateType, .uuid e.aggregateId, .ofWord e.version, .json e.state⟩

/-- The row of an entity has the key of the entity. -/
lemma EntityRow.hasKey_ofEntity (e : Entity) :
    (EntityRow.ofEntity e).hasKey (.text e.aggregateType) (.uuid e.aggregateId) = true := by
  have type : (Value.text e.aggregateType).order? (.text e.aggregateType) = some .eq :=
    congrArg some Std.ReflCmp.compare_self
  have id : (Value.uuid e.aggregateId).order? (.uuid e.aggregateId) = some .eq :=
    order?_uuid_iff.2 rfl
  simp only [hasKey, ofEntity, type, id, decide_true, Bool.and_self]

/-- A row that was saved is found by its key. -/
lemma find?_savedEntity (rows : List EntityRow) {row : EntityRow}
    (own : row.hasKey row.aggregateType row.aggregateId = true) :
    (savedEntity rows row).find? (·.hasKey row.aggregateType row.aggregateId) = some row := by
  let same (b : EntityRow) : Bool := b.hasKey row.aggregateType row.aggregateId
  show (if rows.any same then rows.map fun b => if same b then row else b
    else rows ++ [row]).find? same = some row
  split
  · next here =>
    -- The row in the place of another one has its key.
    have kept : same ∘ (fun b => if same b then row else b) = same := by
      funext b
      show same (if same b then row else b) = same b
      split
      · next key => exact own.trans key.symm
      · rfl
    obtain ⟨b, found⟩ := Option.isSome_iff_exists.1 (List.isSome_find?.trans here)
    rw [List.find?_map, kept, found]
    exact congrArg some (if_pos (List.find?_some found))
  · next none =>
    rw [List.find?_append, List.find?_eq_none.2 fun b mem key =>
      none (List.any_eq_true.2 ⟨b, mem, key⟩)]
    show List.find? same [row] = _
    rw [List.find?_singleton, if_pos own]

/-- Records that fit are read back from their rows. -/
lemma mapM_readRecord {rs : List Record} (fits : ∀ r ∈ rs, r.Fits) :
    ((rs.map Row.ofRecord).map Row.sent).mapM readRecord = .ok rs := by
  induction rs with
  | nil => rfl
  | cons r rs ih =>
    obtain ⟨here, behind⟩ := List.forall_mem_cons.1 fits
    rw [List.map_cons, List.map_cons, List.mapM_cons, readRecord_ofRecord here, ih behind]
    rfl

namespace Tables

variable {t : Tables} {rs : List Record}

/-- A command outside of a transaction is answered as the tables answer it. -/
lemma execute_server {c : Command} {response : Response} {t' : Tables}
    (executed : t.execute c = .ok (response, t')) : server.execute c t = (.ok response, t') := by
  simp only [server, executed]

/-- A command that selects the rows of some records that fit brings these records. -/
lemma records_server {operation : String} {c : Command} {condition limit} {found : List Record}
    (select : c.statement = .select condition limit)
    (rows : selected t.records condition limit c.parameters = .ok (found.map Row.ofRecord))
    (fits : ∀ r ∈ found, r.Fits) : server.records operation c t = (.ok found, t) := by
  have executed : t.execute c = .ok (.rows ((found.map Row.ofRecord).map Row.sent), t) := by
    simp only [execute, select, rows]
    rfl
  simp only [Server.records, execute_server executed, Response.sentRows, mapM_readRecord fits]
  rfl

/-- A command with a limit brings the oldest of the records that pass a test, as many of them as the
limit allows. -/
lemma listed_server (h : t.Holds rs) {operation : String} {c : Command} {condition : Condition}
    {limit : UInt64} {p : Record → Bool} (select : c.statement = .select condition (some 2))
    (second : c.parameters.get 2 = .ofWord limit) (small : limit.toNat < 9223372036854775808)
    (holds : ∀ r ∈ rs, condition.holds c.parameters (Row.ofRecord r) = p r) :
    server.records operation c t =
      (.ok ((Record.oldestFirst (rs.filter p)).take limit.toNat), t) := by
  have fits : ∀ r ∈ rs.filter p, r.Fits := fun r mem => h.fits r (List.mem_filter.1 mem).1
  refine records_server select ?_ fun r mem =>
    fits r (List.mem_mergeSort.1 (List.mem_of_mem_take mem))
  have parameter : c.parameters.get 2 = .integer limit.toNat :=
    second.trans (congrArg Value.integer (Settings.signed_eq_toNat small))
  rw [selected, parameter, h.rows, filter_ofRecord holds]
  simp only
  rw [if_neg (by omega), Int.toNat_natCast, List.map_take, Record.oldestFirst]
  rw [List.map_mergeSort fun a ha b hb => (isBefore_ofRecord (fits a ha) (fits b hb)).symm]

/-- A command whose limit turns negative is refused. -/
lemma refused_server {operation : String} {c : Command} {condition : Condition} {limit : UInt64}
    (select : c.statement = .select condition (some 2))
    (second : c.parameters.get 2 = .ofWord limit) (negative : limit.toInt64.toInt < 0) :
    server.records operation c t =
      (.error (Fault.during operation (.database (some "2201W") "LIMIT must not be negative")),
        t) := by
  have refused : t.execute c = .error (.database (some "2201W") "LIMIT must not be negative") := by
    simp only [execute, select, selected, second, Value.ofWord, if_pos negative]
    rfl
  simp only [Server.records, server, refused]

/-- A fetch brings the records that are to be relayed now. -/
lemma fetch_server (h : t.Holds rs) {now : Time.Instant} (whole : now.IsWhole) {limit : UInt64}
    (small : limit.toNat < 9223372036854775808) {ceiling : UInt32}
    (low : ceiling.toNat ≤ 2147483647) :
    server.fetch now limit ceiling t =
      (.ok ((Record.oldestFirst
        (rs.filter fun r => r.isEligible ceiling && r.isDue now)).take limit.toNat), t) :=
  listed_server h rfl rfl small fun r mem => holds_fetch (h.fits r mem) whole low

/-- A look for a record brings it, if it is there. -/
lemma get_server (h : t.Holds rs) (id : Identifier) :
    server.get id t = (.ok (rs.find? (·.id = id)), t) := by
  have found : selected t.records hasId none (getCommand id).parameters =
      .ok ((rs.filter (·.id = id)).map Row.ofRecord) := by
    rw [selected, h.rows, filter_ofRecord fun r _ => holds_eq (truth_hasId _ rfl)]
  rw [Server.get, records_server rfl found fun r mem => h.fits r (List.mem_filter.1 mem).1,
    ← List.head?_filter]
  rfl

/-- A look for a record finds it if it is one of those that the tables hold. -/
lemma contains_server (rows : t.records = rs.map Row.ofRecord) (id : Identifier) :
    server.contains id t = (.ok (rs.any (·.id = id)), t) := by
  have found : t.records.any (fun row => (row .id).order? (.uuid id) = some .eq) =
      rs.any (·.id = id) := by
    rw [rows, List.any_map]
    exact congrArg rs.any (funext fun r => decide_eq_decide.2 order?_uuid_iff)
  rw [← found]
  rfl

/-- The counts are those of the records in each standing. -/
lemma stats_server (h : t.Holds rs) {ceiling : UInt32} (low : ceiling.toNat ≤ 2147483647) :
    server.stats ceiling t =
      (.ok ⟨rs.countP fun r => r.standing ceiling = .pending,
        rs.countP fun r => r.standing ceiling = .processed,
        rs.countP fun r => r.standing ceiling = .deadLettered,
        rs.countP fun r => r.standing ceiling = .exhausted⟩, t) := by
  have counts {condition : Condition} {standing : Record.Standing}
      (holds : ∀ r ∈ rs, condition.holds (statsCommand ceiling).parameters (Row.ofRecord r) =
        decide (r.standing ceiling = standing)) :
      t.records.countP (condition.holds (statsCommand ceiling).parameters) =
        rs.countP fun r => r.standing ceiling = standing := by
    rw [h.rows, countP_ofRecord holds]
  have pending := counts fun r mem => holds_pending (h.fits r mem) low
  have processed := counts fun r _ => holds_processed (r := r)
  have deadLettered := counts fun r _ => holds_deadLettered (r := r)
  have exhausted := counts fun r mem => holds_exhausted (h.fits r mem) low
  rw [← pending, ← processed, ← deadLettered, ← exhausted]
  rfl

/-- An update leaves the tables with the rows of the records that it made. -/
lemma Holds.update (h : t.Holds rs) {assignments condition ps id}
    {change? : Record → Option Record}
    (changes : ∀ r ∈ rs, Changes assignments condition ps id change? r) :
    Holds { t with records := (rs.map (changed id change?)).map Row.ofRecord }
      (rs.map (changed id change?)) := by
  refine ⟨rfl, fun r' image => ?_⟩
  obtain ⟨r, mem, rfl⟩ := List.mem_map.1 image
  have fits := h.fits r mem
  unfold changed
  split
  · next same =>
    cases made : change? r with
    | none => exact fits
    | some r' => exact (changes r mem).fits same r' made
  · exact fits

/-- A change of the rows of one record makes of the record what a function does, if it makes
anything of it. The record must be there. -/
lemma update_server (h : t.Holds rs) {operation : String} {id : Identifier} {c : Command}
    {assignments condition} {change? : Record → Option Record}
    (update : c.statement = .update assignments condition)
    (changes : ∀ r ∈ rs, Changes assignments condition c.parameters id change? r) :
    server.update operation id c t =
      (if rs.any (·.id = id) then .ok () else .error (.notFound id),
        { t with records := (rs.map (changed id change?)).map Row.ofRecord }) := by
  generalize images : rs.map (changed id change?) = rs'
  generalize count : (rs.countP fun r => decide (r.id = id) && (change? r).isSome) = n
  have executed : t.execute c = .ok (.affected n, { t with records := rs'.map Row.ofRecord }) := by
    simp only [execute, update, h.rows, updated_map changes, images, count]
    rfl
  have looked := contains_server (t := { t with records := rs'.map Row.ofRecord }) rfl id
  simp only [Server.update, execute_server executed, looked]
  show (if 0 < n then _ else _) = _
  by_cases some : 0 < n
  · have here : rs.any (·.id = id) = true := by
      obtain ⟨r, mem, this⟩ := List.countP_pos_iff.1 (count ▸ some)
      exact List.any_eq_true.2 ⟨r, mem, (Bool.and_eq_true_iff.1 this).1⟩
    rw [if_pos some, if_pos here]
  · -- No record was changed, so that the look for the record finds the records of before.
    have none : ∀ r ∈ rs, r.id = id → change? r = none := by
      intro r mem same
      have not := List.countP_eq_zero.1 (count.trans (Nat.eq_zero_of_not_pos some)) r mem
      simpa [same] using not
    rw [if_neg some, ← images, map_changed_eq_self none]
    rfl

/-- An identifier that no record has is in no row. -/
lemma Holds.unused (h : t.Holds rs) {id : Identifier} (unused : ∀ b ∈ rs, b.id ≠ id) :
    ∀ row ∈ t.records, row .id ≠ .uuid id := by
  rw [h.rows, List.forall_mem_map]
  exact fun b mem same => unused b mem (Value.uuid.inj same)

/-- The tables with one more row hold one more record. -/
lemma Holds.concat (h : t.Holds rs) {r : Record} (fits : r.Fits) :
    Holds { t with records := t.records ++ [Row.ofRecord r] } (rs ++ [r]) := by
  refine ⟨?_, fun b mem => ?_⟩
  · rw [h.rows, List.map_append, List.map_singleton]
  obtain mem | same := List.mem_append.1 mem
  · exact h.fits b mem
  · exact List.mem_singleton.1 same ▸ fits

/-- Of a record whose identifier is not in use, the row is added. -/
lemma execute_appendCommand {r : Record} (unused : ∀ row ∈ t.records, row .id ≠ .uuid r.id) :
    t.execute (appendCommand r) =
      .ok (.affected 1, { t with records := t.records ++ [Row.ofRecord r] }) := by
  have inserted : (appendCommand r).statement = .insert := rfl
  have new : t.records.any (Row.ofRecord r).sameId = false := by
    rw [List.any_eq_false]
    intro row mem same
    exact unused row mem (sameId_ofRecord_iff.1 same)
  simp only [execute, inserted, ofParameters_appendCommand]
  rw [if_neg (Bool.eq_false_iff.1 new)]

/-- One more command takes effect where those before it have led. -/
lemma executeAll_concat {own : List Command} {c : Command} {seen seen' : Tables}
    {response : Response} (so : t.executeAll own = .ok seen)
    (executed : seen.execute c = .ok (response, seen')) :
    t.executeAll (own ++ [c]) = .ok seen' := by
  induction own generalizing t with
  | nil =>
    cases so
    simp only [List.nil_append, executeAll, executed]
    rfl
  | cons d own ih =>
    simp only [List.cons_append, executeAll] at so ⊢
    cases first : t.execute d with
    | error f =>
      rw [first] at so
      cases so
    | ok done =>
      rw [first] at so
      exact ih so

section Transaction

variable {own : List Command} {seen : Tables} (so : t.executeAll own = .ok seen)
include so

/-- A command in a transaction is answered as it would be after those before it. -/
lemma executeIn_server {c : Command} {response : Response} {seen' : Tables}
    (executed : seen.execute c = .ok (response, seen')) :
    server.executeIn c own t = (.ok response, own ++ [c], t) := by
  simp only [server, so, executed]

/-- A commit makes the tables those that the transaction has seen. -/
lemma commitWork_server : server.commitWork own t = (.ok (), seen) := by
  simp only [Server.commitWork, server, so]
  rfl

/-- A record whose identifier is not in use is appended. -/
lemma append_server {r : Record} (unused : ∀ row ∈ seen.records, row .id ≠ .uuid r.id) :
    ∃ own', server.append r own t = (.ok (), own', t) ∧
      t.executeAll own' = .ok { seen with records := seen.records ++ [Row.ofRecord r] } := by
  have executed := execute_appendCommand unused
  refine ⟨own ++ [appendCommand r], ?_, executeAll_concat so executed⟩
  simp only [Server.append, executeIn_server so executed]
  rfl

/-- An entity that is saved is there in the given version. -/
lemma save_server (e : Entity) :
    ∃ own' seen', server.save e own t = (.ok (), own', t) ∧ t.executeAll own' = .ok seen' ∧
      seen'.version? e.aggregateType e.aggregateId = some (.ofWord e.version) := by
  have executed : seen.execute (saveCommand e) = .ok (.affected 1,
      { seen with entities := savedEntity seen.entities (.ofEntity e) }) := rfl
  refine ⟨own ++ [saveCommand e], _, ?_, executeAll_concat so executed, ?_⟩
  · simp only [Server.save, executeIn_server so executed]
    rfl
  · exact congrArg (Option.map EntityRow.version)
      (find?_savedEntity seen.entities (EntityRow.hasKey_ofEntity e))

end Transaction

/-- Records with identifiers of their own are appended one after another. -/
lemma eachUntilError_append {own : List Command} {seen : Tables} {new : List Record}
    (so : t.executeAll own = .ok seen) (h : seen.Holds rs) (fits : ∀ r ∈ new, r.Fits)
    (distinct : (new.map Record.id).Nodup) (unused : ∀ r ∈ new, ∀ b ∈ rs, b.id ≠ r.id) :
    ∃ own', UnitOfWork.eachUntilError server.append new own t = (.ok (), own', t) ∧
      t.executeAll own' = .ok { seen with records := (rs ++ new).map Row.ofRecord } := by
  induction new generalizing own seen rs with
  | nil =>
    refine ⟨own, rfl, ?_⟩
    rw [List.append_nil, ← h.rows]
    exact so
  | cons r new ih =>
    obtain ⟨here, behind⟩ := List.forall_mem_cons.1 fits
    obtain ⟨other, distinct⟩ := List.nodup_cons.1 distinct
    obtain ⟨own', appended, so⟩ := append_server so (h.unused (unused r List.mem_cons_self))
    have later : ∀ b ∈ new, ∀ a ∈ rs ++ [r], a.id ≠ b.id := by
      intro b mem a old same
      obtain old | this := List.mem_append.1 old
      · exact unused b (List.mem_cons_of_mem r mem) a old same
      · cases List.mem_singleton.1 this
        exact other (List.mem_map.2 ⟨b, mem, same.symm⟩)
    obtain ⟨own'', done, committed⟩ := ih so (h.concat here) behind distinct later
    refine ⟨own'', ?_, ?_⟩
    · rw [UnitOfWork.eachUntilError, appended]
      exact done
    · rw [committed, List.append_assoc, List.singleton_append]

/-- Records with identifiers of their own that are appended and committed are there. -/
lemma appendAll_server (h : t.Holds rs) {new : List Record} (fits : ∀ r ∈ new, r.Fits)
    (distinct : (new.map Record.id).Nodup) (unused : ∀ r ∈ new, ∀ b ∈ rs, b.id ≠ r.id) :
    server.appendAll new t = (.ok (), { t with records := (rs ++ new).map Row.ofRecord }) := by
  have opened : t.executeAll [] = .ok t := rfl
  obtain ⟨own, done, committed⟩ := eachUntilError_append opened h fits distinct unused
  have started : server.begin t = (.ok [], t) := rfl
  simp only [Server.appendAll, started, done, commitWork_server committed]

end Tables

end Outbox.Sql
