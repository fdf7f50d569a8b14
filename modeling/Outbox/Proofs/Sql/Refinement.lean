import Outbox.Proofs.Sql.Client
import Outbox.Proofs.Store

/-!
# The two stores

The store in a database against the store in memory. `Mirrors` relates tables to a store with the
same records; each call is answered alike by both and leaves them related (`Mirrors.step`), and so
do any calls one after another (`replies_mirror`), as long as what they bring fits into the columns.
-/

namespace Outbox

/-- A call to a store. -/
inductive Store.Call
  /-- Appends some records in a transaction of their own. -/
  | append (rs : List Record)
  | fetch (limit : UInt64) (ceiling : UInt32)
  | markProcessed (id : Identifier)
  | markFailed (id : Identifier) (reason : String)
  | countRetry (id : Identifier) (reason : String) (delay : Time.Span)
  | get (id : Identifier)
  | stats (ceiling : UInt32)

/-- What a call returns. -/
inductive Store.Reply
  | done
  | records (rs : List Record)
  | record (r : Option Record)
  | counts (c : Store.Counts)
  deriving DecidableEq

namespace Store

/-- The store with some records that were appended in a transaction of their own. -/
def appendAll (s : Store) (rs : List Record) : Except Error Store :=
  (rs.foldl Transaction.append .opened).commit s

/-- The answer of a call that changes a store, and the store after it. -/
def answered (s : Store) (a : Answer Error Store) : Answer Error Reply × Store :=
  (a.map fun _ => .done, a.ok?.getD s)

/-- What a call to the store in memory is answered, and the store after it. -/
def perform (now : Time.Instant) (c : Call) (s : Store) : Answer Error Reply × Store :=
  match c with
  | .append rs => s.answered (.ofExcept (s.appendAll rs))
  | .fetch limit ceiling => (.ok (.records (s.fetch now limit.toNat ceiling)), s)
  | .markProcessed id => s.answered (.ofExcept (s.markProcessed now id))
  | .markFailed id reason => s.answered (.ofExcept (s.markFailed now id reason))
  | .countRetry id reason delay => s.answered (s.countRetry now id reason delay)
  | .get id => (.ok (.record (s.get? id)), s)
  | .stats ceiling => (.ok (.counts (s.stats ceiling)), s)

end Store

namespace Sql

/-- What a call to the store in a database is answered, and the world after it. -/
def Server.perform {ω τ : Type} (v : Server ω τ) (now : Time.Instant) (c : Store.Call) (w : ω) :
    Answer Store.Error Store.Reply × ω :=
  match c with
  | .append rs =>
    let (done, w) := v.appendAll rs w
    ((Answer.ofExcept done).map fun _ => .done, w)
  | .fetch limit ceiling =>
    let (found, w) := v.fetch now limit ceiling w
    ((Answer.ofExcept found).map .records, w)
  | .markProcessed id =>
    let (done, w) := v.markProcessed now id w
    ((Answer.ofExcept done).map fun _ => .done, w)
  | .markFailed id reason =>
    let (done, w) := v.markFailed now id reason w
    ((Answer.ofExcept done).map fun _ => .done, w)
  | .countRetry id reason delay =>
    let (done, w) := v.countRetry now id reason delay w
    (done.map fun _ => .done, w)
  | .get id =>
    let (found, w) := v.get id w
    ((Answer.ofExcept found).map .record, w)
  | .stats ceiling =>
    let (counts, w) := v.stats ceiling w
    ((Answer.ofExcept counts).map .counts, w)

end Sql

/-- What some calls are answered one after another, each of them made when the clock reads an
instant, and what they leave. -/
def Store.replies {ω : Type}
    (perform : Time.Instant → Call → ω → Answer Error Reply × ω) :
    List (Time.Instant × Call) → ω → List (Answer Error Reply) × ω
  | [], w => ([], w)
  | (now, c) :: cs, w =>
    let (a, w) := perform now c w
    let (as, w) := replies perform cs w
    (a :: as, w)

namespace Store

/-- A call brings to a store only what the columns of the table can hold: whole microseconds, and
counts and limits that are not cut off. What it appends is new. -/
def Call.Fits (s : Store) (now : Time.Instant) : Call → Prop
  | append rs =>
    (∀ r ∈ rs, r.Fits) ∧ (rs.map Record.id).Nodup ∧ ∀ r ∈ rs, s.get? r.id = none
  | fetch limit ceiling =>
    now.IsWhole ∧ limit.toNat < 9223372036854775808 ∧ ceiling.toNat ≤ 2147483647
  | markProcessed _ => now.IsWhole
  | markFailed _ _ => now.IsWhole
  | countRetry id _ delay =>
    (∀ next, now.add? delay = some next → next.IsWhole) ∧
      ∀ r, s.get? id = some r → r.processed = false → r.retryCount.toNat < 2147483647
  | get _ => True
  | stats ceiling => ceiling.toNat ≤ 2147483647

/-- What settings in their ranges ask for fits. -/
lemma Call.fits_of_validate {settings : Settings} (valid : settings.validate = .ok ()) (s : Store)
    {now : Time.Instant} (whole : now.IsWhole) :
    (fetch settings.batchSize settings.retryCeiling).Fits s now ∧
      (stats settings.retryCeiling).Fits s now := by
  have limit : settings.batchSize.toNat ≤ 1000 := (Settings.inside_of_validate valid
    (e := ⟨"batch_size", settings.batchSize.toNat, 1, 1000⟩) (by simp [Settings.ranges])).2
  have ceiling : settings.retryCeiling.toNat ≤ 100 := (Settings.inside_of_validate valid
    (e := ⟨"max_retry_count", settings.retryCeiling.toNat, 1, 100⟩) (by simp [Settings.ranges])).2
  have low : settings.retryCeiling.toNat ≤ 2147483647 := by omega
  exact ⟨⟨whole, by omega, low⟩, low⟩

/-- Records are staged in the order in which they are appended. -/
lemma records_foldl_append (t : Transaction) (rs : List Record) :
    (rs.foldl Transaction.append t).records = t.records ++ rs := by
  induction rs generalizing t with
  | nil => exact (List.append_nil _).symm
  | cons r rs ih =>
    rw [List.foldl_cons, ih, Transaction.append, List.append_assoc, List.singleton_append]

/-- New records that are appended and committed are there. -/
lemma appendAll_eq_ok {s : Store} {rs : List Record} (distinct : (rs.map Record.id).Nodup)
    (unused : ∀ r ∈ rs, s.get? r.id = none) :
    ∃ s', s.appendAll rs = .ok s' ∧ s'.records.items = s.records.items ++ rs := by
  have staged : (rs.foldl Transaction.append .opened).records = rs := records_foldl_append _ rs
  have clear : Transaction.clash? s.records.keys rs = none :=
    Transaction.clash?_eq_none_iff.2
      ⟨distinct, fun r mem => Keyed.find?_eq_none_iff.1 (unused r mem)⟩
  unfold appendAll
  cases committed : (rs.foldl Transaction.append .opened).commit s with
  | ok s' =>
    refine ⟨s', rfl, ?_⟩
    rw [Transaction.records_commit committed, staged]
  | error e =>
    rw [Transaction.commit, staged, clear] at committed
    cases committed

/-- Every call fits at the moment at which it is made. -/
def AllFit (s : Store) : List (Time.Instant × Call) → Prop
  | [] => True
  | (now, c) :: cs => c.Fits s now ∧ (perform now c s).2.AllFit cs

end Store

namespace Sql

/-- The tables hold the rows of the records of a store, in whatever order. -/
def Mirrors (t : Tables) (s : Store) : Prop :=
  ∃ rs : List Record, rs.Perm s.records.items ∧ t.Holds rs

namespace Mirrors

open Tables (server)

variable {t : Tables} {s : Store}

/-- The records that tables mirror fit into them. -/
lemma fits (m : Mirrors t s) : ∀ r ∈ s.records.items, r.Fits := by
  obtain ⟨rs, perm, h⟩ := m
  exact fun r mem => h.fits r (perm.mem_iff.2 mem)

section Perm

variable {rs : List Record} (perm : rs.Perm s.records.items)
include perm

/-- No two rows have the same identifier. -/
lemma distinct : (rs.map Record.id).Nodup :=
  (perm.map Record.id).nodup_iff.2 s.records.distinct

/-- Both stores know the same records. -/
lemma find?_eq (id : Identifier) : rs.find? (·.id = id) = s.get? id :=
  Keyed.find?_eq_of_perm (t := ⟨rs, distinct perm⟩) perm id

/-- The tables have a record of an identifier if the store has. -/
lemma any_eq (id : Identifier) : rs.any (·.id = id) = s.records.contains id := by
  show _ = (s.get? id).isSome
  rw [← find?_eq perm, List.isSome_find?]

/-- From the same records the same ones are picked, in the same order. -/
lemma oldestFirst_filter_eq (p : Record → Bool) :
    Record.oldestFirst (rs.filter p) = Record.oldestFirst (s.records.items.filter p) :=
  Record.oldestFirst_eq_of_perm (perm.filter p)
    ((distinct perm).sublist (List.filter_sublist.map Record.id))

end Perm

/-- A change to one record is made by both. -/
lemma update (m : Mirrors t s) {operation : String} {id : Identifier} {c : Command}
    {assignments condition} {change? : Record → Option Record}
    (statement : c.statement = .update assignments condition)
    (changes : ∀ r ∈ s.records.items, Changes assignments condition c.parameters id change? r)
    (keeps : ∀ r, ((change? r).getD r).id = r.id) :
    let asked := s.answered (.ofExcept (s.update id (fun r => (change? r).getD r) keeps))
    ((Answer.ofExcept (server.update operation id c t).1).map fun _ => .done) = asked.1 ∧
      Mirrors (server.update operation id c t).2 asked.2 := by
  obtain ⟨rs, perm, h⟩ := m
  have changes r mem := changes r (perm.mem_iff.1 mem)
  rw [Tables.update_server h statement changes, any_eq perm, Store.update]
  cases here : s.records.contains id with
  | true => exact ⟨rfl, _, perm.map _, h.update changes⟩
  | false =>
    -- Without the record the update leaves all rows.
    have same : rs.map (changed id change?) = rs := map_changed_eq_self fun r mem same =>
      absurd (decide_eq_true same) (List.any_eq_false.1 ((any_eq perm id).trans here) r mem)
    refine ⟨rfl, rs, perm, ?_⟩
    have after := h.update changes
    rwa [same] at after ⊢

/-- New records are appended by both. -/
lemma append (m : Mirrors t s) {new : List Record} (fits : ∀ r ∈ new, r.Fits)
    (distinct : (new.map Record.id).Nodup) (unused : ∀ r ∈ new, s.get? r.id = none) :
    ∃ s', s.appendAll new = .ok s' ∧ (server.appendAll new t).1 = .ok () ∧
      Mirrors (server.appendAll new t).2 s' := by
  obtain ⟨rs, perm, h⟩ := m
  obtain ⟨s', asked, items⟩ := Store.appendAll_eq_ok distinct unused
  have other : ∀ r ∈ new, ∀ b ∈ rs, b.id ≠ r.id := fun r mem b old same =>
    Keyed.find?_eq_none_iff.1 (unused r mem)
      (List.mem_map.2 ⟨b, perm.mem_iff.1 old, same⟩)
  rw [Tables.appendAll_server h fits distinct other]
  refine ⟨s', asked, rfl, rs ++ new, items ▸ perm.append_right new, rfl, fun r mem => ?_⟩
  obtain old | new := List.mem_append.1 mem
  · exact h.fits r old
  · exact fits r new

/-- An identifier that is in no row is in no record of the store. -/
lemma get?_eq_none (m : Mirrors t s) {id : Identifier}
    (unused : ∀ row ∈ t.records, row .id ≠ .uuid id) : s.get? id = none := by
  obtain ⟨rs, perm, h⟩ := m
  rw [← find?_eq perm, List.find?_eq_none]
  intro r mem same
  refine unused (Row.ofRecord r) (h.rows ▸ List.mem_map_of_mem mem) ?_
  exact congrArg Value.uuid (of_decide_eq_true same)

/-- A call that fits is answered alike by both, and both do the same. -/
lemma step (m : Mirrors t s) {now : Time.Instant} {c : Store.Call} (fits : c.Fits s now) :
    (server.perform now c t).1 = (Store.perform now c s).1 ∧
      Mirrors (server.perform now c t).2 (Store.perform now c s).2 := by
  cases c with
  | append new =>
    obtain ⟨fits, distinct, unused⟩ := fits
    obtain ⟨s', asked, done, m'⟩ := m.append fits distinct unused
    simp only [Server.perform, Store.perform, asked, done]
    exact ⟨rfl, m'⟩
  | fetch limit ceiling =>
    obtain ⟨whole, small, low⟩ := fits
    obtain ⟨rs, perm, h⟩ := m
    simp only [Server.perform, Store.perform, Tables.fetch_server h whole small low, Store.fetch,
      oldestFirst_filter_eq perm]
    exact ⟨rfl, rs, perm, h⟩
  | markProcessed id =>
    exact m.update rfl (fun r mem => changes_markProcessed (m.fits r mem) id fits)
      (Record.id_markProcessed · now)
  | markFailed id reason =>
    exact m.update rfl (fun r mem => changes_markFailed (m.fits r mem) id fits reason)
      (Record.id_markFailed · reason now)
  | countRetry id reason delay =>
    obtain ⟨whole, room⟩ := fits
    simp only [Server.perform, Store.perform, Server.countRetry, Store.countRetry]
    cases later : now.add? delay with
    | none => exact ⟨rfl, m⟩
    | some next =>
      -- Below the greatest number that a column holds, one more failure fits.
      have room : ∀ r ∈ s.records.items, r.id = id → r.processed = false →
          r.retryCount.toNat < 2147483647 := fun r mem same =>
        room r (same ▸ Keyed.find?_key mem)
      exact m.update rfl (fun r mem =>
        changes_countRetry (m.fits r mem) id (whole next later) reason (room r mem))
        (Record.id_countRetry · reason next)
  | get id =>
    obtain ⟨rs, perm, h⟩ := m
    simp only [Server.perform, Store.perform, Tables.get_server h, find?_eq perm]
    exact ⟨rfl, rs, perm, h⟩
  | stats ceiling =>
    obtain ⟨rs, perm, h⟩ := m
    have low : ceiling.toNat ≤ 2147483647 := fits
    simp only [Server.perform, Store.perform, Tables.stats_server h low, perm.countP_eq]
    exact ⟨rfl, rs, perm, h⟩

/-- Calls that fit are answered alike by both, and both end with the same records. -/
lemma run (m : Mirrors t s) {calls : List (Time.Instant × Store.Call)} (fit : s.AllFit calls) :
    (Store.replies server.perform calls t).1 = (Store.replies Store.perform calls s).1 ∧
      Mirrors (Store.replies server.perform calls t).2 (Store.replies Store.perform calls s).2 := by
  induction calls generalizing t s with
  | nil => exact ⟨rfl, m⟩
  | cons call calls ih =>
    obtain ⟨now, c⟩ := call
    obtain ⟨here, behind⟩ := fit
    obtain ⟨answer, m'⟩ := m.step here
    obtain ⟨answers, m''⟩ := ih m' behind
    exact ⟨congrArg₂ List.cons answer answers, m''⟩

end Mirrors

/-- Tables whose rows hold values of the types of their columns, no two of them with the same
identifier. -/
structure Tables.Sound (t : Tables) : Prop where
  typed : ∀ row ∈ t.records, row.Typed
  distinct : t.records.Pairwise fun a b => a.sameId b = false

/-- Rows of the right types are those of records that fit. -/
lemma exists_map_ofRecord {rows : List Row} (typed : ∀ row ∈ rows, row.Typed) :
    ∃ rs : List Record, rows = rs.map Row.ofRecord ∧ ∀ r ∈ rs, r.Fits := by
  induction rows with
  | nil => exact ⟨[], rfl, List.forall_mem_nil _⟩
  | cons row rows ih =>
    obtain ⟨here, behind⟩ := List.forall_mem_cons.1 typed
    obtain ⟨r, fits, rfl⟩ := exists_ofRecord here
    obtain ⟨rs, rfl, all⟩ := ih behind
    exact ⟨r :: rs, rfl, List.forall_mem_cons.2 ⟨fits, all⟩⟩

/-- Two rows have the same identifier just if their records do. -/
lemma pairwise_sameId_iff {rs : List Record} :
    (rs.map Row.ofRecord).Pairwise (fun a b => a.sameId b = false) ↔ (rs.map Record.id).Nodup := by
  rw [List.Nodup, List.pairwise_map, List.pairwise_map]
  refine List.Pairwise.iff fun {a b} => ?_
  rw [← Bool.not_eq_true, sameId_ofRecord]

/-- Sound tables are those that hold the records of a store. -/
lemma sound_iff {t : Tables} : t.Sound ↔ ∃ s, Mirrors t s := by
  constructor
  · intro sound
    obtain ⟨rs, rows, fits⟩ := exists_map_ofRecord sound.typed
    have distinct := pairwise_sameId_iff.1 (rows ▸ sound.distinct)
    exact ⟨{ Store.empty with records := ⟨rs, distinct⟩ }, rs, .refl rs, rows, fits⟩
  · rintro ⟨s, rs, perm, h⟩
    constructor
    · rw [h.rows, List.forall_mem_map]
      exact fun r mem => typed_ofRecord (h.fits r mem)
    · rw [h.rows]
      exact pairwise_sameId_iff.2 (Mirrors.distinct perm)

/-- For all sound tables there is a store in memory with the same records. From any such store on,
calls whose arguments fit into the columns are answered by the database as by the store in memory,
whatever the order of its rows, and both end with the same records. A new record that was appended
is read back as it was. -/
theorem replies_mirror {t : Tables} (sound : t.Sound) :
    (∃ s, Mirrors t s) ∧
      (∀ s, Mirrors t s → ∀ calls, s.AllFit calls →
        let database := Store.replies Tables.server.perform calls t
        let memory := Store.replies Store.perform calls s
        database.1 = memory.1 ∧ Mirrors database.2 memory.2) ∧
      ∀ r : Record, r.Fits → (∀ row ∈ t.records, row .id ≠ .uuid r.id) → ∀ now : Time.Instant,
        (Store.replies Tables.server.perform [(now, .append [r]), (now, .get r.id)] t).1 =
          [.ok .done, .ok (.record (some r))] := by
  obtain ⟨s, m⟩ := sound_iff.1 sound
  refine ⟨⟨s, m⟩, fun s m calls fit => m.run fit, fun r fits unused now => ?_⟩
  have new : ∀ b ∈ [r], s.get? b.id = none := List.forall_mem_singleton.2 (m.get?_eq_none unused)
  have distinct : ([r].map Record.id).Nodup := List.nodup_singleton _
  obtain ⟨s', appended, items⟩ := Store.appendAll_eq_ok distinct new
  have found : s'.get? r.id = some r := Keyed.find?_key (by rw [items]; simp)
  have fit : s.AllFit [(now, .append [r]), (now, .get r.id)] :=
    ⟨⟨List.forall_mem_singleton.2 fits, distinct, new⟩, trivial, trivial⟩
  rw [(m.run fit).1]
  simp only [Store.replies, Store.perform, appended]
  show [_, Answer.ok (Store.Reply.record (s'.get? r.id))] = _
  rw [found]
  rfl

/-- A record that waits to be relayed. -/
def waiting : Record where
  id := ⟨1⟩
  typeTag := "catalog.product.created"
  payload := "\x7b\x7d"
  occurredAt := .epoch

/-- Tables with this record and with another one before it. -/
def shelf : Tables where
  records := [Row.ofRecord { waiting with id := ⟨2⟩ }, Row.ofRecord waiting]

/-- A store with the same records. -/
def drawer : Store where
  records := ⟨[waiting, { waiting with id := ⟨2⟩ }], by decide⟩
  entities := .empty

/-- Calls that bring records into every standing, and a few more for records that are settled or
missing. -/
def errands : List (Time.Instant × Store.Call) :=
  [.append [{ waiting with id := ⟨3⟩ }],
    .fetch Settings.default.batchSize Settings.default.retryCeiling,
    .countRetry ⟨1⟩ "timeout" ⟨1000000000, by decide, by decide⟩,
    .markFailed ⟨2⟩ "unknown",
    .markProcessed ⟨3⟩,
    .markProcessed ⟨3⟩,
    .markProcessed ⟨4⟩,
    .get ⟨2⟩,
    .stats Settings.default.retryCeiling].map fun c => (.epoch, c)

/-- The epoch is a whole number of microseconds. -/
lemma isWhole_epoch : Time.Instant.epoch.IsWhole :=
  ⟨rfl, rfl⟩

/-- A record that waits fits, under any identifier. -/
lemma fits_waiting (id : Identifier) : Record.Fits { waiting with id } where
  occurredAt := isWhole_epoch
  processedAt _ none := nomatch none
  deadLetteredAt _ none := nomatch none
  nextAttemptAt _ none := nomatch none
  retryCount := Nat.zero_le _

/-- The shelf holds its two records. -/
lemma holds_shelf : shelf.Holds [{ waiting with id := ⟨2⟩ }, waiting] where
  rows := rfl
  fits := List.forall_mem_cons.2
    ⟨fits_waiting ⟨2⟩, List.forall_mem_singleton.2 (fits_waiting ⟨1⟩)⟩

/-- The shelf mirrors the drawer, in which the same records lie the other way round. -/
lemma mirrors_shelf : Mirrors shelf drawer :=
  ⟨_, .swap .., holds_shelf⟩

/-- All errands fit. -/
lemma allFit_errands : drawer.AllFit errands := by
  have whole := isWhole_epoch
  have valid : Settings.default.validate = .ok () := rfl
  have asked (s : Store) := Store.Call.fits_of_validate valid s whole
  refine ⟨⟨List.forall_mem_singleton.2 (fits_waiting ⟨3⟩), List.nodup_singleton _,
    List.forall_mem_singleton.2 rfl⟩, (asked _).1, ⟨fun next later => whole.add? rfl later, ?_⟩,
    whole, whole, whole, whole, trivial, (asked _).2, trivial⟩
  intro r found _
  cases (show some waiting = some r from found)
  decide

/-- The errands are answered by the database as by the store in memory. -/
theorem replies_mirror_shelf :
    shelf.Sound ∧ Mirrors shelf drawer ∧ drawer.AllFit errands ∧
      (Store.replies Tables.server.perform errands shelf).1 =
        [.ok .done,
          .ok (.records [waiting, { waiting with id := ⟨2⟩ }, { waiting with id := ⟨3⟩ }]),
          .ok .done, .ok .done, .ok .done, .ok .done, .error (.notFound ⟨4⟩),
          .ok (.record (some
            { waiting with id := ⟨2⟩, error := "unknown", deadLetteredAt := some .epoch })),
          .ok (.counts ⟨1, 1, 1, 0⟩)] ∧
      (Store.replies Tables.server.perform
        [(.epoch, .append [{ waiting with id := ⟨3⟩ }]), (.epoch, .get ⟨3⟩)] shelf).1 =
        [.ok .done, .ok (.record (some { waiting with id := ⟨3⟩ }))] := by
  have sound : shelf.Sound := sound_iff.2 ⟨drawer, mirrors_shelf⟩
  have unused : ∀ row ∈ shelf.records, row .id ≠ .uuid ⟨3⟩ := by
    refine List.forall_mem_cons.2 ⟨?_, List.forall_mem_singleton.2 ?_⟩
    · exact fun same => absurd (Value.uuid.inj same) (by decide)
    · exact fun same => absurd (Value.uuid.inj same) (by decide)
  obtain ⟨-, alike, back⟩ := replies_mirror sound
  obtain ⟨answers, -⟩ := alike drawer mirrors_shelf errands allFit_errands
  refine ⟨sound, mirrors_shelf, allFit_errands, answers.trans ?_, ?_⟩
  · have sorted : [waiting, { waiting with id := ⟨2⟩ }, { waiting with id := ⟨3⟩ }] =
        (Record.oldestFirst
          [waiting, { waiting with id := ⟨2⟩ }, { waiting with id := ⟨3⟩ }]).take 50 := by
      rw [Record.oldestFirst, List.mergeSort_of_pairwise (by decide)]
      rfl
    rw [sorted]
    rfl
  · exact back _ (fits_waiting ⟨3⟩) unused .epoch

end Sql

end Outbox
