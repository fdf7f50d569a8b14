import Outbox.Proofs.Record
import Outbox.Store

/-!
# The life of a store

What the calls of a store do to the look-ups of its records. `Store.Descends` lifts the relation
`Record.Descends` to stores: no record is lost, and each one became what its calls made of it.
-/

namespace Outbox

/-- An answer of a call that cannot crash is what the call returns. -/
lemma Answer.ofExcept_eq_ok_iff {ε α : Type} {x : Except ε α} {a : α} :
    Answer.ofExcept x = .ok a ↔ x = .ok a := by
  cases x <;> simp [Answer.ofExcept]

/-- A call that returns something came to that. -/
@[simp] lemma Answer.ok?_ok {ε α : Type} (a : α) : (ok a : Answer ε α).ok? = some a := rfl

/-- A call that fails came to nothing. -/
@[simp] lemma Answer.ok?_error {ε α : Type} (e : ε) : (error e : Answer ε α).ok? = none := rfl

/-- A call that crashes came to nothing. -/
@[simp] lemma Answer.ok?_crash {ε α : Type} : (crash : Answer ε α).ok? = none := rfl

/-- A call returned something if what it came to is that it returned it. -/
lemma Answer.ok?_eq_some_iff {ε α : Type} {x : Answer ε α} {a : α} :
    x.ok? = some a ↔ x = .ok a := by
  cases x <;> simp [Answer.ok?]

/-- Two changes to what a call returns are one. -/
lemma Answer.map_map {ε α β γ : Type} (f : α → β) (g : β → γ) (x : Answer ε α) :
    (x.map f).map g = x.map (g ∘ f) := by
  cases x <;> rfl

namespace Store

/-- Every record of a store became one of another store by some calls, of which a given number
counted a retry of it. -/
def Descends (n : Identifier → Nat) (s s' : Store) : Prop :=
  ∀ ⦃id r⦄, s.get? id = some r → ∃ r', s'.get? id = some r' ∧ r.Descends (n id) r'

/-- Without a call a store stays as it is. -/
lemma Descends.refl (s : Store) : Descends (fun _ => 0) s s :=
  fun _ r found => ⟨r, found, .refl r⟩

/-- The retries of two runs of calls add up. -/
lemma Descends.trans {m n s s' s''} (d : Descends m s s') (d' : Descends n s' s'') :
    Descends (fun id => m id + n id) s s'' := by
  intro id r found
  obtain ⟨r', found', dr⟩ := d found
  obtain ⟨r'', found'', dr'⟩ := d' found'
  exact ⟨r'', found'', dr.trans dr'⟩

/-- An update changes the record with its identifier and no other. -/
lemma get?_update {s s' : Store} {id} {f : Record → Record} {hf}
    (upd : s.update id f hf = .ok s') (j : Identifier) :
    s'.get? j = if j = id then (s.get? id).map f else s.get? j := by
  unfold update at upd
  split at upd
  · cases upd
    simp only [get?, Keyed.find?_adjust]
  · cases upd

/-- An update is a step in the life of a store if it is one in the life of a record. -/
lemma descends_update {s s' : Store} {id} {f : Record → Record} {hf n}
    (upd : s.update id f hf = .ok s') (d : ∀ r, Record.Descends n r (f r)) :
    Descends (fun j => if id = j then n else 0) s s' := by
  intro j r found
  rw [get?_update upd j]
  by_cases same : j = id
  · subst same
    exact ⟨f r, by simp [found], by simpa using d r⟩
  · exact ⟨r, by simp [same, found], by simpa [Ne.symm same] using Record.Descends.refl r⟩

/-- An update that leaves open whether records are processed makes none of them processed. -/
lemma processed_update {s s' : Store} {id} {f : Record → Record} {hf}
    (upd : s.update id f hf = .ok s') (keeps : ∀ r, (f r).processed = r.processed)
    {j r r'} (found : s.get? j = some r) (found' : s'.get? j = some r') :
    r'.processed = r.processed := by
  rw [get?_update upd j] at found'
  split at found'
  · next same =>
    subst same
    rw [found, Option.map_some, Option.some.injEq] at found'
    exact found' ▸ keeps r
  · rw [found, Option.some.injEq] at found'
    rw [found']

/-- Counting a retry updates a record, unless it crashes before that. -/
lemma countRetry_inv {s s' : Store} {now id reason delay}
    (count : s.countRetry now id reason delay = .ok s') :
    ∃ next, now.add? delay = some next ∧
      s.update id (·.countRetry reason next) (Record.id_countRetry · reason next) = .ok s' := by
  unfold countRetry at count
  split at count
  · cases count
  · next next later => exact ⟨next, later, Answer.ofExcept_eq_ok_iff.1 count⟩

/-- What is fetched is in the store. -/
lemma get?_of_mem_fetch {s : Store} {now limit ceiling r} (mem : r ∈ s.fetch now limit ceiling) :
    s.get? r.id = some r := by
  have mem := (List.mem_mergeSort.1 (List.mem_of_mem_take mem))
  exact Keyed.find?_key (List.mem_filter.1 mem).1

/-- A fetch brings only records that are to be relayed. -/
lemma isEligible_of_mem_fetch {s : Store} {now limit ceiling r}
    (mem : r ∈ s.fetch now limit ceiling) : r.isEligible ceiling = true := by
  have mem := List.mem_mergeSort.1 (List.mem_of_mem_take mem)
  exact (Bool.and_eq_true_iff.1 (List.mem_filter.1 mem).2).1

/-- If every record has waited out its last failure, a fetch brings as many of those that are to be
relayed as it may. -/
lemma length_fetch_of_isDue {s : Store} {now : Time.Instant} {ceiling : UInt32}
    (due : ∀ r ∈ s.records.items, r.isDue now = true) (limit : Nat) :
    (s.fetch now limit ceiling).length =
      min limit (s.records.items.countP (·.isEligible ceiling)) := by
  rw [fetch, Record.oldestFirst, List.length_take, List.length_mergeSort,
    List.countP_eq_length_filter]
  have same : s.records.items.filter (fun r => r.isEligible ceiling && r.isDue now) =
      s.records.items.filter (·.isEligible ceiling) :=
    List.filter_congr fun r mem => by rw [due r mem, Bool.and_true]
  rw [same]

/-- No two of the records that are fetched have the same identifier. -/
lemma nodup_fetch (s : Store) (now : Time.Instant) (limit : Nat) (ceiling : UInt32) :
    ((s.fetch now limit ceiling).map Record.id).Nodup := by
  have filtered := s.records.distinct.sublist ((List.filter_sublist
    (p := fun r => r.isEligible ceiling && r.isDue now)).map Record.id)
  have sorted := ((List.mergeSort_perm _ Record.isBefore).map Record.id).nodup_iff.2 filtered
  exact sorted.sublist ((List.take_sublist ..).map Record.id)

end Store

end Outbox

/-!
## Commits

A commit that goes through adds the staged records behind those of the store, in the order in which
they were staged (`records_commit`), and puts the staged entities in (`entities_commit`).
-/

namespace Outbox.Store.Transaction

/-- Records clash unless their identifiers are new and differ from each other. -/
lemma clash?_eq_none_iff {taken : List Identifier} {rs : List Record} :
    clash? taken rs = none ↔ (rs.map Record.id).Nodup ∧ ∀ r ∈ rs, r.id ∉ taken := by
  induction rs generalizing taken with
  | nil => simp [clash?]
  | cons r rs ih =>
    rw [clash?, List.map_cons, List.nodup_cons, List.forall_mem_cons]
    split
    · next old => simp [old]
    · next new =>
      -- For the records behind it the identifier of this one is taken as well.
      rw [ih]
      constructor
      · rintro ⟨nodup, fresh⟩
        refine ⟨⟨?_, nodup⟩, new, fun b mem old => fresh b mem (List.mem_cons_of_mem _ old)⟩
        intro mem
        obtain ⟨b, mem, same⟩ := List.mem_map.1 mem
        exact fresh b mem (same ▸ List.mem_cons_self)
      · rintro ⟨⟨other, nodup⟩, -, fresh⟩
        refine ⟨nodup, fun b mem => ?_⟩
        rw [List.mem_cons, not_or]
        exact ⟨fun same => other (same ▸ List.mem_map_of_mem mem), fresh b mem⟩

variable {t : Transaction} {s s' : Store}

/-- A commit adds the staged records in order. -/
lemma records_commit (done : t.commit s = .ok s') :
    s'.records.items = s.records.items ++ t.records := by
  unfold commit at done
  split at done
  · cases done
  · next none =>
    cases done
    obtain ⟨nodup, fresh⟩ := clash?_eq_none_iff.1 none
    exact Keyed.items_foldl_put nodup fresh

/-- A commit puts the staged entities in. -/
lemma entities_commit (done : t.commit s = .ok s') :
    s'.entities = t.entities.foldl .put s.entities := by
  unfold commit at done
  split at done <;> cases done
  rfl

/-- A commit changes nothing about what the store refuses. -/
lemma refused_commit (done : t.commit s = .ok s') : s'.refused = s.refused := by
  unfold commit at done
  split at done <;> cases done
  rfl

/-- A commit leaves the records of the store as they are. -/
lemma get?_commit (done : t.commit s = .ok s') {id r} (found : s.get? id = some r) :
    s'.get? id = some r := by
  obtain ⟨mem, same⟩ := Keyed.find?_eq_some_iff.1 found
  refine Keyed.find?_eq_some_iff.2 ⟨?_, same⟩
  rw [records_commit done]
  exact List.mem_append_left _ mem

/-- A commit adds no record that the store has already. -/
lemma get?_of_commit (done : t.commit s = .ok s') {r} (mem : r ∈ t.records) :
    s.get? r.id = none := by
  unfold commit at done
  split at done
  · cases done
  · next none => exact Keyed.find?_eq_none_iff.2 ((clash?_eq_none_iff.1 none).2 r mem)

/-- A commit counts no retry. -/
lemma descends_commit (done : t.commit s = .ok s') : s.Descends (fun _ => 0) s' :=
  fun _ r found => ⟨r, get?_commit done found, .refl r⟩

end Outbox.Store.Transaction

/-!
## The store as a queue

A store whose records are in order of both their dates and their identifiers, of which the first
ones are processed and nobody has touched the others. A fetch takes the first of those others
(`fetch_queue`), and the first of them can be marked as processed (`markProcessed_queue`).
-/

namespace Outbox

namespace Keyed

variable {α κ : Type} {key : α → κ} [DecidableEq κ]

/-- A change to the item of a key leaves the items before and behind it. -/
lemma items_adjust {t : Keyed key} {l r : List α} {a : α} (items : t.items = l ++ a :: r)
    {f : α → α} (same : ∀ a, key (f a) = key a) :
    (t.adjust (key a) f same).items = l ++ f a :: r := by
  have distinct := t.distinct
  rw [items, List.map_append, List.map_cons, List.nodup_append, List.nodup_cons] at distinct
  obtain ⟨-, ⟨behind, -⟩, before⟩ := distinct
  have kept (bs : List α) (other : ∀ b ∈ bs, key b ≠ key a) :
      bs.map (fun b => if key b = key a then f b else b) = bs := by
    refine (List.map_congr_left fun b mem => ?_).trans (List.map_id bs)
    exact if_neg (other b mem)
  show t.items.map _ = _
  rw [items, List.map_append, List.map_cons, if_pos rfl, kept l, kept r]
  · exact fun b mem eq => behind (eq ▸ List.mem_map_of_mem mem)
  · exact fun b mem => before _ (List.mem_map_of_mem mem) _ List.mem_cons_self

end Keyed

namespace Record

/-- A record of which nobody has tried to relay anything. -/
structure Untouched (r : Record) : Prop where
  processed : r.processed = false
  retryCount : r.retryCount = 0
  deadLetteredAt : r.deadLetteredAt = none
  nextAttemptAt : r.nextAttemptAt = none

/-- Nobody has tried to relay a fresh record. -/
lemma Fresh.isUntouched {r : Record} {m now} (fresh : r.Fresh m now) : r.Untouched := by
  obtain ⟨-, -, deadLetteredAt, nextAttemptAt⟩ := fresh.untouched
  exact ⟨fresh.processed, fresh.retryCount, deadLetteredAt, nextAttemptAt⟩

/-- An untouched record is to be relayed, and at once. -/
lemma Untouched.isWaiting {r : Record} (un : r.Untouched) {ceiling : UInt32} (pos : 0 < ceiling)
    (now : Time.Instant) : (r.isEligible ceiling && r.isDue now) = true := by
  simp [isEligible, isDeadLettered, isDue, un.processed, un.deadLetteredAt, un.nextAttemptAt,
    un.retryCount, pos]

/-- Whether a record comes before another one by both its date and its identifier. -/
def Precedes (a b : Record) : Prop :=
  a.occurredAt ≤ b.occurredAt ∧ a.id.number < b.id.number

/-- A record that comes before another one is relayed before it. -/
lemma Precedes.isBefore {a b : Record} (pr : a.Precedes b) : a.isBefore b = true := by
  obtain ⟨date, number⟩ := pr
  unfold Record.isBefore
  rw [Bool.or_eq_true, Bool.and_eq_true, decide_eq_true_eq, decide_eq_true_eq, decide_eq_true_eq]
  rcases Int.lt_or_eq_of_le date with lt | eq
  · exact .inl lt
  · exact .inr ⟨Time.Instant.rank_inj eq, Nat.le_of_lt number⟩

/-- Records that stand in order of date and identifier are not moved by the order of a fetch. -/
lemma oldestFirst_of_pairwise {rs : List Record} (ordered : rs.Pairwise Precedes) :
    oldestFirst rs = rs :=
  List.mergeSort_of_pairwise (ordered.imp Precedes.isBefore)

end Record

namespace Store

/-- An update that leaves messages as they are leaves those of all records. -/
lemma notices_update {s s' : Store} {id} {f : Record → Record} {hf}
    (upd : s.update id f hf = .ok s') (same : ∀ r, Notice.ofRecord (f r) = Notice.ofRecord r) :
    s'.records.items.map Notice.ofRecord = s.records.items.map Notice.ofRecord := by
  unfold update at upd
  split at upd
  · cases upd
    show (s.records.items.map _).map Notice.ofRecord = _
    rw [List.map_map]
    refine List.map_congr_left fun r _ => ?_
    show Notice.ofRecord (if r.id = id then f r else r) = _
    split
    · exact same r
    · rfl
  · cases upd

variable {s : Store} {done rest : List Record}

/-- A fetch takes the first records that nobody has touched. -/
lemma fetch_queue (items : s.records.items = done ++ rest)
    (processed : ∀ r ∈ done, r.processed = true) (untouched : ∀ r ∈ rest, r.Untouched)
    (ordered : s.records.items.Pairwise Record.Precedes) {ceiling : UInt32} (pos : 0 < ceiling)
    (now : Time.Instant) (limit : Nat) : s.fetch now limit ceiling = rest.take limit := by
  have none : done.filter (fun r => r.isEligible ceiling && r.isDue now) = [] := by
    refine List.filter_eq_nil_iff.2 fun r mem => ?_
    simp [Record.isEligible, processed r mem]
  have all : rest.filter (fun r => r.isEligible ceiling && r.isDue now) = rest :=
    List.filter_eq_self.2 fun r mem => (untouched r mem).isWaiting pos now
  rw [items] at ordered
  rw [fetch, items, List.filter_append, none, all, List.nil_append,
    Record.oldestFirst_of_pairwise (List.pairwise_append.1 ordered).2.1]

/-- The first record that nobody has touched can be marked as processed. -/
lemma markProcessed_queue {r : Record} (items : s.records.items = done ++ r :: rest)
    (now : Time.Instant) :
    ∃ s', s.markProcessed now r.id = .ok s' ∧
      s'.records.items = done ++ r.markProcessed now :: rest := by
  have here : s.records.contains r.id = true := by
    have found := Keyed.find?_key (t := s.records) (a := r) (by simp [items])
    rw [Keyed.contains, found]
    rfl
  refine ⟨_, if_pos here, ?_⟩
  exact Keyed.items_adjust items (Record.id_markProcessed · now)

end Store

end Outbox
