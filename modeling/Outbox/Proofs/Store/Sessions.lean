import Outbox.Proofs.Store

/-!
# Overlapping transactions

Any number of transactions that are open on one store at the same time, while others read it and
write to it at once. A transcript lists the calls with their replies; from it alone `deeds` tells
what should have become of the store: the direct writes, and at each commit that went through the
rows that its transaction staged. The main statement `run_isolated` says that nothing else has: not
even a reply to somebody else shows anything of a transaction that did not commit.
-/

namespace Outbox.Store

/-- A row of one of the two tables. -/
inductive Row
  | entity (e : Entity)
  | record (r : Record)

/-- The entity of a row, if it is one of that table. -/
def Row.entity? : Row → Option Entity
  | .entity e => some e
  | .record _ => none

/-- The record of a row, if it is one of that table. -/
def Row.record? : Row → Option Record
  | .entity _ => none
  | .record r => some r

/-- The store with a row in the place of the one with its key, or at the end of its table. -/
def put (s : Store) : Row → Store
  | .entity e => { s with entities := s.entities.put e }
  | .record r => { s with records := s.records.put r }

/-- A call that writes to the store at once. -/
inductive Write
  | insert (r : Record)
  | markProcessed (now : Time.Instant) (id : Identifier)
  | markFailed (now : Time.Instant) (id : Identifier) (reason : String)
  | countRetry (now : Time.Instant) (id : Identifier) (reason : String) (delay : Time.Span)
  | refuse (aggregateType : String)

/-- What a direct write comes to. -/
def write (s : Store) : Write → Answer Error Store
  | .insert r => .ofExcept (s.insert r)
  | .markProcessed now id => .ofExcept (s.markProcessed now id)
  | .markFailed now id reason => .ofExcept (s.markFailed now id reason)
  | .countRetry now id reason delay => s.countRetry now id reason delay
  | .refuse aggregateType => .ok (s.refuse aggregateType)

/-- A call that only looks at the store. -/
inductive Read
  | record (id : Identifier)
  | records
  | entity (aggregateType : String) (aggregateId : Identifier)
  | fetch (now : Time.Instant) (limit : Nat) (ceiling : UInt32)
  | deadLetters (ceiling : UInt32) (limit : Nat)
  | stats (ceiling : UInt32)

/-- What a read shows. -/
inductive View
  | record (r : Option Record)
  | records (rs : List Record)
  | entity (e : Option Entity)
  | counts (c : Counts)

/-- What a read shows of the store. -/
def read (s : Store) : Read → View
  | .record id => .record (s.get? id)
  | .records => .records s.toList
  | .entity aggregateType aggregateId => .entity (s.entity? aggregateType aggregateId)
  | .fetch now limit ceiling => .records (s.fetch now limit ceiling)
  | .deadLetters ceiling limit => .records (s.deadLetters ceiling limit)
  | .stats ceiling => .counts (s.stats ceiling)

/-- A store and the transactions that are open on it, by their names. -/
structure Sessions where
  store : Store
  transactions : Nat → Option Transaction := fun _ => none

namespace Sessions

/-- What can happen on a store with sessions. -/
inductive Event
  | read (q : Read)
  | write (c : Write)
  /-- A transaction is opened. One that had its name before is forgotten. -/
  | start (j : Nat)
  | save (j : Nat) (e : Entity)
  | append (j : Nat) (r : Record)
  | commit (j : Nat)
  | rollback (j : Nat)

/-- The transaction that an event is about. -/
def Event.session? : Event → Option Nat
  | .start j | .save j _ | .append j _ | .commit j | .rollback j => some j
  | .read _ | .write _ => none

/-- What a call is answered. -/
inductive Reply
  | seen (v : View)
  | called (a : Answer Error Unit)
  /-- No transaction with that name is open. -/
  | absent

/-- The sessions after one of the transactions was opened, changed or closed. -/
def assign (d : Sessions) (j : Nat) (t : Option Transaction) : Sessions :=
  { d with transactions := fun i => if i = j then t else d.transactions i }

/-- What becomes of an event in a transaction that is open. -/
def within (d : Sessions) (j : Nat) (call : Transaction → Reply × Sessions) : Reply × Sessions :=
  match d.transactions j with
  | none => (.absent, d)
  | some t => call t

/-- The reply to an event and the sessions after it. -/
def step (d : Sessions) : Event → Reply × Sessions
  | .read q => (.seen (d.store.read q), d)
  | .write c =>
    match d.store.write c with
    | .ok store => (.called (.ok ()), { d with store })
    | .error e => (.called (.error e), d)
    | .crash => (.called .crash, d)
  | .start j => (.called (.ok ()), d.assign j (some .opened))
  | .save j e =>
    d.within j fun t =>
      match t.save d.store e with
      | .ok t => (.called (.ok ()), d.assign j (some t))
      | .error x => (.called (.error x), d)
  | .append j r => d.within j fun t => (.called (.ok ()), d.assign j (some (t.append r)))
  | .commit j =>
    d.within j fun t =>
      match t.commit d.store with
      | .ok store => (.called (.ok ()), { d.assign j none with store })
      | .error x => (.called (.error x), d.assign j none)
  | .rollback j => d.within j fun _ => (.called (.ok ()), d.assign j none)

/-- The sessions after some events. -/
def run (d : Sessions) (es : List Event) : Sessions :=
  es.foldl (fun d e => (d.step e).2) d

/-- An event with the reply to it. -/
abbrev Entry := Event × Reply

/-- Some events, each with the reply to it. -/
def transcript : Sessions → List Event → List Entry
  | _, [] => []
  | d, e :: es => (e, (d.step e).1) :: transcript (d.step e).2 es

/-- What an entry makes of the rows that its own transaction has staged, if that is open. -/
def stageOwn (rows : Option (List Row)) : Entry → Option (List Row)
  | (.start _, _) => some []
  | (.save _ e, .called (.ok ())) => rows.map (· ++ [.entity e])
  | (.append _ r, .called (.ok ())) => rows.map (· ++ [.record r])
  | (.commit _, _) | (.rollback _, _) => none
  | _ => rows

/-- What an entry makes of the rows that some transaction has staged, if that is open. -/
def stage (j : Nat) (rows : Option (List Row)) (x : Entry) : Option (List Row) :=
  if x.1.session? = some j then stageOwn rows x else rows

/-- The rows that a transaction has staged by the end of a transcript, if it is open then. -/
def staged (j : Nat) (past : List Entry) : Option (List Row) :=
  past.foldl (stage j) none

/-- What changes the store. -/
inductive Deed
  | write (c : Write)
  /-- A transaction commits some rows. -/
  | commit (rows : List Row)

/-- The store after a deed. A write that fails changes nothing. -/
def Deed.apply (s : Store) : Deed → Store
  | .write c => (s.write c).ok?.getD s
  | .commit rows => rows.foldl put s

/-- What an entry should do to the store, after the entries of the past. -/
def deed? (past : List Entry) : Entry → Option Deed
  | (.write c, _) => some (.write c)
  | (.commit j, .called (.ok ())) => (staged j past).map .commit
  | _ => none

/-- What some entries should do to the store one after another, after those of the past. -/
def deeds : (past : List Entry) → List Entry → List Deed
  | _, [] => []
  | past, x :: xs => (deed? past x).toList ++ deeds (past ++ [x]) xs

/-- The transaction that staged some rows. -/
def ofRows (rows : List Row) : Transaction where
  entities := rows.filterMap Row.entity?
  records := rows.filterMap Row.record?

/-- To put rows in one after another is to put those of each table in. -/
lemma foldl_put (s : Store) (rows : List Row) :
    rows.foldl put s =
      { s with
        entities := (ofRows rows).entities.foldl .put s.entities
        records := (ofRows rows).records.foldl .put s.records } := by
  induction rows generalizing s with
  | nil => rfl
  | cons row rows ih =>
    rw [List.foldl_cons, ih]
    cases row <;> rfl

/-- A commit that goes through puts the staged rows in, in the order in which they were staged. -/
lemma commit_ofRows {rows : List Row} {s s' : Store} (done : (ofRows rows).commit s = .ok s') :
    s' = rows.foldl put s := by
  rw [foldl_put, Transaction.commit] at *
  split at done <;> cases done
  rfl

/-- Whether a commit of records with some identifiers clashes: one of them is stored already, or two
are the same. -/
def Clashes (s : Store) (ids : List Identifier) : Prop :=
  (∃ id ∈ ids, s.get? id ≠ none) ∨ ¬ ids.Nodup

/-- The check for clashes finds none just if there is none. -/
lemma clash?_eq_none_iff_not_clashes {s : Store} {rs : List Record} :
    Transaction.clash? s.records.keys rs = none ↔ ¬ Clashes s (rs.map Record.id) := by
  have absent (r : Record) : s.get? r.id = none ↔ r.id ∉ s.records.keys := Keyed.find?_eq_none_iff
  rw [Transaction.clash?_eq_none_iff, Clashes, not_or, Classical.not_not, and_comm]
  simp [absent]

/-- The check for clashes names an identifier of the records that it checks. -/
lemma mem_of_clash? {taken : List Identifier} {rs : List Record} {id}
    (here : Transaction.clash? taken rs = some id) : id ∈ rs.map Record.id := by
  induction rs generalizing taken with
  | nil => cases here
  | cons r rs ih =>
    rw [Transaction.clash?] at here
    split at here
    · cases here
      exact List.mem_cons_self
    · exact List.mem_cons_of_mem _ (ih here)

/-- A commit clashes and finds an identifier twice, or it goes through. -/
lemma commit_cases (t : Transaction) (s : Store) :
    (Clashes s (t.records.map Record.id) ∧
        ∃ id ∈ t.records.map Record.id, t.commit s = .error (.duplicate id)) ∨
      (¬ Clashes s (t.records.map Record.id) ∧ ∃ s', t.commit s = .ok s') := by
  unfold Transaction.commit
  cases clash : Transaction.clash? s.records.keys t.records with
  | none => exact .inr ⟨clash?_eq_none_iff_not_clashes.1 clash, _, rfl⟩
  | some id =>
    refine .inl ⟨Classical.byContradiction fun calm => ?_, id, mem_of_clash? clash, rfl⟩
    cases clash.symm.trans (clash?_eq_none_iff_not_clashes.2 calm)

/-- Every transaction that is open has staged what the transcript says, and no other is open. -/
def Keeps (past : List Entry) (d : Sessions) : Prop :=
  ∀ j, d.transactions j = (staged j past).map ofRows

namespace Keeps

variable {past : List Entry} {d : Sessions}

/-- An entry after which no transaction has staged anything else. -/
lemma of_same (kp : Keeps past d) {x : Entry}
    (same : ∀ j, x.1.session? = some j → stageOwn (staged j past) x = staged j past)
    (store : Store) : Keeps (past ++ [x]) { d with store } := by
  intro j
  rw [staged, List.foldl_append]
  refine (kp j).trans (congrArg _ ?_)
  show staged j past = stage j (staged j past) x
  unfold stage
  split
  · next own => exact (same j own).symm
  · rfl

/-- An entry that opens, changes or closes its own transaction. -/
lemma assign (kp : Keeps past d) {j : Nat} {x : Entry} (own : x.1.session? = some j) {t}
    (here : t = (stageOwn (staged j past) x).map ofRows) (store : Store) :
    Keeps (past ++ [x]) { d.assign j t with store } := by
  intro i
  rw [staged, List.foldl_append]
  show (if i = j then t else d.transactions i) = (stage i (staged i past) x).map ofRows
  rw [stage, own]
  by_cases same : i = j
  · subst same
    rw [if_pos rfl, if_pos rfl, here]
  · rw [if_neg same, if_neg fun e => same (Option.some.inj e).symm]
    exact kp i

/-- A transaction that is not open has staged nothing, and one that is open what the transcript
says. -/
lemma rows (kp : Keeps past d) (j : Nat) :
    (d.transactions j = none ∧ staged j past = none) ∨
      ∃ rows, d.transactions j = some (ofRows rows) ∧ staged j past = some rows := by
  have same := kp j
  cases here : staged j past with
  | none => exact .inl ⟨same.trans (congrArg _ here), rfl⟩
  | some rows => exact .inr ⟨rows, same.trans (congrArg _ here), rfl⟩

/-- Every event goes by the transcript, and does to the store what it should. -/
lemma step (kp : Keeps past d) (e : Event) :
    Keeps (past ++ [(e, (d.step e).1)]) (d.step e).2 ∧
      (d.step e).2.store = (deed? past (e, (d.step e).1)).toList.foldl Deed.apply d.store := by
  -- Nothing becomes of an event in a transaction that is not open.
  have absent {j} (own : e.session? = some j) (opens : e ≠ .start j)
      (none : staged j past = none) : Keeps (past ++ [(e, .absent)]) d := by
    refine kp.of_same (fun i own' => ?_) d.store
    cases own.symm.trans own'
    cases e with
    | start => cases own; exact absurd rfl opens
    | _ => first | rfl | exact none.symm
  cases e with
  | read q => exact ⟨kp.of_same (fun _ _ => rfl) _, rfl⟩
  | write c =>
    simp only [Sessions.step, deed?, Option.toList_some, List.foldl_cons, List.foldl_nil,
      Deed.apply]
    cases d.store.write c <;> exact ⟨kp.of_same (fun _ _ => rfl) _, rfl⟩
  | start j => exact ⟨kp.assign rfl rfl _, rfl⟩
  | save j e =>
    simp only [Sessions.step, within]
    obtain ⟨here, none⟩ | ⟨rows, here, found⟩ := kp.rows j
    · rw [here]
      exact ⟨absent rfl nofun none, rfl⟩
    · rw [here]
      simp only
      cases saved : (ofRows rows).save d.store e with
      | error x => exact ⟨kp.of_same (fun _ _ => rfl) _, rfl⟩
      | ok t =>
        refine ⟨kp.assign rfl ?_ _, rfl⟩
        unfold Transaction.save at saved
        split at saved <;> cases saved
        simp [found, stageOwn, ofRows, Row.entity?, Row.record?]
  | append j r =>
    simp only [Sessions.step, within]
    obtain ⟨here, none⟩ | ⟨rows, here, found⟩ := kp.rows j
    · rw [here]
      exact ⟨absent rfl nofun none, rfl⟩
    · rw [here]
      refine ⟨kp.assign rfl ?_ _, rfl⟩
      simp [found, stageOwn, Transaction.append, ofRows, Row.entity?, Row.record?]
  | commit j =>
    simp only [Sessions.step, within]
    obtain ⟨here, none⟩ | ⟨rows, here, found⟩ := kp.rows j
    · rw [here]
      exact ⟨absent rfl nofun none, rfl⟩
    · rw [here]
      simp only
      cases done : (ofRows rows).commit d.store with
      | error x => exact ⟨kp.assign rfl rfl _, rfl⟩
      | ok store =>
        refine ⟨kp.assign rfl rfl _, ?_⟩
        simp only [deed?, found]
        exact commit_ofRows done
  | rollback j =>
    simp only [Sessions.step, within]
    obtain ⟨here, none⟩ | ⟨rows, here, found⟩ := kp.rows j
    · rw [here]
      exact ⟨absent rfl nofun none, rfl⟩
    · rw [here]
      exact ⟨kp.assign rfl rfl _, rfl⟩

/-- Every run goes by its transcript. -/
lemma run (kp : Keeps past d) (es : List Event) :
    Keeps (past ++ transcript d es) (d.run es) ∧
      (d.run es).store = (deeds past (transcript d es)).foldl Deed.apply d.store := by
  induction es generalizing past d with
  | nil => exact ⟨(List.append_nil past).symm ▸ kp, rfl⟩
  | cons e es ih =>
    obtain ⟨kp', store⟩ := kp.step e
    obtain ⟨kp'', stores⟩ := ih kp'
    constructor
    · rw [List.append_assoc] at kp''
      exact kp''
    · rw [transcript, deeds, List.foldl_append, ← store]
      exact stores

end Keeps

/-- Sessions that differ at most in transactions that are hidden. -/
structure Agrees (hidden : Nat → Bool) (d d' : Sessions) : Prop where
  store : d'.store = d.store
  transactions : ∀ j, hidden j = false → d'.transactions j = d.transactions j

/-- Whether an event is about no transaction that is hidden. -/
def Event.isVisible (hidden : Nat → Bool) (e : Event) : Bool :=
  e.session?.all (!hidden ·)

/-- Whether a commit of a hidden transaction went through. -/
def Reveals (hidden : Nat → Bool) (x : Entry) : Prop :=
  ∃ j, hidden j = true ∧ x = (.commit j, .called (.ok ()))

namespace Agrees

variable {hidden : Nat → Bool} {d d' : Sessions}

/-- A transaction can be opened, changed and closed on both sides. -/
lemma assign (ag : Agrees hidden d d') (j : Nat) (t : Option Transaction) :
    Agrees hidden (d.assign j t) (d'.assign j t) := by
  refine ⟨ag.store, fun i seen => ?_⟩
  show (if i = j then t else _) = (if i = j then t else _)
  rw [ag.transactions i seen]

/-- A hidden transaction can be opened, changed and closed. -/
lemma assign_hidden (ag : Agrees hidden d d') {j : Nat} (unseen : hidden j = true)
    (t : Option Transaction) : Agrees hidden (d.assign j t) d' := by
  refine ⟨ag.store, fun i seen => ?_⟩
  have other : i ≠ j := by
    rintro rfl
    cases seen.symm.trans unseen
  exact (ag.transactions i seen).trans (if_neg other).symm

/-- A call in a visible transaction has the same reply in both and leaves the sessions in agreement.
-/
lemma within (ag : Agrees hidden d d') {j : Nat} (seen : hidden j = false)
    {call call' : Transaction → Reply × Sessions}
    (calls : ∀ t, (call' t).1 = (call t).1 ∧ Agrees hidden (call t).2 (call' t).2) :
    (d'.within j call').1 = (d.within j call).1 ∧
      Agrees hidden (d.within j call).2 (d'.within j call').2 := by
  unfold Sessions.within
  rw [ag.transactions j seen]
  cases d.transactions j with
  | none => exact ⟨rfl, ag⟩
  | some t => exact calls t

/-- A call in a hidden transaction leaves the sessions in agreement with those in which it did not
happen. -/
lemma within_hidden (ag : Agrees hidden d d') {j : Nat} {call : Transaction → Reply × Sessions}
    (calls : ∀ t, d.transactions j = some t → Agrees hidden (call t).2 d') :
    Agrees hidden (d.within j call).2 d' := by
  unfold Sessions.within
  cases here : d.transactions j with
  | none => exact ag
  | some t => exact calls t here

/-- A visible event has the same reply and leaves the sessions in agreement. -/
lemma step (ag : Agrees hidden d d') {e : Event} (seen : e.isVisible hidden = true) :
    (d'.step e).1 = (d.step e).1 ∧ Agrees hidden (d.step e).2 (d'.step e).2 := by
  have seen {j} (own : e.session? = some j) : hidden j = false := by
    simpa [Event.isVisible, own] using seen
  cases e with
  | read q => exact ⟨congrArg (fun s : Store => Reply.seen (s.read q)) ag.store, ag⟩
  | write c =>
    simp only [Sessions.step, ag.store]
    cases d.store.write c with
    | ok store => exact ⟨rfl, rfl, ag.transactions⟩
    | error x => exact ⟨rfl, ag⟩
    | crash => exact ⟨rfl, ag⟩
  | start j => exact ⟨rfl, ag.assign j _⟩
  | save j e =>
    refine ag.within (seen rfl) fun t => ?_
    rw [ag.store]
    cases t.save d.store e with
    | ok t' => exact ⟨rfl, ag.assign j _⟩
    | error x => exact ⟨rfl, ag⟩
  | append j r => exact ag.within (seen rfl) fun t => ⟨rfl, ag.assign j _⟩
  | commit j =>
    refine ag.within (seen rfl) fun t => ?_
    rw [ag.store]
    cases t.commit d.store with
    | ok store => exact ⟨rfl, rfl, (ag.assign j _).transactions⟩
    | error x => exact ⟨rfl, ag.assign j _⟩
  | rollback j => exact ag.within (seen rfl) fun t => ⟨rfl, ag.assign j _⟩

/-- A hidden event leaves the sessions in agreement, unless it commits. -/
lemma step_hidden (ag : Agrees hidden d d') {e : Event} (unseen : e.isVisible hidden = false)
    (calm : ¬ Reveals hidden (e, (d.step e).1)) : Agrees hidden (d.step e).2 d' := by
  have within {j} (own : e.session? = some j) : hidden j = true := by
    simpa [Event.isVisible, own] using unseen
  cases e with
  | read q => cases unseen
  | write c => cases unseen
  | start j => exact ag.assign_hidden (within rfl) _
  | save j e =>
    refine ag.within_hidden fun t _ => ?_
    cases t.save d.store e with
    | ok t' => exact ag.assign_hidden (within rfl) _
    | error x => exact ag
  | append j r => exact ag.within_hidden fun t _ => ag.assign_hidden (within rfl) _
  | commit j =>
    refine ag.within_hidden fun t here => ?_
    cases done : t.commit d.store with
    | ok store =>
      refine absurd ⟨j, within rfl, ?_⟩ calm
      simp only [Sessions.step, Sessions.within, here, done]
    | error x => exact ag.assign_hidden (within rfl) _
  | rollback j => exact ag.within_hidden fun t _ => ag.assign_hidden (within rfl) _

/-- As long as no hidden transaction commits, a run is the same without their events. -/
lemma run (ag : Agrees hidden d d') (es : List Event)
    (calm : ∀ x ∈ transcript d es, ¬ Reveals hidden x) :
    Agrees hidden (d.run es) (d'.run (es.filter (·.isVisible hidden))) ∧
      transcript d' (es.filter (·.isVisible hidden)) =
        (transcript d es).filter (·.1.isVisible hidden) := by
  induction es generalizing d d' with
  | nil => exact ⟨ag, rfl⟩
  | cons e es ih =>
    obtain ⟨here, behind⟩ := List.forall_mem_cons.1 calm
    rw [transcript]
    cases seen : e.isVisible hidden with
    | true =>
      obtain ⟨reply, ag'⟩ := ag.step seen
      obtain ⟨after, entries⟩ := ih ag' behind
      rw [List.filter_cons_of_pos (by exact seen), List.filter_cons_of_pos (by exact seen)]
      refine ⟨after, ?_⟩
      rw [transcript, reply, entries]
    | false =>
      obtain ⟨after, entries⟩ := ih (ag.step_hidden seen here) behind
      rw [List.filter_cons_of_neg (by simp [seen]), List.filter_cons_of_neg (by simp [seen])]
      exact ⟨after, entries⟩

end Agrees

/-- The commit of a transaction clashes and fails without a trace, or it puts its rows in. -/
lemma Keeps.commit {past : List Entry} {d : Sessions} (kp : Keeps past d) {j rows}
    (found : staged j past = some rows) :
    let ids := (rows.filterMap Row.record?).map Record.id
    let (reply, d') := d.step (.commit j)
    (Clashes d.store ids ∧ (∃ id ∈ ids, reply = .called (.error (.duplicate id))) ∧
        d'.store = d.store) ∨
      (¬ Clashes d.store ids ∧ reply = .called (.ok ()) ∧ d'.store = rows.foldl put d.store) := by
  have here : d.transactions j = some (ofRows rows) := (kp j).trans (congrArg _ found)
  simp only [Sessions.step, within, here]
  obtain ⟨clashes, id, mem, failed⟩ | ⟨calm, s', done⟩ := commit_cases (ofRows rows) d.store
  · rw [failed]
    exact .inl ⟨clashes, ⟨id, mem, rfl⟩, rfl⟩
  · rw [done]
    exact .inr ⟨calm, rfl, commit_ofRows done⟩

/-- However transactions overlap on a store with each other and with direct calls: the store is what
the direct writes and the commits that went through have made of it in their order, where a commit
puts in the rows that its transaction staged, in the order in which it staged them. What is read is
read of that. A commit fails if and only if the identifier of one of its records is stored already
or comes twice in it, and then the store stays as it is. And if none of some transactions commits,
then without all of their events the store and every reply to the other events are the same. -/
theorem run_isolated (s : Store) (es : List Event) :
    let d : Sessions := { store := s }
    let past := transcript d es
    let now := (deeds [] past).foldl Deed.apply s
    (d.run es).store = now ∧
    (∀ q, ((d.run es).step (.read q)).1 = .seen (now.read q)) ∧
    (∀ j rows, staged j past = some rows →
      let ids := (rows.filterMap Row.record?).map Record.id
      let (reply, d') := (d.run es).step (.commit j)
      (Clashes now ids ∧ (∃ id ∈ ids, reply = .called (.error (.duplicate id))) ∧
          d'.store = now) ∨
        (¬ Clashes now ids ∧ reply = .called (.ok ()) ∧ d'.store = rows.foldl put now)) ∧
    ∀ hidden : Nat → Bool, (∀ x ∈ past, ¬ Reveals hidden x) →
      let rest := es.filter (·.isVisible hidden)
      (d.run rest).store = now ∧ transcript d rest = past.filter (·.1.isVisible hidden) := by
  intro d past now
  have start : Keeps [] d := fun _ => rfl
  obtain ⟨kp, store⟩ := start.run es
  have store : (d.run es).store = now := store
  refine ⟨store, fun q => ?_, fun j rows found => ?_, fun hidden calm => ?_⟩
  · exact congrArg (fun s => Reply.seen (s.read q)) store
  · rw [← store]
    exact kp.commit found
  · have same : Agrees hidden d d := ⟨rfl, fun _ _ => rfl⟩
    obtain ⟨ag, entries⟩ := same.run es calm
    exact ⟨ag.store.trans store, entries⟩

/-- Of two transactions that stage one record the first to commit keeps the other one from it. -/
example :
    let r : Record :=
      { id := ⟨1⟩, typeTag := "product.deleted", payload := "\x7b\x7d", occurredAt := .epoch }
    let es : List Event := [.start 0, .start 1, .append 0 r, .append 1 r, .commit 1, .commit 0]
    (transcript { store := .empty } es).map Prod.snd =
      List.replicate 5 (.called (.ok ())) ++ [.called (.error (.duplicate r.id))] :=
  rfl

end Sessions

end Outbox.Store
