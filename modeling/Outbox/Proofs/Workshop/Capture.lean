import Mathlib.Data.List.Nodup
import Outbox.Proofs.UnitOfWork.Commit
import Outbox.Proofs.Workshop

/-!
# Every message is captured once

What waits in a source is always the end of its history, and of an aggregate all that waits no more
was written. `Sound` says so; every event keeps it. The main statement `run_captures` follows for
whole runs: a message is written once at most, and only by a commit that went through while it was
pending.
-/

namespace Outbox.Workshop
open UnitOfWork (Ground)

variable {β ε : Type} {d d' : Workshop β}

/-- The message of an origin. -/
def message? (d : Workshop β) (o : Origin) : Option Message :=
  (d.history o.1)[o.2]?

/-- The origins that were written, in order. -/
def origins (d : Workshop β) : List Origin :=
  d.written.map Receipt.origin

/-- The positions of a list behind another one. -/
lemma forall₂_range' {α : Type} (before l : List α) :
    List.Forall₂ (fun i a => (before ++ l)[i]? = some a)
      (List.range' before.length l.length) l := by
  induction l generalizing before with
  | nil => exact .nil
  | cons a l ih =>
    refine .cons (by simp) ?_
    simpa using ih (before ++ [a])

/-- Two correspondences of lists make one. -/
lemma forall₂_trans {α α' α'' : Type} {R : α → α' → Prop} {S : α' → α'' → Prop} {as bs cs}
    (first : List.Forall₂ R as bs) (second : List.Forall₂ S bs cs) :
    List.Forall₂ (fun a c => ∃ b, R a b ∧ S b c) as cs := by
  induction first generalizing cs with
  | nil =>
    cases second
    exact .nil
  | cons here _ ih =>
    cases second with | cons here' rest =>
    exact .cons ⟨_, here, here'⟩ (ih rest)

/-- The number of messages that do not wait is that of the messages before those that do. -/
lemma settled_eq {s : Source} {before} (parts : before ++ d.waiting s = d.history s) :
    d.settled s = before.length := by
  simp [settled, ← parts]

/-- A unit of work has pending what waits in its sources. -/
lemma flatMap_waiting (d : Workshop β) : d.sources.flatMap d.waiting = d.unit.pending d.table := by
  simp [sources, UnitOfWork.pending, waiting, List.flatMap_append, List.flatMap_map]

/-- The origins that are pending are those of the messages that are. -/
lemma forall₂_pending (waits : ∀ s, d.waiting s <:+ d.history s) :
    List.Forall₂ (fun o m => d.message? o = some m) d.pending (d.unit.pending d.table) := by
  rw [← flatMap_waiting]
  have same : List.Forall₂ Eq d.sources d.sources := List.forall₂_same.2 fun _ _ => rfl
  apply List.rel_flatMap same
  rintro s _ rfl
  obtain ⟨before, parts⟩ := waits s
  rw [List.forall₂_map_left_iff, settled_eq parts]
  simpa only [message?, ← parts] using forall₂_range' before (d.waiting s)

/-- An origin is pending if its source is one of those recorded next and its message waits. -/
lemma mem_pending {s k} :
    (s, k) ∈ d.pending ↔
      s ∈ d.sources ∧ d.settled s ≤ k ∧ k < d.settled s + (d.waiting s).length := by
  simp [pending, List.mem_range'_1]

/-- No origin is pending twice. -/
lemma nodup_pending (tracked : d.unit.tracked.Nodup) : d.pending.Nodup := by
  have sources : d.sources.Nodup := by
    refine List.nodup_append.2 ⟨tracked.map fun _ _ => Option.some.inj, List.nodup_singleton _, ?_⟩
    simp
  apply List.nodup_flatMap.2
  constructor
  · intro s _
    apply (List.nodup_range' ..).map
    intro _ _ same
    exact (Prod.mk.inj same).2
  · apply sources.imp
    intro s s' ne o mem mem'
    obtain ⟨_, -, rfl⟩ := List.mem_map.1 mem
    obtain ⟨_, -, same⟩ := List.mem_map.1 mem'
    exact ne (Prod.mk.inj same).1.symm

/-- What a source comes to when nothing of it is recorded. -/
inductive Calm (d d' : Workshop β) (s : Source) : Prop where
  | same :
    d'.waiting s = d.waiting s →
    d'.history s = d.history s →
    Calm d d' s
  | noted {m} :
    d'.waiting s = d.waiting s ++ [m] →
    d'.history s = d.history s ++ [m] →
    Calm d d' s
  /-- The queue is given up. -/
  | dropped :
    s = none →
    d'.waiting s = [] →
    d'.history s = d.history s →
    Calm d d' s

/-- A calm source goes on with its history, of which the end still waits. Of an aggregate no message
stops waiting. -/
lemma Calm.goes_on {s : Source} (cm : Calm d d' s) (waits : d.waiting s <:+ d.history s) :
    d'.waiting s <:+ d'.history s ∧ d.history s <+: d'.history s ∧ d.settled s ≤ d'.settled s ∧
      ∀ h, s = some h → d'.settled s = d.settled s := by
  obtain ⟨before, parts⟩ := waits
  have settled := settled_eq parts
  cases cm with
  | same w h =>
    have parts' : before ++ d'.waiting s = d'.history s := by rw [w, h, parts]
    have settled' := settled_eq parts'
    exact ⟨⟨before, parts'⟩, h ▸ List.prefix_rfl, by omega, fun _ _ => by omega⟩
  | noted w h =>
    have parts' : before ++ d'.waiting s = d'.history s := by rw [w, h, ← parts, List.append_assoc]
    have settled' := settled_eq parts'
    exact ⟨⟨before, parts'⟩, h ▸ List.prefix_append .., by omega, fun _ _ => by omega⟩
  | dropped queue w h =>
    -- Nothing waits in the queue any more, so all of it is behind.
    have parts' : d'.history s ++ d'.waiting s = d'.history s := by rw [w, List.append_nil]
    have settled' := settled_eq parts'
    refine ⟨⟨_, parts'⟩, h ▸ List.prefix_rfl, ?_, fun h some => ?_⟩
    · rw [settled', settled, h, ← parts, List.length_append]
      omega
    · cases queue.symm.trans some

/-- A message keeps its origin when histories go on. -/
lemma message?_mono {o : Origin} {m} (goes_on : d.history o.1 <+: d'.history o.1)
    (found : d.message? o = some m) : d'.message? o = some m := by
  obtain ⟨after, parts⟩ := goes_on
  obtain ⟨lt, -⟩ := List.getElem?_eq_some_iff.1 found
  rw [message?, ← parts, List.getElem?_append_left lt]
  exact found

/-- The account of a workshop is right, which began on some ground. -/
structure Sound (g : Ground β) (d : Workshop β) : Prop where
  unstaged : d.unit.Unstaged
  tracked : d.unit.tracked.Nodup
  waits : ∀ s, d.waiting s <:+ d.history s
  distinct : d.origins.Nodup
  past : ∀ s k, (s, k) ∈ d.origins → k < d.settled s
  complete : ∀ h k, k < d.settled (some h) → (some h, k) ∈ d.origins
  made : ∀ c ∈ d.written, ∃ m now, d.message? c.origin = some m ∧ c.record.Fresh m now
  items : d.ground.store.records.items = g.store.records.items ++ d.written.map Receipt.record
  handed : d.ground.handed =
    g.handed ++ (d.written.filter Receipt.announced).map fun c => Notice.ofRecord c.record

/-- Nothing was written at the start. -/
lemma sound_start (table : Aggregate.Table) (g : Ground β) : Sound g (start table g) where
  unstaged := UnitOfWork.unstaged_of_none rfl
  tracked := .nil
  waits s := by cases s <;> exact List.suffix_rfl
  distinct := .nil
  past _ _ mem := absurd mem List.not_mem_nil
  complete h k lt := absurd lt (by simp [settled, start, waiting])
  made _ mem := absurd mem List.not_mem_nil
  items := (List.append_nil _).symm
  handed := (List.append_nil _).symm

variable {g : Ground β}

/-- An account stays right as long as nothing is recorded. -/
lemma Sound.of_calm (snd : Sound g d) (calm : ∀ s, Calm d d' s) (unstaged : d'.unit.Unstaged)
    (tracked : d'.unit.tracked.Nodup) (written : d'.written = d.written)
    (store : d'.ground.store = d.ground.store) (handed : d'.ground.handed = d.ground.handed) :
    Sound g d' := by
  have origins : d'.origins = d.origins := congrArg (List.map Receipt.origin) written
  refine ⟨unstaged, tracked, fun s => ((calm s).goes_on (snd.waits s)).1, origins ▸ snd.distinct,
    ?_, ?_, ?_, ?_, ?_⟩
  · intro s k mem
    obtain ⟨-, -, le, -⟩ := (calm s).goes_on (snd.waits s)
    exact Nat.lt_of_lt_of_le (snd.past s k (origins ▸ mem)) le
  · intro h k lt
    obtain ⟨-, -, -, same⟩ := (calm (some h)).goes_on (snd.waits (some h))
    exact origins ▸ snd.complete h k (same h rfl ▸ lt)
  · intro c mem
    obtain ⟨m, now, found, fresh⟩ := snd.made c (written ▸ mem)
    obtain ⟨-, goes_on, -⟩ := (calm c.origin.1).goes_on (snd.waits c.origin.1)
    exact ⟨m, now, message?_mono goes_on found, fresh⟩
  · rw [store, written, snd.items]
  · rw [handed, written, snd.handed]

variable {send : Notice → β → Except ε Unit × β}

/-- Nothing is recorded by a commit that fails. -/
lemma Sound.commit_error {e} (snd : Sound g d) (failed : (d.tryCommit send).1 = .error e) :
    Sound g (d.commit send) ∧ (d.commit send).origins = d.origins := by
  unfold commit
  generalize called : d.tryCommit send = next at failed
  obtain ⟨_, unit, table, ground⟩ := next
  cases failed
  have ov := Ground.over_storage (if d.notifies then some send else none)
  obtain ⟨rfl, rfl, store⟩ := ov.tryCommit_error called
  have new : ground.store.records.items.drop d.ground.store.records.size = [] := by
    rw [store]
    exact List.drop_length
  simp only [new, List.zip_nil_right, List.map_nil, List.append_nil]
  refine ⟨snd.of_calm (fun s => ?_) (UnitOfWork.unstaged_of_none rfl) snd.tracked rfl store ?_, rfl⟩
  · cases s <;> exact .same rfl rfl
  · have handed := Ground.handed_tryCommit called
    simpa [Except.toOption] using handed

/-- The account stays right when what is pending is recorded and nothing of it waits any more. -/
lemma Sound.of_recorded {new : List Receipt} (snd : Sound g d)
    (waiting : ∀ s, d'.waiting s = if s ∈ d.sources then [] else d.waiting s)
    (history : d'.history = d.history) (unit : d'.unit = {})
    (written : d'.written = d.written ++ new)
    (origins : new.map Receipt.origin = d.pending)
    (made : ∀ c ∈ new, ∃ m now, d.message? c.origin = some m ∧ c.record.Fresh m now)
    (items : d'.ground.store.records.items =
      d.ground.store.records.items ++ new.map Receipt.record)
    (handed : d'.ground.handed = d.ground.handed ++
      (new.filter Receipt.announced).map fun c => Notice.ofRecord c.record) :
    Sound g d' := by
  have all : d'.origins = d.origins ++ d.pending := by
    rw [Workshop.origins, written, List.map_append, origins, Workshop.origins]
  have settled : ∀ s, d'.settled s =
      if s ∈ d.sources then d.settled s + (d.waiting s).length else d.settled s := by
    intro s
    have le := (snd.waits s).length_le
    unfold Workshop.settled
    rw [history, waiting]
    split
    · simp only [List.length_nil]
      omega
    · rfl
  refine ⟨unit ▸ UnitOfWork.unstaged_of_none rfl, unit ▸ .nil, ?_, ?_, ?_, ?_, ?_, ?_, ?_⟩
  · intro s
    rw [history, waiting]
    split
    · exact List.nil_suffix
    · exact snd.waits s
  · rw [all]
    refine List.nodup_append.2 ⟨snd.distinct, nodup_pending snd.tracked, ?_⟩
    -- What was written before does not wait any more, and what is pending still does.
    rintro ⟨s, k⟩ old _ now rfl
    have lt := snd.past s k old
    obtain ⟨-, le, -⟩ := mem_pending.1 now
    omega
  · intro s k mem
    rw [all, List.mem_append] at mem
    rw [settled]
    rcases mem with old | now
    · have lt := snd.past s k old
      split <;> omega
    · obtain ⟨recorded, -, lt⟩ := mem_pending.1 now
      rw [if_pos recorded]
      exact lt
  · intro h k lt
    rw [settled] at lt
    rw [all, List.mem_append]
    by_cases old : k < d.settled (some h)
    · exact .inl (snd.complete h k old)
    · split at lt
      · next recorded => exact .inr (mem_pending.2 ⟨recorded, Nat.le_of_not_lt old, lt⟩)
      · exact absurd lt old
  · intro c mem
    have same : d'.message? c.origin = d.message? c.origin := by
      rw [message?, message?, history]
    rw [written, List.mem_append] at mem
    rw [same]
    exact mem.elim (snd.made c) (made c)
  · rw [items, written, snd.items, List.map_append, List.append_assoc]
  · rw [handed, written, snd.handed, List.filter_append, List.map_append, List.append_assoc]

/-- What is pending is recorded by a commit that goes through. -/
lemma Sound.commit_ok {ns} (snd : Sound g d) (done : (d.tryCommit send).1 = .ok ns) :
    Sound g (d.commit send) ∧ (d.commit send).origins = d.origins ++ d.pending := by
  unfold commit
  generalize called : d.tryCommit send = next at done
  obtain ⟨_, unit, table, ground⟩ := next
  cases done
  have ov := Ground.over_storage (if d.notifies then some send else none)
  obtain ⟨es, rs, -, recorded, done, rfl, rfl, rfl⟩ := ov.tryCommit_ok snd.unstaged called
  have items := Store.Transaction.records_commit done
  have handed := Ground.handed_tryCommit called
  have fresh := recorded.imp fun _ _ => Record.fresh_of_ofMessage
  have matched := forall₂_trans (forall₂_pending snd.waits) fresh
  have length := matched.length_eq
  -- The new records are those of what was pending, so each gets the receipt of its own message.
  have new : ground.store.records.items.drop d.ground.store.records.size = rs := by
    rw [items]
    exact List.drop_left
  have origins : ((d.pending.zip rs).map fun x => Receipt.mk x.1 x.2 d.notifies).map
      Receipt.origin = d.pending := by
    rw [List.map_map]
    exact List.map_fst_zip (Nat.le_of_eq length)
  have records : ((d.pending.zip rs).map fun x => Receipt.mk x.1 x.2 d.notifies).map
      Receipt.record = rs := by
    rw [List.map_map]
    exact List.map_snd_zip (Nat.le_of_eq length.symm)
  simp only [new]
  constructor
  · refine snd.of_recorded (fun s => ?_) rfl rfl rfl origins (fun c mem => ?_) ?_ ?_
    · cases s with
      | none => simp [waiting, sources]
      | some h =>
        by_cases tracked : h ∈ d.unit.tracked <;>
          simp [waiting, sources, Aggregate.Table.change, Aggregate.settle, Events.clear, tracked]
    · obtain ⟨⟨o, r⟩, paired, rfl⟩ := List.mem_map.1 mem
      obtain ⟨m, found, fresh⟩ := List.forall₂_zip matched paired
      exact ⟨m, _, found, fresh⟩
    · rw [records]
      exact items
    · rw [handed]
      cases d.notifies with
      | false => simp [List.filter_map, Function.comp_def]
      | true =>
        have notices := congrArg (List.map Notice.ofRecord) records
        simpa [Except.toOption, List.filter_map, Function.comp_def] using notices.symm
  · rw [Workshop.origins, List.map_append, origins]
    rfl

/-- Every event keeps the account right. -/
lemma Sound.step (snd : Sound g d) (e : Event) : Sound g (d.step send e) := by
  cases e with
  | raise h m =>
    refine snd.of_calm (fun s => ?_) snd.unstaged snd.tracked rfl rfl rfl
    by_cases own : s = some h
    · subst own
      refine .noted (m := m) ?_ (if_pos rfl)
      simp [Workshop.step, waiting, Aggregate.Table.change, Aggregate.raise, Events.raise]
    · refine .same ?_ (if_neg own)
      cases s with
      | none => rfl
      | some h' =>
        have other : h' ≠ h := fun same => own (same ▸ rfl)
        simp [Workshop.step, waiting, Aggregate.Table.change, other]
  | edit h change =>
    -- The change is made to all of the aggregate but its events.
    refine snd.of_calm (fun s => .same ?_ rfl) snd.unstaged snd.tracked rfl rfl rfl
    cases s with
    | none => rfl
    | some h' =>
      simp only [Workshop.step, waiting, Aggregate.Table.change]
      split <;> rfl
  | track h =>
    simp only [Workshop.step]
    split
    · exact snd
    · next new =>
      refine snd.of_calm (fun s => ?_) snd.unstaged ?_ rfl rfl rfl
      · cases s <;> exact .same rfl rfl
      · refine List.nodup_append.2 ⟨snd.tracked, List.nodup_singleton h, ?_⟩
        rintro _ old _ one rfl
        exact new (List.mem_singleton.1 one ▸ old)
  | queue m =>
    refine snd.of_calm (fun s => ?_) snd.unstaged snd.tracked rfl rfl rfl
    cases s with
    | none => exact .noted (m := m) rfl (by simp [Workshop.step, noted])
    | some h => exact .same rfl (by simp [Workshop.step, noted])
  | begin =>
    have ov := Ground.over_storage (if d.notifies then some send else none)
    have keeps : (d.storage send).Keeps Ground.handed :=
      Ground.keeps_storage _ fun _ _ _ => rfl
    have unstaged := UnitOfWork.unstaged_begin ov snd.unstaged d.ground
    obtain ⟨store, transaction, unit⟩ := ov.begin d.unit d.ground
    have queued := congrArg UnitOfWork.queued unit
    have tracked := congrArg UnitOfWork.tracked unit
    obtain ⟨handed, -⟩ := keeps.begin d.unit d.ground
    refine snd.of_calm (fun s => ?_) unstaged ?_ rfl store handed
    · cases s with
      | none => exact .same queued rfl
      | some h => exact .same rfl rfl
    · exact tracked.symm ▸ snd.tracked
  | commit =>
    cases result : (d.tryCommit send).1 with
    | error e => exact (snd.commit_error result).1
    | ok ns => exact (snd.commit_ok result).1
  | rollback =>
    have ov := Ground.over_storage (if d.notifies then some send else none)
    have keeps : (d.storage send).Keeps Ground.handed :=
      Ground.keeps_storage _ fun _ _ _ => rfl
    have unit : (d.step send .rollback).unit = {} :=
      UnitOfWork.rollback_snd (d.storage send) d.unit d.ground
    have queued := congrArg UnitOfWork.queued unit
    refine snd.of_calm (fun s => ?_) (unit ▸ UnitOfWork.unstaged_of_none rfl) (unit ▸ .nil) rfl
      (ov.giveUp d.unit d.ground) (keeps.giveUp d.unit d.ground)
    cases s with
    | none => exact .dropped rfl queued rfl
    | some h => exact .same rfl rfl
  | renew =>
    refine snd.of_calm (fun s => ?_) (UnitOfWork.unstaged_of_none rfl) .nil rfl rfl rfl
    cases s with
    | none => exact .dropped rfl rfl rfl
    | some h => exact .same rfl rfl
  | attach =>
    refine snd.of_calm (fun s => ?_) snd.unstaged snd.tracked rfl rfl rfl
    cases s <;> exact .same rfl rfl
  | meet now verdicts =>
    refine snd.of_calm (fun s => ?_) snd.unstaged snd.tracked rfl rfl rfl
    cases s <;> exact .same rfl rfl

/-- An event writes what is pending if it is a commit that goes through, and nothing else. -/
lemma Sound.mem_origins_step (snd : Sound g d) (e : Event) {o} :
    o ∈ (d.step send e).origins ↔
      o ∈ d.origins ∨ e = .commit ∧ (∃ ns, (d.tryCommit send).1 = .ok ns) ∧ o ∈ d.pending := by
  cases e with
  | commit =>
    cases result : (d.tryCommit send).1 with
    | error e =>
      rw [Workshop.step, (snd.commit_error result).2]
      simp
    | ok ns =>
      rw [Workshop.step, (snd.commit_ok result).2]
      simp
  | track h =>
    simp only [Workshop.step]
    split <;> simp [origins]
  | _ => simp [Workshop.step, origins]

/-- Every run keeps the account right. -/
lemma Sound.run (snd : Sound g d) (es : List Event) : Sound g (d.run send es) := by
  induction es generalizing d with
  | nil => exact snd
  | cons e es ih => exact ih (snd.step e)

/-- A run writes what was pending at the commits that went through, and nothing else. -/
lemma Sound.mem_origins_run (snd : Sound g d) (es : List Event) {o} :
    o ∈ (d.run send es).origins ↔
      o ∈ d.origins ∨ ∃ before after, es = before ++ .commit :: after ∧
        (∃ ns, ((d.run send before).tryCommit send).1 = .ok ns) ∧
        o ∈ (d.run send before).pending := by
  induction es generalizing d with
  | nil => simp [Workshop.run]
  | cons e es ih =>
    refine (ih (snd.step e)).trans ((or_congr_left (snd.mem_origins_step e)).trans ?_)
    -- The commit that wrote an origin is the first event of the run or one of those behind it.
    constructor
    · rintro ((old | ⟨rfl, done, now⟩) | ⟨before, after, rfl, done, now⟩)
      · exact .inl old
      · exact .inr ⟨[], es, rfl, done, now⟩
      · exact .inr ⟨e :: before, after, rfl, done, now⟩
    · rintro (old | ⟨_ | ⟨e', before⟩, after, split, done, now⟩)
      · exact .inl (.inl old)
      · cases split
        exact .inl (.inr ⟨rfl, done, now⟩)
      · cases split
        exact .inr ⟨before, after, rfl, done, now⟩

/-- A history goes on with what events add to its source. -/
lemma history_run (d : Workshop β) (es : List Event) (s : Source) :
    (d.run send es).history s = d.history s ++ es.filterMap (·.message? s) := by
  induction es generalizing d with
  | nil => exact (List.append_nil _).symm
  | cons e es ih =>
    refine (ih (d.step send e)).trans ?_
    cases e with
    | raise h m =>
      cases s with
      | none => simp [Workshop.step, noted, Event.message?]
      | some h' =>
        by_cases same : h = h' <;> simp [Workshop.step, noted, Event.message?, same, Ne.symm]
    | queue m => cases s <;> simp [Workshop.step, noted, Event.message?]
    | track h =>
      simp only [Workshop.step]
      split <;> simp [Event.message?]
    | commit => simp [Workshop.step, commit, Event.message?]
    | _ => simp [Workshop.step, Event.message?]

/-- Whatever a program raises, tracks, queues, commits and rolls back, with one unit of work after
another, and whichever calls fail: the store has one more record for each receipt, in order, which
is that of the message of its origin; no origin has two receipts, and it has one if and only if it
was pending at a commit that went through. What waits in a source is always the end of its history,
and of an aggregate it is all that has no receipt. The bus is told of the records with receipts that
were written while it was attached, and of nothing else, and besides it nothing depends on what it
answers. -/
theorem run_captures (send : Notice → β → Except ε Unit × β) (table : Aggregate.Table)
    (g : Ground β) (es : List Event) :
    let d := (start table g).run send es
    (∀ s, d.history s = (start table g).history s ++ es.filterMap (·.message? s)) ∧
    d.ground.store.records.items = g.store.records.items ++ d.written.map Receipt.record ∧
    (∀ c ∈ d.written, ∃ m now, d.message? c.origin = some m ∧ c.record.Fresh m now) ∧
    (d.written.map Receipt.origin).Nodup ∧
    (∀ o, o ∈ d.written.map Receipt.origin ↔
      ∃ before after, es = before ++ .commit :: after ∧
        let d' := (start table g).run send before
        (∃ ns, (d'.tryCommit send).1 = .ok ns) ∧ o ∈ d'.pending) ∧
    (∀ s, d.waiting s = (d.history s).drop (d.settled s)) ∧
    (∀ h k, (some h, k) ∈ d.written.map Receipt.origin ↔ k < d.settled (some h)) ∧
    d.ground.handed = g.handed ++
      (d.written.filter Receipt.announced).map (fun c => Notice.ofRecord c.record) ∧
    ∀ (β' ε' : Type) (send' : Notice → β' → Except ε' Unit × β') (bus : β'),
      ((start table { g with bus }).run send' es).mute = d.mute := by
  intro d
  have begun := sound_start table g
  have snd : Sound g d := begun.run es
  refine ⟨history_run _ es, snd.items, snd.made, snd.distinct, ?_, ?_, ?_, snd.handed, ?_⟩
  · intro o
    refine (begun.mem_origins_run es).trans ⟨?_, .inr⟩
    rintro (none | found)
    · exact absurd none List.not_mem_nil
    · exact found
  · intro s
    exact List.suffix_iff_eq_drop.1 (snd.waits s)
  · intro h k
    exact ⟨snd.past (some h) k, snd.complete h k⟩
  · intro β' ε' send' bus
    -- With the buses forgotten, both runs begin alike.
    have there := run_mute send' (start table { g with bus }) es
    have here := run_mute send (start table g) es
    exact there.trans here.symm

end Outbox.Workshop
