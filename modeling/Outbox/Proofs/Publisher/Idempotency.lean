import Mathlib.Data.List.Nodup
import Outbox.Proofs.Publisher
import Outbox.Proofs.Window

/-!
# Idempotency

A publisher with a window does not have the message of one record taken twice within the length of
its window. `Guarded` says what keeps it from that: whatever was taken is expired, remembered, or
held by the worker that is about to remember it. It is shown of each move in a batch, and then of
courses as a whole; `taken_apart` is the main statement.
-/

namespace Outbox.Publisher

/-- Why a record that was taken at some time, in nanoseconds, is not taken again too early. -/
inductive Covered (win : Window) (active : List Worker) (now : Int) (e : Identifier × Int) :
    Prop where
  | expired :
    win.length.nanoseconds ≤ now - e.2 →
    Covered win active now e
  | remembered {x} :
    win.seen.find? e.1 = some x →
    x.2.isLeap = false →
    e.2 ≤ x.2.total →
    Covered win active now e
  /-- Its worker is about to remember it. -/
  | held {k} :
    k ∈ active →
    k.record.id = e.1 →
    k.stage = .remembering →
    Covered win active now e

/-- What was taken, and when, while some records wait and some workers are active: no record is
worked on twice, nothing was taken twice too early, and a record whose message is about to be
published may be taken again. -/
structure Guarded (win : Window) (waiting : List Record) (active : List Worker) (now : Int)
    (taken : List (Identifier × Int)) : Prop where
  distinct : (waiting.map Record.id ++ active.map fun k => k.record.id).Nodup
  past : ∀ e ∈ taken, e.2 ≤ now
  apart : taken.Pairwise fun a b =>
    a.2 ≤ b.2 ∧ (a.1 = b.1 → win.length.nanoseconds ≤ b.2 - a.2)
  covered : ∀ e ∈ taken, Covered win active now e
  clear : ∀ k ∈ active, ∀ m s, k.stage = .publishing m s →
    ∀ e ∈ taken, e.1 = k.record.id → win.length.nanoseconds ≤ now - e.2

namespace Guarded

variable {win : Window} {waiting : List Record} {active : List Worker} {now : Int}
  {taken : List (Identifier × Int)}

/-- Nothing was taken yet. -/
lemma nil : Guarded win [] [] now [] :=
  ⟨.nil, nofun, .nil, nofun, fun _ mem => absurd mem List.not_mem_nil⟩

/-- Time goes on. -/
lemma later {now'} (gd : Guarded win waiting active now taken) (le : now ≤ now') :
    Guarded win waiting active now' taken where
  distinct := gd.distinct
  past e mem := Int.le_trans (gd.past e mem) le
  apart := gd.apart
  covered e mem := by
    cases gd.covered e mem with
    | expired lapsed => exact .expired (by omega)
    | remembered found leap since => exact .remembered found leap since
    | held here same stage => exact .held here same stage
  clear k here m s stage e mem same := by
    have lapsed := gd.clear k here m s stage e mem same
    omega

/-- Entries that do not count any more can be taken out of the window. -/
lemma forget {win'} (gd : Guarded win waiting active now taken) (len : win'.length = win.length)
    (lost : ∀ id x, win.seen.find? id = some x → win'.seen.find? id = some x ∨
      (x.2.isLeap = false → win.length.nanoseconds ≤ now - x.2.total)) :
    Guarded win' waiting active now taken where
  distinct := gd.distinct
  past := gd.past
  apart := len ▸ gd.apart
  covered e mem := by
    cases gd.covered e mem with
    | expired lapsed => exact .expired (len ▸ lapsed)
    | remembered found leap since =>
      rcases lost e.1 _ found with kept | lapsed
      · exact .remembered kept leap since
      · have lapsed := lapsed leap
        exact .expired (by rw [len]; omega)
    | held here same stage => exact .held here same stage
  clear := len ▸ gd.clear

/-- Records can wait when nothing else is to be done. -/
lemma load {rs : List Record} (gd : Guarded win [] [] now taken)
    (distinct : (rs.map Record.id).Nodup) : Guarded win rs [] now taken where
  distinct := by simpa using distinct
  past := gd.past
  apart := gd.apart
  covered := gd.covered
  clear _ mem := absurd mem List.not_mem_nil

/-- A worker can begin with the record that waits for it. -/
lemma start {r : Record} (gd : Guarded win (r :: waiting) active now taken) :
    Guarded win waiting (active ++ [{ record := r }]) now taken where
  distinct := by
    have distinct := gd.distinct
    rw [List.map_cons, List.cons_append, List.nodup_cons] at distinct
    rw [List.map_append, ← List.append_assoc]
    -- The record moves from the one end of the list to the other.
    apply List.nodup_append_comm.1
    exact List.nodup_cons.2 distinct
  past := gd.past
  apart := gd.apart
  covered e mem := by
    cases gd.covered e mem with
    | expired lapsed => exact .expired lapsed
    | remembered found leap since => exact .remembered found leap since
    | held here same stage => exact .held (List.mem_append_left _ here) same stage
  clear k here m s stage := by
    rcases List.mem_append.1 here with old | new
    · exact gd.clear k old m s stage
    · cases List.mem_singleton.1 new
      cases stage

/-- Two active workers do not have the same record. -/
lemma inj {k k' : Worker} (gd : Guarded win waiting active now taken) (here : k ∈ active)
    (here' : k' ∈ active) (same : k.record.id = k'.record.id) : k = k' :=
  List.inj_on_of_nodup_map (List.nodup_append.1 gd.distinct).2.1 here here' same

/-- What a worker had taken before is expired if the window does not remember it, unless the worker
is about to remember it. -/
lemma expired {k : Worker} (gd : Guarded win waiting active now taken) (here : k ∈ active)
    (stage : k.stage ≠ .remembering)
    (unknown : ∀ x, win.seen.find? k.record.id = some x → x.2.isLeap = false →
      win.length.nanoseconds ≤ now - x.2.total) :
    ∀ e ∈ taken, e.1 = k.record.id → win.length.nanoseconds ≤ now - e.2 := by
  intro e mem same
  cases gd.covered e mem with
  | expired lapsed => exact lapsed
  | remembered found leap since =>
    have lapsed := unknown _ (same ▸ found) leap
    omega
  | held here' same' stage' =>
    cases gd.inj here here' (same.symm.trans same'.symm)
    exact absurd stage' stage

/-- An active worker goes on, or leaves its place. -/
lemma replace {l r : List Worker} {k k' : Worker} {active'}
    (gd : Guarded win waiting (l ++ k :: r) now taken) (same : k'.record = k.record)
    (stay : active' = l ++ k' :: r ∨ k'.isFinished = true ∧ active' = l ++ r)
    (remembered : k.stage = .remembering → ∀ e ∈ taken, k.record.id = e.1 →
      Covered win active' now e)
    (clear : ∀ m s, k'.stage = .publishing m s → ∀ e ∈ taken, e.1 = k.record.id →
      win.length.nanoseconds ≤ now - e.2) :
    Guarded win waiting active' now taken := by
  -- All other workers stay, and none comes in but the one that went on.
  have keep : ∀ x, x ∈ l ∨ x ∈ r → x ∈ active' := by
    intro x mem
    rcases stay with rfl | ⟨-, rfl⟩ <;> simp only [List.mem_append, List.mem_cons] <;> tauto
  have only : ∀ x ∈ active', x = k' ∨ x ∈ l ++ k :: r := by
    intro x mem
    rcases stay with rfl | ⟨-, rfl⟩ <;> simp only [List.mem_append, List.mem_cons] at * <;> tauto
  refine ⟨?_, gd.past, gd.apart, ?_, ?_⟩
  · refine gd.distinct.sublist ?_
    apply List.Sublist.append (.refl _)
    rcases stay with rfl | ⟨-, rfl⟩ <;> simp [same]
  · intro e mem
    cases gd.covered e mem with
    | expired lapsed => exact .expired lapsed
    | remembered found leap since => exact .remembered found leap since
    | @held x here id stage =>
      rw [List.mem_append, List.mem_cons] at here
      by_cases own : x = k
      · exact remembered (own ▸ stage) e mem (own ▸ id)
      · exact .held (keep x (by tauto)) id stage
  · intro x here m s stage
    rcases only x here with rfl | old
    · exact same ▸ clear m s stage
    · exact gd.clear x old m s stage

/-- A record is taken whose worker is about to remember it. -/
lemma take {k : Worker} (gd : Guarded win waiting active now taken) (here : k ∈ active)
    (stage : k.stage = .remembering)
    (lapsed : ∀ e ∈ taken, e.1 = k.record.id → win.length.nanoseconds ≤ now - e.2) :
    Guarded win waiting active now (taken ++ [(k.record.id, now)]) := by
  refine ⟨gd.distinct, ?_, ?_, ?_, ?_⟩
  · intro e mem
    rcases List.mem_append.1 mem with old | new
    · exact gd.past e old
    · cases List.mem_singleton.1 new
      exact Int.le_refl _
  · apply List.pairwise_append.2
    refine ⟨gd.apart, by simp, ?_⟩
    intro e mem x new
    cases List.mem_singleton.1 new
    exact ⟨gd.past e mem, lapsed e mem⟩
  · intro e mem
    rcases List.mem_append.1 mem with old | new
    · exact gd.covered e old
    · cases List.mem_singleton.1 new
      exact .held here rfl stage
  · intro x here' m s stage' e mem same
    rcases List.mem_append.1 mem with old | new
    · exact gd.clear x here' m s stage' e old same
    · cases List.mem_singleton.1 new
      -- Its own worker is about to remember it, and no other worker has its record.
      cases gd.inj here here' same
      exact absurd (stage.symm.trans stage') nofun

/-- What a worker had taken is remembered from now on. -/
lemma remember {at_ : Time.Instant} (gd : Guarded win waiting active now taken) (id)
    (le : now ≤ at_.total) (leap : at_.isLeap = false) :
    Guarded (win.remember at_ id) waiting active now taken ∧
      ∀ e ∈ taken, id = e.1 → ∀ active', Covered (win.remember at_ id) active' now e := by
  have new : ∀ e ∈ taken, id = e.1 → ∀ active', Covered (win.remember at_ id) active' now e := by
    intro e mem same active'
    have found := Window.find?_remember win at_ id e.1
    rw [if_pos same.symm] at found
    exact .remembered found leap (Int.le_trans (gd.past e mem) le)
  refine ⟨⟨gd.distinct, gd.past, gd.apart, ?_, gd.clear⟩, new⟩
  intro e mem
  by_cases same : id = e.1
  · exact new e mem same active
  · cases gd.covered e mem with
    | expired lapsed => exact .expired lapsed
    | remembered found leap since =>
      refine .remembered ?_ leap since
      rw [Window.find?_remember, if_neg fun e => same e.symm, found]
    | held here same stage => exact .held here same stage

end Guarded

variable {ω : Type} {p : Surroundings ω} {time : ω → Time.Instant} {waiting : List Record}

open Course (takes takesIn)

/-- An entry of a window that does not count any more is as old as the window is long. -/
lemma expired_of_stale {win : Window} {now at_ : Time.Instant} (stale : win.isFresh now at_ = false)
    (leap : now.isLeap = false) (leap' : at_.isLeap = false) :
    win.length.nanoseconds ≤ now.total - at_.total := by
  rw [← Time.Instant.nanoseconds_elapsed leap leap']
  exact Int.not_lt.1 (of_decide_eq_false stale)

/-- A step of a worker keeps the batch guarded, also if the broker takes a record in it. -/
lemma Guarded.step {delay l r active'} {k k' : Worker} {win : Window} {window' : Option Window}
    {w w' : ω} {taken} (tm : p.Timely time)
    (gd : Guarded win waiting (l ++ k :: r) (time w).total taken)
    (st : Worker.Step p delay k.record k.stage (some win) w k'.stage window' w')
    (same : k'.record = k.record)
    (stay : active' = l ++ k' :: r ∨ k'.isFinished = true ∧ active' = l ++ r) :
    ∃ win', window' = some win' ∧ win'.length = win.length ∧
      Guarded win' waiting active' (time w').total
        (taken ++ (takes p k w).toList.map (·, (time w').total)) := by
  have le := tm.of_step st
  have here : k ∈ l ++ k :: r := by simp
  have next {win' : Window} {now} (gd : Guarded win' waiting (l ++ k :: r) now taken) :=
    gd.replace same stay
  -- Only what was taken before a look-up or before remembering it takes an argument.
  have harmless (old : k.stage ≠ .remembering) (new : ∀ m s, k'.stage ≠ .publishing m s) :=
    next (gd.later le) (fun e => absurd e old) (fun m s e => absurd e (new m s))
  obtain ⟨a, stage⟩ := k
  obtain ⟨_, stage'⟩ := k'
  cases same
  cases st with
  | known clock look =>
    obtain ⟨rfl, -⟩ := Window.lookUp_true look
    refine ⟨_, rfl, rfl, ?_⟩
    simpa [takes] using harmless (by simp) (by simp)
  | @unknown now _ win' _ _ clock look =>
    obtain ⟨leap, since, until_⟩ := tm.of_clock clock
    obtain ⟨len, stale, gone⟩ := Window.lookUp_false look
    have lapsed : ∀ x, win.seen.find? a.id = some x → x.2.isLeap = false →
        win.length.nanoseconds ≤ (time w').total - x.2.total := by
      intro x found leap'
      have lapsed := expired_of_stale (stale x found) leap leap'
      omega
    refine ⟨_, rfl, len, ?_⟩
    have gd' : Guarded win' waiting (l ++ ⟨a, .looking⟩ :: r) (time w').total taken := by
      apply (gd.later le).forget len
      intro id x found
      rw [gone]
      split
      · next same => exact .inr (lapsed x (same ▸ found))
      · exact .inl found
    have clear := (gd.later le).expired here (by simp) lapsed
    simpa [takes] using next gd' (by simp) fun _ _ _ => len ▸ clear
  | taken pub =>
    have gd' := harmless (by simp) (by simp)
    obtain rfl | ⟨fin, -⟩ := stay
    · refine ⟨_, rfl, rfl, ?_⟩
      have clear := (gd.later le).clear _ here _ _ rfl
      simpa [takes, pub, Answer.ok?] using gd'.take (k := ⟨a, .remembering⟩) (by simp) rfl clear
    · cases fin
  | refused pub | crashed pub =>
    refine ⟨_, rfl, rfl, ?_⟩
    simpa [takes, pub, Answer.ok?] using harmless (by simp) (by simp)
  | @remembered now _ _ _ clock =>
    obtain ⟨leap, since, until_⟩ := tm.of_clock clock
    obtain ⟨gd', found⟩ := gd.remember a.id since leap
    refine ⟨_, rfl, rfl, ?_⟩
    have gd'' := next gd' (fun _ e mem same => found e mem same _) (by simp)
    simpa [takes] using gd''.later le
  | written wr | rested =>
    refine ⟨_, rfl, rfl, ?_⟩
    simpa [takes] using harmless (by simp) (by simp)

namespace Course

/-- The batch in work, or one without records. -/
def batch (c : Course ω) : Batch :=
  match c.work with
  | none => { waiting := [] }
  | some (_, b) => b

/-- A course whose publisher has a window of some length and is guarded in its batch. -/
def Guarded (time : ω → Time.Instant) (length : Time.Span) (c : Course ω) : Prop :=
  ∃ win, c.publisher.window = some win ∧ win.length = length ∧
    Publisher.Guarded win c.batch.waiting c.batch.active (time c.world).total
      (c.taken.map fun e => (e.1, (time e.2).total))

/-- Whatever happens elsewhere does not take the world back in time. -/
def Event.Forward (time : ω → Time.Instant) : Event ω → Prop
  | .elsewhere change => ∀ w, time w ≤ time (change w)
  | _ => True

/-- Every fetch brings a record at most once. -/
def Distinct (p : Surroundings ω) : Prop :=
  ∀ ⦃limit ceiling w rs w'⦄, p.fetch limit ceiling w = (.ok rs, w') → (rs.map Record.id).Nodup

namespace Guarded

variable {length : Time.Span} {c : Course ω}

/-- A publisher with the same window goes on later. -/
lemma later {q w} (gd : c.Guarded time length) (same : q.window = c.publisher.window)
    (le : (time c.world).total ≤ (time w).total) :
    Guarded time length { c with publisher := q, world := w } := by
  obtain ⟨win, here, len, gd⟩ := gd
  exact ⟨win, same.trans here, len, gd.later le⟩

variable (tm : p.Timely time)
include tm

/-- A purge takes nothing out of the window that counts. -/
lemma purge {q w} (gd : c.Guarded time length) (pg : c.publisher.purge p c.world = (q, w)) :
    Guarded time length { c with publisher := q, world := w } := by
  obtain ⟨win, here, len, gd⟩ := gd
  obtain ⟨none, -⟩ | ⟨win', now, here', clock, rfl⟩ := purge_inv pg
  · cases here.symm.trans none
  cases here.symm.trans here'
  obtain ⟨leap, since, until_⟩ := tm.of_clock clock
  refine ⟨_, rfl, len, ?_⟩
  refine (gd.later (Int.le_trans since until_)).forget rfl ?_
  intro id x found
  rw [Window.find?_purge, found, Option.filter_some]
  split
  · exact .inl rfl
  · next stale =>
    right
    intro leap'
    have lapsed := expired_of_stale (Bool.eq_false_iff.2 stale) leap leap'
    omega

/-- A fetch brings the records of the next batch. -/
lemma load {ticking records w} (gd : c.Guarded time length) (distinct : Distinct p)
    (idle : c.work = none) (ft : c.publisher.fetch p c.world = (.ok records, w)) :
    Guarded time length { c with world := w, work := some (ticking, { waiting := records }) } := by
  obtain ⟨win, here, len, gd⟩ := gd
  simp only [batch, idle] at gd
  exact ⟨win, here, len, (gd.later (tm.of_fetch ft)).load (distinct ft)⟩

/-- A tick keeps a course guarded. -/
lemma tick (gd : c.Guarded time length) (distinct : Distinct p) (idle : c.work = none) :
    (c.tick p).Guarded time length := by
  unfold Course.tick beginTick
  generalize sk : c.publisher.skips p c.world = asked
  obtain ⟨skips, q, w⟩ := asked
  obtain ⟨same, le⟩ := tm.of_skips sk
  have gd := gd.later same le
  cases skips with
  | true => exact gd
  | false =>
    simp only
    generalize pg : q.purge p w = purged
    obtain ⟨q', w'⟩ := purged
    have gd := gd.purge tm pg
    simp only
    generalize ft : q'.fetch p w' = fetched
    obtain ⟨e | records, w''⟩ := fetched
    · simp only
      obtain ⟨same, le⟩ := tm.of_conclude
        (show q'.conclude p {} (some (.store e)) w'' = (_, _, _) from rfl)
      exact gd.later same (Int.le_trans (tm.of_fetch ft) le)
    · exact gd.load tm distinct idle ft

/-- A batch without regard to the breaker keeps a course guarded. -/
lemma process (gd : c.Guarded time length) (distinct : Distinct p) (idle : c.work = none) :
    (c.process p).Guarded time length := by
  unfold Course.process
  generalize pg : c.publisher.purge p c.world = purged
  obtain ⟨q, w⟩ := purged
  have gd := gd.purge tm pg
  simp only
  generalize ft : q.fetch p w = fetched
  obtain ⟨_ | records, w'⟩ := fetched
  · exact gd.later rfl (tm.of_fetch ft)
  · exact gd.load tm distinct idle ft

/-- A move in the batch keeps a course guarded. -/
lemma move {ticking b} (gd : c.Guarded time length) (work : c.work = some (ticking, b))
    (m : Batch.Move) : (c.move p ticking b m).Guarded time length := by
  obtain ⟨win, here, len, gd⟩ := gd
  simp only [batch, work] at gd
  unfold Course.move
  cases m with
  | start =>
    simp only [Batch.move, takesIn, Option.toList_none, List.map_nil, List.append_nil]
    refine ⟨win, here, len, ?_⟩
    obtain e | ⟨r, waiting, active⟩ := b.start_inv c.places
    · simpa only [batch, e] using gd
    · rw [waiting] at gd
      simpa only [batch, active] using gd.start
  | advance i =>
    simp only [Batch.move, takesIn]
    generalize st : b.advance p c.publisher.retryDelay i c.publisher.window c.world = next
    obtain ⟨b', window', w'⟩ := next
    obtain ⟨none, rfl, rfl, rfl⟩ | ⟨l, k, r, k', at_, parts, same, st, waiting, stay⟩ :=
      Batch.advance_inv st
    · simp only [none, Option.bind_none, Option.toList_none, List.map_nil, List.append_nil]
      exact ⟨win, here, len, gd⟩
    · rw [parts] at gd
      rw [here] at st
      obtain ⟨win', here', len', gd⟩ := gd.step tm st same stay
      refine ⟨win', here', len'.trans len, ?_⟩
      simpa [batch, waiting, at_, Function.comp_def] using gd

/-- The end of a call keeps a course guarded. -/
lemma conclude {ticking b} (gd : c.Guarded time length) (work : c.work = some (ticking, b))
    (done : b.isDone = true) : (c.conclude p ticking b).Guarded time length := by
  have idle : Guarded time length { c with work := none } := by
    obtain ⟨win, here, len, gd⟩ := gd
    obtain ⟨waiting, active⟩ := Bool.and_eq_true_iff.1 done
    simp only [batch, work, List.isEmpty_iff.1 waiting, List.isEmpty_iff.1 active] at gd
    exact ⟨win, here, len, gd⟩
  unfold Course.conclude
  split
  · generalize cn : c.publisher.conclude p b.results.report b.results.failure? c.world = next
    obtain ⟨_, q, w⟩ := next
    obtain ⟨same, le⟩ := tm.of_conclude cn
    exact idle.later same le
  · exact idle

/-- Every event keeps a course guarded. -/
lemma step {e} (gd : c.Guarded time length) (distinct : Distinct p) (forward : e.Forward time) :
    (c.step p e).Guarded time length := by
  unfold Course.step
  split
  · next idle => exact gd.tick tm distinct idle
  · next idle => exact gd.process tm distinct idle
  · next work => exact gd.move tm work _
  · next work =>
    split
    · next done => exact gd.conclude tm work done
    · exact gd
  · next change _ => exact gd.later rfl (tm.total_le (forward c.world))
  · exact gd

/-- Every run keeps a course guarded. -/
lemma run {es} (gd : c.Guarded time length) (distinct : Distinct p)
    (forward : ∀ e ∈ es, e.Forward time) : (c.run p es).Guarded time length := by
  induction es generalizing c with
  | nil => exact gd
  | cons e es ih =>
    have gd' := gd.step tm distinct (forward e List.mem_cons_self)
    apply ih gd'
    intro e mem
    exact forward e (List.mem_cons_of_mem _ mem)

end Guarded

/-- A publisher with a window that was just built is guarded. -/
lemma guarded_of_build {s : Settings} {q : Publisher} (built : build s = .ok q)
    (enabled : s.windowEnabled = true) (time : ω → Time.Instant) (w : ω) :
    ∃ length, s.window? = some length ∧
      Guarded time length { publisher := q, world := w } := by
  obtain ⟨_, _, length, -, -, -, len, rfl⟩ := build_inv built
  exact ⟨length, len, .ofLength length, if_pos enabled, rfl, .nil⟩

/-- Of a publisher with a window, in whatever order ticks, batches, the steps of their workers and
what happens elsewhere follow each other: if every fetch brings a record at most once and the clock
never moves back, then of two times at which the broker took the same record the later one comes not
before the length of the window has passed. -/
theorem taken_apart {s : Settings} {q : Publisher} {es : List (Event ω)} (tm : p.Timely time)
    (distinct : Distinct p) (built : build s = .ok q) (enabled : s.windowEnabled = true) (w : ω)
    (forward : ∀ e ∈ es, e.Forward time) :
    ∃ length, s.window? = some length ∧
      (run p { publisher := q, world := w } es).taken.Pairwise fun a b =>
        time a.2 ≤ time b.2 ∧ (a.1 = b.1 → length ≤ (time b.2).elapsed (time a.2)) := by
  obtain ⟨length, len, fresh⟩ := guarded_of_build built enabled time w
  obtain ⟨win, -, rfl, gd⟩ := fresh.run tm distinct forward
  refine ⟨_, len, ?_⟩
  apply (List.pairwise_map.1 gd.apart).imp
  intro a b ⟨le, apart⟩
  have leap := tm.noLeap a.2
  have leap' := tm.noLeap b.2
  constructor
  · exact (Time.Instant.rank_le_iff_total_le leap leap').2 le
  · intro same
    rw [Time.Span.le_iff, Time.Instant.nanoseconds_elapsed leap' leap]
    exact apart same

/-- A world that is nothing but a clock. -/
def Dial : Type :=
  { t : Time.Instant // t.isLeap = false }

/-- The clock some seconds after the start of 1970. -/
def Dial.at (n : Nat) (h : n < 86400) : Dial :=
  ⟨{ Time.Instant.epoch with second := n, second_lt := h }, rfl⟩

/-- The clock once it is not before another one. -/
def Dial.reach (goal w : Dial) : Dial :=
  if w.1 ≤ goal.1 then goal else w

/-- The shape of messages without fields. -/
def bare : Shape where
  form := ⟨"Bare", []⟩
  tag := "bare"

/-- A store that always brings the same record and cannot mark it, and a broker that takes it. -/
def stuck : Surroundings Dial where
  clock w := (w.1, w)
  resolve _ := some bare
  fetch _ _ w :=
    (.ok [{ id := ⟨0⟩, typeTag := bare.tag, payload := "\x7b\x7d", occurredAt := .epoch }], w)
  markProcessed _ w := (.error (.storage "away"), w)
  markFailed _ _ w := (.error (.storage "away"), w)
  countRetry _ _ _ w := (.error (.storage "away"), w)
  publish _ _ w := (.ok (), w)

/-- No call to it takes any time. -/
lemma timely_stuck : stuck.Timely Subtype.val where
  noLeap := Subtype.property
  reading := Subtype.property
  since _ := Int.le_refl _
  until_ _ := Int.le_refl _
  fetch _ _ _ := Int.le_refl _
  markProcessed _ _ := Int.le_refl _
  markFailed _ _ _ := Int.le_refl _
  countRetry _ _ _ _ := Int.le_refl _
  publish _ _ _ := Int.le_refl _

/-- The events of one batch of one record. -/
def visit : List (Event Dial) :=
  [.process, .move .start] ++ List.replicate 4 (.move (.advance 0)) ++ [.conclude]

/-- A batch at once, one just before an hour has passed, and one just after that. -/
def visits : List (Event Dial) :=
  visit ++ .elsewhere (.reach (.at 3599 (by decide))) ::
    visit ++ .elsewhere (.reach (.at 3600 (by decide))) :: visit

/-- With a window of one hour the record is taken at once and when the hour has passed. -/
theorem taken_apart_hourly :
    ∃ q, build { windowHours := 1 } = .ok q ∧
      let c := run stuck { publisher := q, world := .at 0 (by decide) } visits
      c.taken.map (fun e => (e.1, e.2.1.second)) = [(⟨0⟩, 0), (⟨0⟩, 3600)] ∧
      ∃ length, Settings.window? { windowHours := 1 } = some length ∧
        c.taken.Pairwise fun a b => a.2.1 ≤ b.2.1 ∧ (a.1 = b.1 → length ≤ b.2.1.elapsed a.2.1) := by
  refine ⟨_, rfl, by decide, taken_apart timely_stuck ?_ rfl rfl _ ?_⟩
  · rintro _ _ _ _ _ ⟨⟩
    exact List.nodup_singleton _
  · intro e mem
    cases e with
    | elsewhere change =>
      have reach : ∃ goal : Dial, change = .reach goal := by
        simp [visits, visit, List.replicate] at mem
        rcases mem with rfl | rfl <;> exact ⟨_, rfl⟩
      obtain ⟨goal, rfl⟩ := reach
      intro w
      unfold Dial.reach
      split
      · assumption
      · exact Int.le_refl _
    | _ => trivial

end Course

end Outbox.Publisher
