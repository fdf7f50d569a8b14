import Outbox.Proofs.UnitOfWork.Transcript

/-!
# The discipline of transactions

A commit makes no call if something cannot be written down. Otherwise it asks the storage for what
its plan says, up to the first request that fails; what is left open then is rolled back
(`Committed`). Over any use of a unit of work, every transaction that was opened is closed once and
not used afterwards, but for the one that is still open (`Orderly`).
-/

namespace Outbox.UnitOfWork

variable {ω τ : Type}

/-- The calls that give up: one that rolls back the transaction that is open, if there is one. -/
def GivesUp : Option Nat → List Call → Prop
  | none, cs => cs = []
  | some n, cs => ∃ answer, cs = [⟨n, .rollback, answer⟩]

section Watched

variable {p : Storage ω τ}

/-- Giving up rolls back the transaction that is open, if there is one. -/
lemma abort_watched (u : UnitOfWork (Nat × τ)) (w : Watched ω) :
    (u.abort p.watched w).1.transaction = none ∧
      ∃ cs, GivesUp u.current cs ∧ (u.abort p.watched w).2.calls = w.calls ++ cs := by
  unfold abort current
  split
  · next closed =>
    rw [closed]
    exact ⟨rfl, [], rfl, (List.append_nil _).symm⟩
  · next t open_ =>
    rw [open_]
    exact ⟨rfl, _, ⟨_, rfl⟩, rfl⟩

/-- Numbering drafts makes no call that is written down. -/
lemma calls_number (now : Time.Instant) (ds : List Draft) (w : Watched ω) :
    (number p.watched now ds w).2.calls = w.calls := by
  induction ds generalizing w with
  | nil => rfl
  | cons d ds ih => exact ih _

/-- Announcements make no call that is written down. -/
lemma calls_announced (ns : List Notice) (w : Watched ω) :
    (ns.foldl (fun w n => p.watched.announce n w) w).calls = w.calls := by
  induction ns generalizing w with
  | nil => rfl
  | cons n ns ih => exact ih _

/-- What a commit comes to, and the calls that it makes. -/
inductive Committed (p : Storage ω τ) (u : UnitOfWork (Nat × τ)) (table : Aggregate.Table)
    (w : Watched ω) : Except Error (List Notice) → List Call → Prop where
  /-- Something cannot be written down. -/
  | unwritable {e cs} :
    (u.faults table).head? = some e →
    GivesUp u.current cs →
    Committed p u table w (.error e) cs
  /-- All is written down, and what the plan says is attempted. -/
  | attempted {es rs cs f ending} :
    u.faults table = [] →
    List.Forall₂ (fun h e => (table h).SavedAs e) u.tracked es →
    List.Forall₂ (fun m r => Record.ofMessage r.id m (p.clock w.world).1 = .ok r)
      (u.pending table) rs →
    Attempt (u.ordinal w) (u.plan es rs) cs f →
    GivesUp (if f.leavesOpen then some (u.ordinal w) else none) ending →
    Committed p u table w (f.verdict.map fun _ => rs.map Notice.ofRecord) (cs ++ ending)

/-- A commit leaves no transaction open. -/
lemma tryCommit_watched {u u' : UnitOfWork (Nat × τ)} {table table' : Aggregate.Table}
    {w w' : Watched ω} {answer}
    (called : u.tryCommit p.watched table w = (answer, u', table', w')) :
    u'.transaction = none ∧ ∃ cs, w'.calls = w.calls ++ cs ∧ Committed p u table w answer cs := by
  -- What cannot be written down is known before the first call.
  have captured := u.reports_capture table
  unfold tryCommit at called
  simp only at called
  split at called
  · next e failed =>
    rw [failed] at captured
    obtain ⟨closed, cs, up, calls⟩ := abort_watched (p := p) u (p.watched.clock w).2
    cases called
    exact ⟨closed, cs, calls, .unwritable captured up⟩
  · next es ds went =>
    rw [went] at captured
    obtain ⟨saved, drafted⟩ := capture_ok went
    have recorded : List.Forall₂ (fun m r => Record.ofMessage r.id m (p.watched.clock w).1 = .ok r)
        (u.pending table) (number p.watched _ ds (p.watched.clock w).2).1 :=
      forall₂_number _ drafted
    -- Numbering makes no call that is written down.
    have quiet := calls_number (p := p) (p.watched.clock w).1 ds (p.watched.clock w).2
    generalize number p.watched (p.watched.clock w).1 ds (p.watched.clock w).2 = numbered
      at called recorded quiet
    have quiet : numbered.2.calls = w.calls := quiet
    have same := u.ordinal_congr quiet
    split at called
    · next e u₁ w₁ written =>
      obtain ⟨cs, f, at_, calls, verdict, open_⟩ := attempt_write written
      obtain ⟨closed, ending, up, calls'⟩ := abort_watched (p := p) u₁ w₁
      rw [same] at at_ open_
      rw [open_] at up
      cases called
      refine ⟨closed, cs ++ ending, ?_, ?_⟩
      · rw [calls', calls, quiet, List.append_assoc]
      · have committed := Committed.attempted captured saved recorded at_ up
        rw [← verdict] at committed
        exact committed
    · next u₁ w₁ written =>
      obtain ⟨cs, f, at_, calls, verdict, open_⟩ := attempt_write written
      rw [same] at at_
      obtain _ | _ := f
      · cases called
        refine ⟨by simpa [current, Failure.leavesOpen] using open_, cs ++ [], ?_, ?_⟩
        · rw [calls_announced, calls, quiet, List.append_nil]
        · exact .attempted captured saved recorded at_ rfl
      · cases verdict

end Watched

/-- A unit of work in use, where every call to its storage is written down. -/
structure Desk (ω τ : Type) where
  unit : UnitOfWork (Nat × τ) := {}
  table : Aggregate.Table
  world : Watched ω

namespace Desk

/-- A desk at which nothing has happened yet. -/
def start (table : Aggregate.Table) (world : ω) : Desk ω τ where
  table := table
  world := { world }

/-- What can happen at a desk. -/
inductive Act
  | track (h : Aggregate.Handle)
  | queue (m : Message)
  /-- The aggregates change. -/
  | edit (change : Aggregate.Table → Aggregate.Table)
  | begin
  | commit
  | rollback

/-- The desk after an act. -/
def step (p : Storage ω τ) (d : Desk ω τ) : Act → Desk ω τ
  | .track h => { d with unit := d.unit.track h }
  | .queue m => { d with unit := d.unit.queue m }
  | .edit change => { d with table := change d.table }
  | .begin =>
    let (_, unit, world) := d.unit.begin p.watched d.world
    { d with unit, world }
  | .commit =>
    let (_, unit, table, world) := d.unit.tryCommit p.watched d.table d.world
    { d with unit, table, world }
  | .rollback =>
    let (_, unit, world) := d.unit.rollback p.watched d.world
    { d with unit, world }

/-- The desk after some acts. -/
def run (p : Storage ω τ) (d : Desk ω τ) (acts : List Act) : Desk ω τ :=
  acts.foldl (step p) d

end Desk

/-- Whether a call is made in a transaction, or opens it. A transaction that could not be opened
is none. -/
def Call.isWithin (c : Call) (n : Nat) : Bool :=
  c.transaction = n && (c.isOpening || c.request.isStaging || c.request.isClosing)

/-- Whether a call commits a transaction or rolls it back. -/
def Call.closes (c : Call) (n : Nat) : Bool :=
  c.transaction = n && c.request.isClosing

/-- The call that opened a transaction. -/
def opening (n : Nat) : Call :=
  ⟨n, .start, .ok ()⟩

/-- The last of some calls in a transaction closes it, and all others stage something in it. -/
def Closes (n : Nat) (cs : List Call) : Prop :=
  ∃ staged q answer, cs = staged ++ [⟨n, q, answer⟩] ∧ q.isClosing = true ∧
    ∀ c ∈ staged, c.transaction = n ∧ c.request.isStaging = true

namespace Closes

variable {n : Nat} {cs : List Call}

/-- Calls that close a transaction are all made in it, and none opens another one. -/
lemma own (close : Closes n cs) {c : Call} (mem : c ∈ cs) :
    c.transaction = n ∧ c.isWithin n = true ∧ c.isOpening = false := by
  have within : c.transaction = n ∧ (c.request.isStaging || c.request.isClosing) = true := by
    obtain ⟨staged, q, answer, rfl, closing, stage⟩ := close
    obtain staging | last := List.mem_append.1 mem
    · obtain ⟨same, staging⟩ := stage c staging
      exact ⟨same, by rw [staging, Bool.true_or]⟩
    · cases List.mem_singleton.1 last
      exact ⟨rfl, by rw [closing, Bool.or_true]⟩
  obtain ⟨rfl, asked⟩ := within
  refine ⟨rfl, by simp [Call.isWithin, Bool.or_assoc, asked], ?_⟩
  unfold Call.isOpening
  split
  · next start _ =>
    rw [start] at asked
    cases asked
  · rfl

/-- Calls that close a transaction are within that transaction and no other. -/
lemma filter_isWithin (close : Closes n cs) (m : Nat) :
    cs.filter (·.isWithin m) = if m = n then cs else [] := by
  split
  · next same =>
    rw [List.filter_eq_self, same]
    exact fun c mem => (close.own mem).2.1
  · next other =>
    rw [List.filter_eq_nil_iff]
    intro c mem
    simp [Call.isWithin, (close.own mem).1, Ne.symm other]

/-- Calls that close a transaction open none. -/
lemma countP_isOpening (close : Closes n cs) : cs.countP Call.isOpening = 0 := by
  rw [List.countP_eq_zero]
  intro c mem
  simp [(close.own mem).2.2]

/-- One call closes the transaction. -/
lemma countP_closes (close : Closes n cs) : cs.countP (·.closes n) = 1 := by
  obtain ⟨staged, q, answer, rfl, closing, stage⟩ := close
  have none_ : staged.countP (·.closes n) = 0 := by
    rw [List.countP_eq_zero]
    intro c mem
    have staging := (stage c mem).2
    unfold Call.closes
    cases asked : c.request <;> simp_all [Request.isStaging, Request.isClosing]
  rw [List.countP_append, none_]
  simp [Call.closes, closing]

/-- An attempt to commit, and to roll back what it leaves open, closes the transaction. -/
lemma of_attempt {qs : List Request} {f : Failure} {ending : List Call}
    (staging : ∀ q ∈ qs, q.isStaging = true) (at_ : Attempt n (qs ++ [.commit]) cs f)
    (up : GivesUp (if f.leavesOpen then some n else none) ending) : Closes n (cs ++ ending) := by
  induction qs generalizing cs with
  | nil =>
    obtain _ | _ | at_ := at_
    · cases up
      exact ⟨[], .commit, _, rfl, rfl, List.forall_mem_nil _⟩
    · obtain _ | _ := at_
      cases up
      exact ⟨[], .commit, _, rfl, rfl, List.forall_mem_nil _⟩
  | cons q qs ih =>
    have here := staging q List.mem_cons_self
    obtain _ | _ | at_ := at_
    -- refused while staging: the transaction is left open, and only the rollback closes it
    · rw [Failure.leavesOpen, here] at up
      obtain ⟨answer, rfl⟩ := up
      refine ⟨[_], _, _, rfl, rfl, ?_⟩
      intro c mem
      cases List.mem_singleton.1 mem
      exact ⟨rfl, here⟩
    · obtain ⟨staged, q', answer, rest, closing, stage⟩ :=
        ih (fun q' mem => staging q' (List.mem_cons_of_mem q mem)) at_
      refine ⟨⟨n, q, .ok ()⟩ :: staged, q', answer, ?_, closing, ?_⟩
      · rw [List.cons_append, rest, List.cons_append]
      · intro c mem
        obtain rfl | mem := List.mem_cons.1 mem
        · exact ⟨rfl, here⟩
        · exact stage c mem

end Closes

/-- Transactions are numbered in the order in which they were opened. The one that is open has not
been used, every other one was closed in the end, and there are no more. -/
def Orderly (current : Option Nat) (calls : List Call) : Prop :=
  ∀ n, let own := calls.filter (·.isWithin n)
    if current = some n then n < calls.countP Call.isOpening ∧ own = [opening n]
    else if n < calls.countP Call.isOpening then ∃ cs, own = opening n :: cs ∧ Closes n cs
    else own = []

namespace Orderly

variable {current : Option Nat} {calls cs : List Call} {n : Nat}

/-- Before the first call no transaction was opened. -/
lemma nil : Orderly none [] := fun _ => rfl

/-- A transaction that cannot be opened does not count. -/
lemma refused (od : Orderly current calls) (n : Nat) (e : Store.Error) :
    Orderly current (calls ++ [⟨n, .start, .error e⟩]) := by
  intro m
  have here := od m
  simpa [List.filter_append, List.countP_append, Call.isWithin, Call.isOpening, Request.isStaging,
    Request.isClosing] using here

/-- A transaction that is opened has the next number. -/
lemma opened (od : Orderly none calls) :
    Orderly (some (calls.countP Call.isOpening))
      (calls ++ [opening (calls.countP Call.isOpening)]) := by
  intro m
  have here := od m
  have one : [opening (calls.countP Call.isOpening)].countP Call.isOpening = 1 := rfl
  simp only [List.filter_append, List.countP_append, one, reduceCtorEq, if_false, Option.some.injEq]
    at here ⊢
  split
  · next same =>
    rw [same, if_neg (Nat.lt_irrefl m)] at here
    rw [here, same]
    exact ⟨Nat.lt_succ_self m, by simp [Call.isWithin, opening, Call.isOpening]⟩
  · next other =>
    have alone : [opening (calls.countP Call.isOpening)].filter (·.isWithin m) = [] := by
      simp [Call.isWithin, opening, other]
    rw [alone, List.append_nil]
    have same : m < calls.countP Call.isOpening + 1 ↔ m < calls.countP Call.isOpening := by omega
    simpa only [same] using here

/-- Once it is closed, no transaction is open. -/
lemma closed (od : Orderly (some n) calls) (close : Closes n cs) : Orderly none (calls ++ cs) := by
  intro m
  have here := od m
  simp only [List.filter_append, List.countP_append, close.filter_isWithin, close.countP_isOpening,
    Nat.add_zero, reduceCtorEq, if_false, Option.some.injEq] at here ⊢
  obtain rfl | other := eq_or_ne m n
  · rw [if_pos rfl] at here ⊢
    obtain ⟨lt, own⟩ := here
    rw [if_pos lt, own]
    exact ⟨cs, rfl, close⟩
  · rw [if_neg other.symm] at here
    rwa [if_neg other, List.append_nil]

/-- A transaction is closed once, unless it is still open or was never opened. -/
lemma countP_closes (od : Orderly current calls) (n : Nat) :
    calls.countP (·.closes n) =
      if n < calls.countP Call.isOpening ∧ current ≠ some n then 1 else 0 := by
  have here := od n
  -- Calls that close a transaction are among those made in it.
  have own : calls.countP (·.closes n) = (calls.filter (·.isWithin n)).countP (·.closes n) := by
    rw [List.countP_filter]
    congr 1
    funext c
    unfold Call.closes Call.isWithin
    cases c.request.isClosing <;> simp
  rw [own]
  split at here
  · next open_ =>
    rw [here.2, if_neg fun h => h.2 open_]
    simp [opening, Call.closes, Request.isClosing]
  · next closed =>
    split at here
    · next lt =>
      obtain ⟨cs, own, close⟩ := here
      rw [own, if_pos ⟨lt, closed⟩, List.countP_cons, close.countP_closes]
      simp [opening, Call.closes, Request.isClosing]
    · next ge =>
      rw [here, if_neg fun h => ge h.1]
      rfl

section Watched

variable {p : Storage ω τ} {u : UnitOfWork (Nat × τ)} {w : Watched ω}

/-- A transaction that is given up is closed. -/
lemma givesUp (od : Orderly current calls) (up : GivesUp current cs) :
    Orderly none (calls ++ cs) := by
  cases current with
  | none =>
    cases up
    rwa [List.append_nil]
  | some n =>
    obtain ⟨answer, rfl⟩ := up
    exact od.closed ⟨[], .rollback, answer, rfl, rfl, List.forall_mem_nil _⟩

/-- Opening a transaction, unless one is open, leads to one that has not been used. -/
lemma begin {u' : UnitOfWork (Nat × τ)} {w' : Watched ω} {answer}
    (od : Orderly u.current w.calls) (called : u.begin p.watched w = (answer, u', w')) :
    Orderly u'.current w'.calls := by
  unfold UnitOfWork.begin UnitOfWork.ensureOpen at called
  unfold current at od ⊢
  cases open_ : u.transaction with
  | some t =>
    rw [open_] at called od
    cases called
    exact od
  | none =>
    rw [open_] at called od
    generalize started : p.watched.start w = next at called
    obtain ⟨answer, w₁⟩ := next
    have noted := start_watched started
    cases answer with
    | ok t =>
      cases called
      rw [noted.2, Option.map_some, noted.1]
      exact od.opened
    | error e =>
      cases called
      rw [noted, open_]
      exact od.refused _ e

/-- A commit closes the transaction that it uses. -/
lemma committed {table : Aggregate.Table} {answer} (od : Orderly u.current w.calls)
    (committed : Committed p u table w answer cs) : Orderly none (w.calls ++ cs) := by
  cases committed with
  | unwritable _ up => exact od.givesUp up
  | @attempted es rs cs f ending _ _ _ at_ up =>
    have staging : ∀ q ∈ stagings es rs, q.isStaging = true := fun _ => isStaging_of_mem_stagings
    unfold plan isActive at at_
    unfold ordinal at at_ up
    unfold current at od at_ up
    cases open_ : u.transaction with
    | some t =>
      rw [open_] at od at_ up
      exact od.closed (.of_attempt staging at_ up)
    | none =>
      rw [open_] at od at_ up
      obtain _ | _ | at_ := at_
      · cases up
        exact od.refused _ _
      · have close := Closes.of_attempt staging at_ up
        have closed := od.opened.closed close
        rwa [List.append_assoc] at closed

end Watched

end Orderly

namespace Desk

variable {p : Storage ω τ} {d : Desk ω τ}

/-- Transactions stay in order with every act. -/
lemma orderly_step (od : Orderly d.unit.current d.world.calls) (a : Act) :
    Orderly (d.step p a).unit.current (d.step p a).world.calls := by
  cases a with
  | track h => exact od
  | queue m => exact od
  | edit change => exact od
  | begin => exact od.begin rfl
  | commit =>
    simp only [step]
    generalize called : d.unit.tryCommit p.watched d.table d.world = next
    obtain ⟨answer, u', table', w'⟩ := next
    obtain ⟨closed, cs, calls, committed⟩ := tryCommit_watched called
    rw [current, closed, calls]
    exact od.committed committed
  | rollback =>
    obtain ⟨closed, cs, up, calls⟩ := abort_watched (p := p) d.unit d.world
    simp only [step, UnitOfWork.rollback, current, closed, calls]
    exact od.givesUp up

/-- Every run keeps the transactions orderly. -/
lemma orderly_run (od : Orderly d.unit.current d.world.calls) (acts : List Act) :
    Orderly (d.run p acts).unit.current (d.run p acts).world.calls := by
  induction acts generalizing d with
  | nil => exact od
  | cons a acts ih => exact ih (orderly_step od a)

end Desk

/-- Whatever the storage answers, a commit makes the calls of its plan up to the first that fails
and fails as that one does, or makes none if something cannot be written down; what is left open is
rolled back, once. Over any use of a unit of work the transactions come in order: each is used and
then closed by one call, the one that is open has not been used, and there is no other. -/
theorem transactions_disciplined (p : Storage ω τ) :
    (∀ (u : UnitOfWork (Nat × τ)) (table : Aggregate.Table) (w : Watched ω),
      let (answer, u', _, w') := u.tryCommit p.watched table w
      u'.transaction = none ∧
        ∃ cs, w'.calls = w.calls ++ cs ∧ Committed p u table w answer cs) ∧
    ∀ (table : Aggregate.Table) (world : ω) (acts : List Desk.Act),
      let d := (Desk.start table world).run p acts
      Orderly d.unit.current d.world.calls ∧
      ∀ n, d.world.calls.countP (·.closes n) =
        if n < d.world.opened ∧ d.unit.current ≠ some n then 1 else 0 := by
  constructor
  · intro u table w
    exact tryCommit_watched rfl
  · intro table world acts
    have od := Desk.orderly_run (p := p) (d := .start table world) .nil acts
    exact ⟨od, od.countP_closes⟩

end Outbox.UnitOfWork
