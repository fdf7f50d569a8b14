import Outbox.Proofs.UnitOfWork.Capture

/-!
# The calls of a unit of work

Whatever a storage does, it can be watched: every call is written down with its answer and with the
number of the transaction it belongs to. An attempt at some requests makes one call for each of
them, up to the first that fails (`Attempt`). Staging and writing are such attempts
(`attempt_stage`, `attempt_write`).
-/

namespace Outbox.UnitOfWork

variable {ω τ : Type}

/-- What a storage can be asked for. -/
inductive Request
  | start
  | save (e : Entity)
  | append (r : Record)
  | commit
  | rollback

namespace Request

/-- Whether a request leaves its transaction open, whatever it is answered. -/
def isStaging : Request → Bool
  | .save _ | .append _ => true
  | .start | .commit | .rollback => false

/-- Whether a request ends its transaction, whatever it is answered. -/
def isClosing : Request → Bool
  | .commit | .rollback => true
  | .start | .save _ | .append _ => false

/-- What a commit comes to when one of its requests fails. -/
def error : Request → Store.Error → Error
  | .commit, e => .commit e
  | _, e => .store e

/-- A request that stages something fails as the store does. -/
lemma error_of_isStaging {q : Request} (staging : q.isStaging = true) (e : Store.Error) :
    q.error e = .store e := by
  cases q <;> first | rfl | cases staging

end Request

/-- A call to a storage. -/
structure Call where
  /-- The number of the transaction. A call that opens one has the number that is next. -/
  transaction : Nat
  request : Request
  answer : Except Store.Error Unit

/-- Whether a call has opened a transaction. -/
def Call.isOpening (c : Call) : Bool :=
  match c.request, c.answer with
  | .start, .ok () => true
  | _, _ => false

/-- A world in which every call is written down. -/
structure Watched (ω : Type) where
  world : ω
  calls : List Call := []

namespace Watched

/-- How many transactions were opened. -/
def opened (w : Watched ω) : Nat :=
  w.calls.countP Call.isOpening

/-- The world that a call leads to, in which it is written down. -/
def note (w : Watched ω) (c : Call) (world : ω) : Watched ω :=
  ⟨world, w.calls ++ [c]⟩

end Watched

/-- A storage of which every call is written down. Its transactions carry their numbers. -/
def Storage.watched (p : Storage ω τ) : Storage (Watched ω) (Nat × τ) where
  clock w :=
    let (now, world) := p.clock w.world
    (now, { w with world })
  fresh w :=
    let (id, world) := p.fresh w.world
    (id, { w with world })
  start w :=
    match p.start w.world with
    | (.ok t, world) => (.ok (w.opened, t), w.note ⟨w.opened, .start, .ok ()⟩ world)
    | (.error e, world) => (.error e, w.note ⟨w.opened, .start, .error e⟩ world)
  save e t w :=
    let (answer, t', world) := p.save e t.2 w.world
    (answer, (t.1, t'), w.note ⟨t.1, .save e, answer⟩ world)
  append r t w :=
    let (answer, t', world) := p.append r t.2 w.world
    (answer, (t.1, t'), w.note ⟨t.1, .append r, answer⟩ world)
  commit t w :=
    let (answer, world) := p.commit t.2 w.world
    (answer, w.note ⟨t.1, .commit, answer⟩ world)
  rollback t w :=
    let (answer, world) := p.rollback t.2 w.world
    (answer, w.note ⟨t.1, .rollback, answer⟩ world)
  announce n w := { w with world := p.announce n w.world }

/-- The request of an attempt that fails, and why it does, if one fails. -/
abbrev Failure :=
  Option (Request × Store.Error)

/-- What some calls of a transaction come to. -/
def Failure.answer : Failure → Except Store.Error Unit
  | none => .ok ()
  | some (_, e) => .error e

/-- What a commit comes to. -/
def Failure.verdict : Failure → Except Error Unit
  | none => .ok ()
  | some (q, e) => .error (q.error e)

/-- Whether a transaction is open after an attempt to commit it. -/
def Failure.leavesOpen : Failure → Bool
  | none => false
  | some (q, _) => q.isStaging

/-- The calls of an attempt at some requests in one transaction: one for each request, in order, up
to the first that fails. -/
inductive Attempt (n : Nat) : List Request → List Call → Failure → Prop
  | done :
    Attempt n [] [] none
  | failed {q qs e} :
    Attempt n (q :: qs) [⟨n, q, .error e⟩] (some (q, e))
  | passed {q qs cs f} :
    Attempt n qs cs f →
    Attempt n (q :: qs) (⟨n, q, .ok ()⟩ :: cs) f

namespace Attempt

variable {n : Nat} {qs qs' : List Request} {cs cs' : List Call}

/-- Where no request fails the attempt goes on. -/
lemma append {f : Failure} (at_ : Attempt n qs cs none) (more : Attempt n qs' cs' f) :
    Attempt n (qs ++ qs') (cs ++ cs') f := by
  generalize none_ : (none : Failure) = g at at_
  induction at_ with
  | done => exact more
  | failed => cases none_
  | passed _ ih => exact .passed (ih none_)

/-- Where a request fails the attempt ends. -/
lemma append_failed {x : Request × Store.Error} (at_ : Attempt n qs cs (some x))
    (qs' : List Request) : Attempt n (qs ++ qs') cs (some x) := by
  generalize some_ : some x = f at at_
  induction at_ with
  | done => cases some_
  | failed => exact .failed
  | passed _ ih => exact .passed (ih some_)

/-- The request that fails is one of those attempted. -/
lemma mem {x : Request × Store.Error} (at_ : Attempt n qs cs (some x)) : x.1 ∈ qs := by
  generalize some_ : some x = f at at_
  induction at_ with
  | done => cases some_
  | failed =>
    cases some_
    exact List.mem_cons_self
  | passed _ ih => exact List.mem_cons_of_mem _ (ih some_)

end Attempt

/-- The requests that stage some entities and records. -/
def stagings (es : List Entity) (rs : List Record) : List Request :=
  es.map .save ++ rs.map .append

/-- What stages entities and records leaves the transaction open. -/
lemma isStaging_of_mem_stagings {es : List Entity} {rs : List Record} {q : Request}
    (mem : q ∈ stagings es rs) : q.isStaging = true := by
  obtain save | append := List.mem_append.1 mem
  · obtain ⟨e, -, rfl⟩ := List.mem_map.1 save
    rfl
  · obtain ⟨r, -, rfl⟩ := List.mem_map.1 append
    rfl

/-- The requests of a commit, if none of them fails. -/
def plan (u : UnitOfWork τ) (es : List Entity) (rs : List Record) : List Request :=
  (if u.isActive then [] else [.start]) ++ stagings es rs ++ [.commit]

/-- The number of the transaction that is open. -/
def current (u : UnitOfWork (Nat × τ)) : Option Nat :=
  u.transaction.map Prod.fst

/-- The number of the transaction that a commit uses. -/
def ordinal (u : UnitOfWork (Nat × τ)) (w : Watched ω) : Nat :=
  u.current.getD w.opened

/-- Which transaction a commit uses depends on no more than the calls so far. -/
lemma ordinal_congr (u : UnitOfWork (Nat × τ)) {w w' : Watched ω} (same : w'.calls = w.calls) :
    u.ordinal w' = u.ordinal w := by
  rw [ordinal, ordinal, Watched.opened, Watched.opened, same]

section Watched

variable {p : Storage ω τ}

/-- Calls that are written down one by one are an attempt together. -/
lemma attempt_eachUntilError {α : Type} (request : α → Request)
    {call : α → Nat × τ → Watched ω → Except Store.Error Unit × (Nat × τ) × Watched ω}
    (noted : ∀ a t w, (call a t w).2.1.1 = t.1 ∧
      (call a t w).2.2.calls = w.calls ++ [⟨t.1, request a, (call a t w).1⟩])
    {as : List α} {t t' : Nat × τ} {w w' : Watched ω} {answer}
    (called : eachUntilError call as t w = (answer, t', w')) :
    t'.1 = t.1 ∧ ∃ cs f, Attempt t.1 (as.map request) cs f ∧ w'.calls = w.calls ++ cs ∧
      answer = f.answer := by
  induction as generalizing t w with
  | nil =>
    cases called
    exact ⟨rfl, [], none, .done, (List.append_nil _).symm, rfl⟩
  | cons a as ih =>
    obtain ⟨same, calls⟩ := noted a t w
    unfold eachUntilError at called
    split at called
    · next t₁ w₁ first =>
      rw [first] at same calls
      obtain ⟨same', cs, f, at_, calls', answered⟩ := ih called
      rw [show t₁.1 = t.1 from same] at same' at_
      refine ⟨same', _, f, .passed at_, ?_, answered⟩
      rw [calls', calls, List.append_assoc]
      rfl
    · next first =>
      rw [first] at same calls
      cases called
      exact ⟨same, _, _, .failed, calls, rfl⟩

/-- Staging is an attempt to save the entities and then to append the records. -/
lemma attempt_stage {es rs} {t t' : Nat × τ} {w w' : Watched ω} {answer}
    (called : stage p.watched es rs t w = (answer, t', w')) :
    t'.1 = t.1 ∧ ∃ cs f, Attempt t.1 (stagings es rs) cs f ∧ w'.calls = w.calls ++ cs ∧
      answer = f.answer := by
  unfold stage at called
  split at called
  · next t₁ w₁ saved =>
    obtain ⟨same, cs, f, at_, calls, answered⟩ :=
      attempt_eachUntilError .save (fun _ _ _ => ⟨rfl, rfl⟩) saved
    obtain ⟨same', cs', f', at_', calls', answered'⟩ :=
      attempt_eachUntilError .append (fun _ _ _ => ⟨rfl, rfl⟩) called
    rw [same] at same' at_'
    obtain _ | _ := f
    · refine ⟨same', _, f', at_.append at_', ?_, answered'⟩
      rw [calls', calls, List.append_assoc]
    · cases answered
  · next saved =>
    obtain ⟨same, cs, f, at_, calls, answered⟩ :=
      attempt_eachUntilError .save (fun _ _ _ => ⟨rfl, rfl⟩) saved
    cases called
    obtain _ | x := f
    · cases answered
    · exact ⟨same, _, _, at_.append_failed _, calls, answered⟩

/-- A transaction that is opened has the number that was next. -/
lemma start_watched {w w' : Watched ω} {answer} (called : p.watched.start w = (answer, w')) :
    match answer with
    | .ok t => t.1 = w.opened ∧ w'.calls = w.calls ++ [⟨w.opened, .start, .ok ()⟩]
    | .error e => w'.calls = w.calls ++ [⟨w.opened, .start, .error e⟩] := by
  simp only [Storage.watched] at called
  split at called <;> cases called
  · exact ⟨rfl, rfl⟩
  · rfl

/-- A commit is written down with its answer. -/
lemma commit_watched (t : Nat × τ) (w : Watched ω) :
    (p.watched.commit t w).2.calls =
      w.calls ++ [⟨t.1, .commit, (p.watched.commit t w).1⟩] := rfl

/-- Opening a transaction is an attempt to do so if none is open. -/
lemma attempt_ensureOpen {u : UnitOfWork (Nat × τ)} {w w' : Watched ω} {answer}
    (called : u.ensureOpen p.watched w = (answer, w')) :
    ∃ cs f, Attempt (u.ordinal w) (if u.isActive then [] else [.start]) cs f ∧
      w'.calls = w.calls ++ cs ∧
      match answer with
      | .ok t => f = none ∧ t.1 = u.ordinal w
      | .error e => f = some (.start, e) ∧ u.transaction = none := by
  unfold ensureOpen at called
  unfold ordinal current isActive
  split at called
  · next t open_ =>
    cases called
    rw [open_]
    exact ⟨[], none, .done, (List.append_nil _).symm, rfl, rfl⟩
  · next closed =>
    rw [closed]
    have noted := start_watched called
    split at noted
    · exact ⟨_, none, .passed .done, noted.2, rfl, noted.1⟩
    · exact ⟨_, some (.start, _), .failed, noted, rfl, rfl⟩

/-- A write is an attempt at its plan. Its transaction stays open if staging fails. -/
lemma attempt_write {u u' : UnitOfWork (Nat × τ)} {es rs} {w w' : Watched ω} {answer}
    (called : u.write p.watched es rs w = (answer, u', w')) :
    ∃ cs f, Attempt (u.ordinal w) (u.plan es rs) cs f ∧ w'.calls = w.calls ++ cs ∧
      answer = f.verdict ∧ u'.current = if f.leavesOpen then some (u.ordinal w) else none := by
  -- The plan has three parts, and the first one that fails ends the attempt.
  unfold write at called
  unfold plan
  rw [List.append_assoc]
  split at called
  · next opening =>
    obtain ⟨cs, _, at_, calls, rfl, closed⟩ := attempt_ensureOpen opening
    cases called
    refine ⟨cs, _, at_.append_failed _, calls, rfl, ?_⟩
    simp [current, closed, Failure.leavesOpen, Request.isStaging]
  · next t w₁ opening =>
    obtain ⟨cs, _, at_, calls, rfl, number⟩ := attempt_ensureOpen opening
    split at called
    · next e t₂ w₂ staging =>
      obtain ⟨same, cs', f, staged, calls', failed⟩ := attempt_stage staging
      rw [number] at same staged
      cases called
      obtain _ | ⟨q, _⟩ := f
      · cases failed
      · cases failed
        have stages := isStaging_of_mem_stagings staged.mem
        refine ⟨_, _, at_.append (staged.append_failed _), ?_, ?_, ?_⟩
        · rw [calls', calls, List.append_assoc]
        · rw [Failure.verdict, Request.error_of_isStaging stages]
        · simp [current, same, Failure.leavesOpen, stages]
    · next t₂ w₂ staging =>
      obtain ⟨same, cs', f, staged, calls', passed⟩ := attempt_stage staging
      rw [number] at same staged
      obtain _ | _ := f
      · have noted := commit_watched (p := p) t₂ w₂
        generalize p.watched.commit t₂ w₂ = ending at called noted
        obtain ⟨answer, w₃⟩ := ending
        rw [same] at noted
        have calls (c : Call) (last : w₃.calls = w₂.calls ++ [c]) :
            w₃.calls = w.calls ++ (cs ++ (cs' ++ [c])) := by
          rw [last, calls', calls, List.append_assoc, List.append_assoc]
        cases answer <;> cases called
        · exact ⟨_, _, at_.append (staged.append .failed), calls _ noted, rfl, rfl⟩
        · exact ⟨_, _, at_.append (staged.append (.passed .done)), calls _ noted, rfl, rfl⟩
      · cases passed

end Watched

end Outbox.UnitOfWork
