import Mathlib.Tactic.Lemma
import Outbox.Breaker
import Outbox.Proofs.Record

/-!
# The breaker and its history

What a breaker is when batches came to some verdicts, of which it keeps neither the list nor the
number. `Cooling` says by the list alone when batches must be skipped, and `Follows` that a breaker
goes by it. Asking a breaker, a success and a failure keep that, each in its turn.
-/

namespace Outbox.Breaker

/-- What a batch comes to. -/
inductive Verdict
  | good
  /-- It failed, which was noted at an instant. -/
  | failed (at_ : Time.Instant)
  deriving DecidableEq

/-- Whether a batch failed. -/
def Verdict.isFailed : Verdict → Bool
  | good => false
  | failed _ => true

/-- Of verdicts, the latest first, the last ones were failures, as many as the threshold. -/
def Strained (threshold : Nat) (vs : List Verdict) : Prop :=
  threshold ≤ vs.length ∧ ∀ v ∈ vs.take threshold, v.isFailed = true

/-- The failures behind which there is no success. -/
def streak (vs : List Verdict) : List Verdict :=
  vs.takeWhile Verdict.isFailed

/-- One more failure makes the streak longer by one. -/
lemma length_streak_failed (at_ : Time.Instant) (vs : List Verdict) :
    (streak (.failed at_ :: vs)).length = (streak vs).length + 1 :=
  congrArg List.length (List.takeWhile_cons_of_pos rfl)

/-- The last verdicts were failures if no success is among them. -/
lemma strained_iff {n : Nat} {vs : List Verdict} : Strained n vs ↔ n ≤ (streak vs).length := by
  unfold Strained streak
  induction vs generalizing n with
  | nil => simp
  | cons v vs ih =>
    cases n with
    | zero => simp
    | succ n =>
      rw [List.take_succ_cons, List.forall_mem_cons, List.takeWhile_cons]
      cases v with
      | good => simp [Verdict.isFailed]
      | failed at_ => simp [Verdict.isFailed, ← ih]

instance (n : Nat) (vs : List Verdict) : Decidable (Strained n vs) :=
  decidable_of_iff _ strained_iff.symm

/-- The verdicts since the last reset, the latest first. Before a batch that comes after so many
failures the breaker was reset. -/
def sinceReset (threshold : Nat) : List Verdict → List Verdict
  | [] => []
  | v :: vs =>
    v :: if Strained threshold (sinceReset threshold vs) then [] else sinceReset threshold vs

/-- Whether batches must be skipped at an instant: since the last reset so many batches in a row
failed, and no more than the timeout has passed since the last of them. -/
def Cooling (threshold : Nat) (reset : Time.Span) (vs : List Verdict) (now : Time.Instant) : Prop :=
  Strained threshold (sinceReset threshold vs) ∧
    ∃ at_, (sinceReset threshold vs).head? = some (.failed at_) ∧ now.elapsed at_ ≤ reset

/-- What came since the last reset is the latest part of all that came. -/
lemma sinceReset_prefix (n : Nat) (vs : List Verdict) : sinceReset n vs <+: vs := by
  induction vs with
  | nil => exact List.nil_prefix
  | cons v vs ih =>
    rw [sinceReset, List.cons_prefix_cons]
    refine ⟨rfl, ?_⟩
    split
    · exact List.nil_prefix
    · exact ih

/-- Older verdicts do not relieve a breaker whose latest ones strain it. -/
lemma Strained.of_prefix {n : Nat} {vs vs' : List Verdict} (st : Strained n vs) (pre : vs <+: vs') :
    Strained n vs' := by
  obtain ⟨rest, rfl⟩ := pre
  obtain ⟨le, failed⟩ := st
  refine ⟨by rw [List.length_append]; omega, ?_⟩
  rwa [List.take_append_of_le_length le]

/-- Once the last verdicts demand a reset, the verdicts from then on count anew. -/
lemma sinceReset_append {n : Nat} {us vs : List Verdict} (st : Strained n (sinceReset n vs))
    (some : us ≠ []) : sinceReset n (us ++ vs) <+: us := by
  induction us with
  | nil => exact absurd rfl some
  | cons u us ih =>
    rw [List.cons_append, sinceReset, List.cons_prefix_cons]
    refine ⟨rfl, ?_⟩
    split
    · exact List.nil_prefix
    · next calm =>
      cases us with
      | nil => exact absurd st calm
      | cons u' us => exact ih nofun

/-- Nothing that happened strains no breaker. -/
lemma not_strained_nil {n : Nat} (pos : 0 < n) : ¬ Strained n [] := by
  rintro ⟨le, -⟩
  exact absurd le (Nat.not_le.2 pos)

variable {threshold : UInt32} {reset : Time.Span} {vs : List Verdict} {b b' : Breaker}

/-- A breaker that keeps batches back stays as it is. It does so for no more than the timeout since
the last failure that it noted. -/
lemma ask_true {now} (asked : b.ask reset now = (true, b')) :
    b' = b ∧ ∃ at_, b.lastFailure = some at_ ∧ now.elapsed at_ ≤ reset := by
  unfold Breaker.ask hasCooled at asked
  split at asked
  · cases asked
  · cases last : b.lastFailure with
    | none =>
      rw [last] at asked
      cases asked
    | some at_ =>
      simp only [last, decide_eq_true_eq] at asked
      split at asked
      · cases asked
      · next warm =>
        cases asked
        exact ⟨rfl, at_, rfl, Int.not_lt.1 warm⟩

/-- A breaker that was asked has noted no other failure than before. -/
lemma lastFailure_ask {now opened at_} (asked : b.ask reset now = (opened, b'))
    (last : b'.lastFailure = some at_) : b.lastFailure = some at_ := by
  unfold Breaker.ask at asked
  split at asked
  · cases asked
    exact last
  · split at asked <;> cases asked
    · cases last
    · exact last

/-- A breaker between two batches goes by the verdicts before. -/
structure Follows (threshold : UInt32) (vs : List Verdict) (b : Breaker) : Prop where
  opened : b.opened = true ↔ Strained threshold.toNat (sinceReset threshold.toNat vs)
  since : b.opened = true → ∃ at_,
    (sinceReset threshold.toNat vs).head? = some (.failed at_) ∧ b.lastFailure = some at_
  failures : b.opened = false →
    b.failures.toNat = (streak (sinceReset threshold.toNat vs)).length

/-- A breaker that let a batch through: it is closed, and has counted the failures since it was
reset, which may be just now. -/
structure Passed (threshold : UInt32) (vs : List Verdict) (b : Breaker) : Prop where
  closed : b.opened = false
  few : b.failures.toNat < threshold.toNat
  failures : b.failures.toNat =
    (streak (if Strained threshold.toNat (sinceReset threshold.toNat vs) then []
      else sinceReset threshold.toNat vs)).length

/-- A new breaker has seen nothing. -/
lemma follows_initial (pos : 0 < threshold.toNat) : Follows threshold [] initial where
  opened := iff_of_false nofun (not_strained_nil pos)
  since := nofun
  failures _ := rfl

/-- Asking a breaker tells whether it is cooling. One that is stays as it is, and any other lets the
batch through. -/
lemma Follows.ask (fl : Follows threshold vs b) (pos : 0 < threshold.toNat) {now opened}
    (asked : b.ask reset now = (opened, b')) :
    (opened = true ↔ Cooling threshold.toNat reset vs now) ∧ (opened = true → b' = b) ∧
      (opened = false → Passed threshold vs b') := by
  unfold Breaker.ask hasCooled at asked
  -- A closed breaker lets every batch through, and an open one only once its timeout is over.
  cases here : b.opened with
  | false =>
    have calm : ¬ Strained threshold.toNat (sinceReset threshold.toNat vs) := by
      rw [← fl.opened, here]
      nofun
    simp only [here, Bool.not_false, if_true] at asked
    cases asked
    refine ⟨iff_of_false nofun fun cool => calm cool.1, nofun, fun _ => ⟨here, ?_, ?_⟩⟩
    · rw [fl.failures here]
      exact Nat.not_le.1 fun le => calm (strained_iff.2 le)
    · rw [if_neg calm]
      exact fl.failures here
  | true =>
    obtain ⟨at_, head, last⟩ := fl.since here
    have strained := fl.opened.1 here
    have cooling : Cooling threshold.toNat reset vs now ↔ ¬ reset < now.elapsed at_ := by
      constructor
      · rintro ⟨-, at', head', le⟩
        cases head.symm.trans head'
        exact Int.not_lt.2 le
      · exact fun le => ⟨strained, at_, head, Int.not_lt.1 le⟩
    simp only [here, last, Bool.not_true, Bool.false_eq_true, if_false, decide_eq_true_eq] at asked
    rw [cooling]
    split at asked
    · next cooled =>
      cases asked
      refine ⟨iff_of_false nofun fun still => still cooled, nofun, fun _ => ⟨rfl, pos, ?_⟩⟩
      rw [if_pos strained]
      rfl
    · next warm =>
      cases asked
      exact ⟨iff_of_true rfl warm, fun _ => rfl, nofun⟩

/-- A success after some verdicts closes the breaker and clears its count. -/
lemma Passed.recordSuccess (ps : Passed threshold vs b) (pos : 0 < threshold.toNat) :
    Follows threshold (.good :: vs) b.recordSuccess where
  opened := by
    refine iff_of_false (fun opened => absurd (ps.closed.symm.trans opened) nofun) fun st => ?_
    exact absurd (strained_iff.1 st) (Nat.not_le.2 pos)
  since opened := absurd (ps.closed.symm.trans opened) nofun
  failures _ := rfl

/-- A breaker that counts a failure has counted all of the streak. -/
lemma Passed.failures_recordFailure (ps : Passed threshold vs b) (now at_ : Time.Instant) :
    (b.recordFailure now).failures.toNat =
      (streak (sinceReset threshold.toNat (.failed at_ :: vs))).length := by
  have lt := threshold.toNat_lt
  have few := ps.few
  rw [sinceReset, length_streak_failed, ← ps.failures, Breaker.recordFailure, toNat_saturatingSucc]
  omega

/-- A failed batch that makes the streak long enough opens the breaker. -/
lemma Passed.trip (ps : Passed threshold vs b) {now : Time.Instant}
    (many : threshold ≤ (b.recordFailure now).failures) (at_ : Time.Instant) :
    Follows threshold (.failed at_ :: vs) ((b.recordFailure now).trip at_) where
  opened := by
    refine iff_of_true rfl (strained_iff.2 ?_)
    rw [← ps.failures_recordFailure now]
    exact many
  since _ := ⟨at_, rfl, rfl⟩
  failures := nofun

/-- A failed batch that leaves the streak too short leaves the breaker closed. -/
lemma Passed.recordFailure (ps : Passed threshold vs b) {now : Time.Instant}
    (few : ¬ threshold ≤ (b.recordFailure now).failures) (at_ : Time.Instant) :
    Follows threshold (.failed at_ :: vs) (b.recordFailure now) where
  opened := by
    refine iff_of_false (fun opened => absurd (ps.closed.symm.trans opened) nofun) fun st => few ?_
    have le := strained_iff.1 st
    rw [← ps.failures_recordFailure now] at le
    exact le
  since opened := absurd (ps.closed.symm.trans opened) nofun
  failures _ := ps.failures_recordFailure now at_

end Outbox.Breaker
