import Mathlib.Algebra.GroupWithZero.Nat
import Mathlib.Data.List.Nodup
import Outbox.Proofs.Store

/-!
# Tries that are left

Under a ceiling every record may fail only so often until it is left alone. The tries that the
records of a store have left, added up, measure the work that the store can still make. Whatever a
worker writes of a record that is still to be relayed, the record has fewer tries left than before
(`Record.Spends`), and nothing is left to be relayed when no record has any
(`triesLeft_eq_zero_iff`).
-/

namespace Outbox

/-- If no summand grew and some became less, so did the sum. -/
lemma sum_map_add_length_le {κ : Type} [DecidableEq κ] {keys some : List κ} {f g : κ → Nat}
    (distinct : keys.Nodup) (distinct' : some.Nodup) (among : ∀ k ∈ some, k ∈ keys)
    (le : ∀ k, g k ≤ f k) (lt : ∀ k ∈ some, g k < f k) :
    (keys.map g).sum + some.length ≤ (keys.map f).sum := by
  have length : some.length = keys.countP (· ∈ some) := by
    rw [List.countP_eq_length_filter]
    refine ((List.perm_ext_iff_of_nodup distinct' (distinct.filter _)).2 fun k => ?_).length_eq
    simpa using among k
  rw [length]
  clear distinct among length
  induction keys with
  | nil => exact Nat.le_refl _
  | cons k keys ih =>
    rw [List.map_cons, List.map_cons, List.sum_cons, List.sum_cons, List.countP_cons]
    have here : g k + (if decide (k ∈ some) = true then 1 else 0) ≤ f k := by
      split
      · next mem => exact lt k (of_decide_eq_true mem)
      · exact le k
    omega

namespace Record

variable {r r' : Record} {ceiling : UInt32}

/-- How often a record may still fail until it is left alone. -/
def triesLeft (r : Record) (ceiling : UInt32) : Nat :=
  if r.isEligible ceiling then ceiling.toNat - r.retryCount.toNat else 0

/-- A record that is not to be relayed any more has no tries left. -/
lemma triesLeft_of_not_isEligible (no : r.isEligible ceiling = false) :
    r.triesLeft ceiling = 0 := by
  rw [triesLeft, no]
  rfl

/-- A record has no more tries left than the ceiling lies above its retries. -/
lemma triesLeft_le (r : Record) (ceiling : UInt32) :
    r.triesLeft ceiling ≤ ceiling.toNat - r.retryCount.toNat := by
  unfold triesLeft
  split
  · exact Nat.le_refl _
  · exact Nat.zero_le _

/-- A record that is to be relayed failed less often than the ceiling says. -/
lemma retryCount_lt (eligible : r.isEligible ceiling = true) :
    r.retryCount.toNat < ceiling.toNat := by
  unfold isEligible at eligible
  rw [Bool.and_eq_true, decide_eq_true_eq] at eligible
  exact UInt32.lt_iff_toNat_lt.1 eligible.2

/-- A record that is to be relayed has a try left. -/
lemma triesLeft_pos (eligible : r.isEligible ceiling = true) : 0 < r.triesLeft ceiling := by
  have below := retryCount_lt eligible
  rw [triesLeft, if_pos eligible]
  omega

/-- A record that was to be relayed became another one, which has fewer tries left. -/
structure Spends (ceiling : UInt32) (r r' : Record) : Prop where
  fewer : r'.triesLeft ceiling < r.triesLeft ceiling
  below : r'.retryCount.toNat ≤ ceiling.toNat

/-- If nothing is left to be done, nothing is left to be tried. -/
lemma Spends.of_not_isEligible (eligible : r.isEligible ceiling = true)
    (no : r'.isEligible ceiling = false) (same : r'.retryCount = r.retryCount) :
    r.Spends ceiling r' where
  fewer := by
    rw [triesLeft_of_not_isEligible no]
    exact triesLeft_pos eligible
  below := by
    rw [same]
    exact Nat.le_of_lt (retryCount_lt eligible)

/-- Once a record is processed no tries are left. -/
lemma spends_markProcessed (eligible : r.isEligible ceiling = true) (at_ : Time.Instant) :
    r.Spends ceiling (r.markProcessed at_) := by
  refine .of_not_isEligible eligible ?_ ?_
  · rw [isEligible, processed_markProcessed]
    rfl
  · unfold markProcessed markProcessed?
    split <;> rfl

/-- Once a record is dead-lettered no tries are left. -/
lemma spends_markFailed (eligible : r.isEligible ceiling = true) (reason : String)
    (at_ : Time.Instant) : r.Spends ceiling (r.markFailed reason at_) := by
  refine .of_not_isEligible eligible ?_ ?_
  · unfold markFailed markFailed?
    split
    · next settled =>
      rw [Option.getD_none, isEligible_eq_false_iff]
      exact (Bool.or_eq_true_iff.1 settled).imp_right .inl
    · exact isEligible_eq_false_iff.2 (.inr (.inl rfl))
  · unfold markFailed markFailed?
    split <;> rfl

/-- Counting a retry below the ceiling takes one try and never goes past the ceiling. -/
lemma spends_countRetry (eligible : r.isEligible ceiling = true) (reason : String)
    (next : Time.Instant) : r.Spends ceiling (r.countRetry reason next) := by
  have below := retryCount_lt eligible
  have unprocessed : r.processed = false := by
    cases processed : r.processed with
    | false => rfl
    | true => simp [isEligible, processed] at eligible
  have one := (descends_countRetry r reason next).retries
    ((processed_countRetry r reason next).trans unprocessed)
  have most := ceiling.toNat_lt
  have left := (r.countRetry reason next).triesLeft_le ceiling
  have before : r.triesLeft ceiling = ceiling.toNat - r.retryCount.toNat := if_pos eligible
  exact ⟨by omega, by omega⟩

end Record

namespace Store

variable {s s' s'' : Store} {ceiling : UInt32}

/-- How often the records of a store may still fail, all together, until all are left alone. -/
def triesLeft (s : Store) (ceiling : UInt32) : Nat :=
  (s.records.items.map (·.triesLeft ceiling)).sum

/-- How often the record with an identifier may still fail, if there is one. -/
def triesLeftOf (s : Store) (ceiling : UInt32) (id : Identifier) : Nat :=
  match s.get? id with
  | none => 0
  | some r => r.triesLeft ceiling

/-- A record that is stored has its own tries left. -/
lemma triesLeftOf_some {id : Identifier} {r : Record} (found : s.get? id = some r) :
    s.triesLeftOf ceiling id = r.triesLeft ceiling := by
  rw [triesLeftOf, found]

/-- The tries of a store are those of its identifiers, all together. -/
lemma triesLeft_eq (s : Store) (ceiling : UInt32) :
    s.triesLeft ceiling = (s.records.keys.map (s.triesLeftOf ceiling)).sum := by
  rw [triesLeft, Keyed.keys, List.map_map]
  refine congrArg List.sum (List.map_congr_left fun r mem => ?_)
  exact (triesLeftOf_some (Keyed.find?_key mem)).symm

/-- No tries are left if and only if no record is to be relayed any more. -/
lemma triesLeft_eq_zero_iff :
    s.triesLeft ceiling = 0 ↔ ∀ r ∈ s.records.items, r.isEligible ceiling = false := by
  rw [triesLeft, List.sum_eq_zero_iff_forall_eq_nat, List.forall_mem_map]
  refine forall₂_congr fun r _ => ⟨fun none => ?_, Record.triesLeft_of_not_isEligible⟩
  cases eligible : r.isEligible ceiling with
  | false => rfl
  | true => exact absurd none (Nat.ne_of_gt (Record.triesLeft_pos eligible))

/-- A fetch with a limit brings nothing if and only if no tries are left. -/
lemma fetch_eq_nil_iff {now : Time.Instant} (due : ∀ r ∈ s.records.items, r.isDue now = true)
    {limit : Nat} (room : 0 < limit) :
    s.fetch now limit ceiling = [] ↔ s.triesLeft ceiling = 0 := by
  rw [triesLeft_eq_zero_iff, ← List.length_eq_zero_iff, length_fetch_of_isDue due,
    Nat.min_eq_zero_iff, or_iff_right (Nat.ne_of_gt room), List.countP_eq_zero]
  simp only [Bool.not_eq_true]

/-- A store became another one in which every record has as many tries less as `spent` says, or
still fewer, and no record failed more often than the ceiling allows, unless it had before. -/
structure Spends (ceiling : UInt32) (spent : Identifier → Nat) (s s' : Store) : Prop where
  keys : s'.records.keys = s.records.keys
  tries : ∀ id, spent id + s'.triesLeftOf ceiling id ≤ s.triesLeftOf ceiling id
  below : ∀ ⦃id r⦄, s.get? id = some r → ∃ r', s'.get? id = some r' ∧
    r'.retryCount.toNat ≤ max r.retryCount.toNat ceiling.toNat

/-- A store that stays as it is has spent nothing. -/
lemma Spends.refl (s : Store) (ceiling : UInt32) : Spends ceiling (fun _ => 0) s s where
  keys := rfl
  tries _ := Nat.le_of_eq (Nat.zero_add _)
  below _ r found := ⟨r, found, Nat.le_max_left ..⟩

/-- What two stretches spend they spend together. -/
lemma Spends.trans {spent spent' : Identifier → Nat} (sp : Spends ceiling spent s s')
    (sp' : Spends ceiling spent' s' s'') :
    Spends ceiling (fun id => spent id + spent' id) s s'' where
  keys := sp'.keys.trans sp.keys
  tries id := by
    have before := sp.tries id
    have after := sp'.tries id
    omega
  below id r found := by
    obtain ⟨r', found', below⟩ := sp.below found
    obtain ⟨r'', found'', below'⟩ := sp'.below found'
    exact ⟨r'', found'', by omega⟩

/-- If some records have fewer tries left, the store has as many less. -/
lemma Spends.fewer {spent : Identifier → Nat} (sp : Spends ceiling spent s s')
    {ids : List Identifier} (distinct : ids.Nodup)
    (fewer : ∀ id ∈ ids, s'.triesLeftOf ceiling id < s.triesLeftOf ceiling id) :
    s'.triesLeft ceiling + ids.length ≤ s.triesLeft ceiling := by
  rw [triesLeft_eq, triesLeft_eq, sp.keys]
  refine sum_map_add_length_le s.records.distinct distinct (fun id mem => ?_) (fun id => ?_) fewer
  · have some := Nat.lt_of_le_of_lt (Nat.zero_le _) (fewer id mem)
    rw [triesLeftOf] at some
    split at some
    · exact absurd some (Nat.lt_irrefl 0)
    · next r found =>
      obtain ⟨here, rfl⟩ := Keyed.find?_eq_some_iff.1 found
      exact List.mem_map_of_mem here
  · have tries := sp.tries id
    omega

end Store

end Outbox
