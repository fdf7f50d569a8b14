import Mathlib.Data.Set.Card
import Mathlib.Tactic.Lemma
import Outbox.Window

/-!
# What a window remembers

Each operation of a window in terms of the look-ups of its entries. An entry is lost only when it is
looked up or purged after it has expired, and none comes in but for a record that was published.
-/

namespace Outbox.Window

/-- A remembered record is found with the present instant. -/
lemma find?_remember (w : Window) (now : Time.Instant) (id j : Identifier) :
    (w.remember now id).seen.find? j = if j = id then some (id, now) else w.seen.find? j :=
  Keyed.find?_put

/-- A purge leaves the entries that still count. -/
lemma find?_purge (w : Window) (now : Time.Instant) (j : Identifier) :
    (w.purge now).seen.find? j = (w.seen.find? j).filter fun e => w.isFresh now e.2 :=
  Keyed.find?_filter

/-- A record is known if its entry still counts, and the look-up leaves the window as it is. -/
lemma lookUp_true {w w' : Window} {now id} (known : w.lookUp now id = (true, w')) :
    w' = w ∧ ∃ e, w.seen.find? id = some e ∧ w.isFresh now e.2 = true := by
  unfold lookUp at known
  split at known
  · cases known
  · next at_ found =>
    split at known
    · next fresh =>
      cases known
      exact ⟨rfl, _, found, fresh⟩
    · cases known

/-- A record is unknown if it has no entry that still counts, and the look-up forgets it alone. -/
lemma lookUp_false {w w' : Window} {now id} (unknown : w.lookUp now id = (false, w')) :
    w'.length = w.length ∧ (∀ e, w.seen.find? id = some e → w.isFresh now e.2 = false) ∧
      ∀ j, w'.seen.find? j = if j = id then none else w.seen.find? j := by
  unfold lookUp at unknown
  split at unknown
  · next none =>
    cases unknown
    refine ⟨rfl, by simp [none], fun j => ?_⟩
    split
    · next same => rw [same, none]
    · rfl
  · next found =>
    split at unknown
    · cases unknown
    · next stale =>
      cases unknown
      refine ⟨rfl, ?_, fun j => Keyed.find?_remove⟩
      rintro e at_
      cases found.symm.trans at_
      simpa using stale

end Outbox.Window

/-!
## Sliding windows

What a window knows is a matter of its past alone. Whatever was looked up and purged in between, a
record is known if less than the window's length has passed since it was last remembered, and after
a purge these records are all that is left (`run_slides`). Each entry stands for the latest time
that its record was remembered, and a record without an entry was expired when it lost it
(`Follows`).
-/

namespace Outbox.Window

/-- What can be done with a window. -/
inductive Act
  | remember (id : Identifier)
  | lookUp (id : Identifier)
  | purge
  | size

/-- An act, and the instant that it reads off the clock. -/
structure Event where
  now : Time.Instant
  act : Act

/-- The window after an event. -/
def step (w : Window) (e : Event) : Window :=
  match e.act with
  | .remember id => w.remember e.now id
  | .lookUp id => (w.lookUp e.now id).2
  | .purge => w.purge e.now
  | .size => w

/-- The window after some events. -/
def run (w : Window) (es : List Event) : Window :=
  es.foldl step w

/-- The instant at which an event remembers a record, if it does. -/
def Event.remembers? (e : Event) (id : Identifier) : Option Time.Instant :=
  match e.act with
  | .remember j => if j = id then some e.now else none
  | _ => none

/-- What is remembered last of a record is when it was remembered. -/
@[simp] lemma Event.remembers?_remember (now : Time.Instant) (id j : Identifier) :
    (⟨now, .remember id⟩ : Event).remembers? j = if j = id then some now else none := by
  simp only [remembers?, eq_comm]

/-- The instant at which a record was remembered last. -/
def lastRemembered (past : List Event) (id : Identifier) : Option Time.Instant :=
  past.reverse.findSome? (·.remembers? id)

/-- Time does not go back, and no leap second is read. -/
structure Steady (ts : List Time.Instant) : Prop where
  forward : ts.Pairwise (· ≤ ·)
  noLeap : ∀ t ∈ ts, t.isLeap = false

/-- What was remembered last is what the last event remembers, or what was before. -/
lemma lastRemembered_concat (past : List Event) (e : Event) (id : Identifier) :
    lastRemembered (past ++ [e]) id = (e.remembers? id).or (lastRemembered past id) := by
  rw [lastRemembered, List.reverse_append, List.findSome?_append, List.reverse_singleton,
    List.findSome?_singleton]
  rfl

/-- A record was last remembered at an instant of the past. -/
lemma mem_of_lastRemembered {past : List Event} {id at_} (last : lastRemembered past id = some at_) :
    at_ ∈ past.map Event.now := by
  obtain ⟨e, mem, here⟩ := List.exists_of_findSome?_eq_some last
  have now : e.now = at_ := by
    unfold Event.remembers? at here
    split at here
    · split at here <;> cases here
      rfl
    · cases here
  exact List.mem_map.2 ⟨e, List.mem_reverse.1 mem, now⟩

/-- What was expired stays so. -/
lemma isFresh_mono {w : Window} {now now' at_ : Time.Instant} (leap : now.isLeap = false)
    (leap' : now'.isLeap = false) (leapAt : at_.isLeap = false) (le : now ≤ now')
    (fresh : w.isFresh now' at_ = true) : w.isFresh now at_ = true := by
  have le := (Time.Instant.rank_le_iff_total_le leap leap').1 le
  unfold isFresh at fresh ⊢
  rw [decide_eq_true_eq, Time.Span.lt_iff] at fresh ⊢
  rw [Time.Instant.nanoseconds_elapsed leap' leapAt] at fresh
  rw [Time.Instant.nanoseconds_elapsed leap leapAt]
  omega

/-- A window after the events of its past. -/
structure Follows (length : Time.Span) (past : List Event) (w : Window) : Prop where
  length : w.length = length
  latest : ∀ id x, w.seen.find? id = some x → lastRemembered past id = some x.2
  /-- A record that was remembered but has no entry was found to be expired. -/
  lost : ∀ id at_, lastRemembered past id = some at_ → w.seen.find? id = none →
    ∃ e ∈ past, w.isFresh e.now at_ = false

namespace Follows

variable {length : Time.Span} {past : List Event} {w w' : Window} {e : Event}

/-- Nothing was remembered yet. -/
lemma nil : Follows length [] (.ofLength length) where
  length := rfl
  latest _ _ found := by cases found
  lost _ _ last := by cases last

/-- An event that remembers nothing may take out what is expired. -/
lemma drop (fl : Follows length past w) (quiet : ∀ id, e.remembers? id = none)
    (len : w'.length = w.length)
    (kept : ∀ id x, w'.seen.find? id = some x → w.seen.find? id = some x)
    (dropped : ∀ id x, w.seen.find? id = some x → w'.seen.find? id = none →
      w.isFresh e.now x.2 = false) :
    Follows length (past ++ [e]) w' where
  length := len.trans fl.length
  latest id x found := by
    rw [lastRemembered_concat, quiet, Option.none_or]
    exact fl.latest id x (kept id x found)
  lost id at_ last gone := by
    rw [lastRemembered_concat, quiet, Option.none_or] at last
    have same (now) : w'.isFresh now at_ = w.isFresh now at_ := by rw [isFresh, isFresh, len]
    cases found : w.seen.find? id with
    | none =>
      obtain ⟨e', mem, stale⟩ := fl.lost id at_ last found
      exact ⟨e', List.mem_append_left _ mem, (same _).trans stale⟩
    | some x =>
      cases last.symm.trans (fl.latest id x found)
      exact ⟨e, List.mem_append_right _ List.mem_cons_self, (same _).trans (dropped id x found gone)⟩

/-- The latest time that a record is remembered counts. -/
lemma remember {now id} (fl : Follows length past w) :
    Follows length (past ++ [⟨now, .remember id⟩]) (w.remember now id) where
  length := fl.length
  latest j x found := by
    rw [find?_remember] at found
    rw [lastRemembered_concat, Event.remembers?_remember]
    split at found
    · next same =>
      cases found
      rw [if_pos same, Option.some_or]
    · next other =>
      rw [if_neg other, Option.none_or]
      exact fl.latest j x found
  lost j at_ last gone := by
    rw [find?_remember] at gone
    split at gone
    · cases gone
    · next other =>
      rw [lastRemembered_concat, Event.remembers?_remember, if_neg other, Option.none_or] at last
      obtain ⟨e, mem, stale⟩ := fl.lost j at_ last gone
      exact ⟨e, List.mem_append_left _ mem, stale⟩

/-- A window follows its past from event to event. -/
lemma step (fl : Follows length past w) (e : Event) : Follows length (past ++ [e]) (w.step e) := by
  obtain ⟨now, act⟩ := e
  -- What is remembered comes in; all other calls only drop what has expired.
  cases act with
  | remember id => exact fl.remember
  | lookUp id =>
    generalize looked : w.lookUp now id = next
    obtain ⟨known, w'⟩ := next
    have stepped : w.step ⟨now, .lookUp id⟩ = w' := congrArg Prod.snd looked
    rw [stepped]
    cases known with
    | true =>
      obtain ⟨rfl, -⟩ := lookUp_true looked
      exact fl.drop (fun _ => rfl) rfl (fun _ _ found => found) fun _ _ found gone => by
        cases found.symm.trans gone
    | false =>
      obtain ⟨len, stale, left⟩ := lookUp_false looked
      apply fl.drop (fun _ => rfl) len
      · intro j x found
        rw [left] at found
        split at found
        · cases found
        · exact found
      · intro j x found gone
        rw [left] at gone
        split at gone
        · next same => exact stale x (same ▸ found)
        · cases found.symm.trans gone
  | purge =>
    have len : (w.purge now).length = w.length := rfl
    apply fl.drop (fun _ => rfl) len
    · intro j x found
      rw [find?_purge] at found
      exact (Option.filter_eq_some_iff.1 found).1
    · intro j x found gone
      rw [find?_purge, found] at gone
      simpa using gone
  | size =>
    exact fl.drop (fun _ => rfl) rfl (fun _ _ found => found) fun _ _ found gone => by
      cases found.symm.trans gone

/-- Every run of calls keeps a window in step with its past. -/
lemma run (fl : Follows length past w) (es : List Event) :
    Follows length (past ++ es) (w.run es) := by
  induction es generalizing past w with
  | nil => rwa [List.append_nil]
  | cons e es ih =>
    have rest := ih (fl.step e)
    rwa [List.append_assoc] at rest

/-- While time goes on, a record has an entry that counts if and only if it was last remembered
within the length of the window. -/
lemma exists_fresh_iff {now : Time.Instant} (fl : Follows length past w)
    (st : Steady (past.map Event.now ++ [now])) (id : Identifier) :
    (∃ x, w.seen.find? id = some x ∧ w.isFresh now x.2 = true) ↔
      ∃ at_, lastRemembered past id = some at_ ∧ now.elapsed at_ < length := by
  have counts (at_) : w.isFresh now at_ = true ↔ now.elapsed at_ < length := by
    rw [isFresh, fl.length, decide_eq_true_eq]
  constructor
  · rintro ⟨x, found, fresh⟩
    exact ⟨x.2, fl.latest id x found, (counts _).1 fresh⟩
  · rintro ⟨at_, last, lt⟩
    have fresh := (counts at_).2 lt
    cases found : w.seen.find? id with
    | some x =>
      cases last.symm.trans (fl.latest id x found)
      exact ⟨x, rfl, fresh⟩
    | none =>
      obtain ⟨e, mem, stale⟩ := fl.lost id at_ last found
      have here : e.now ∈ past.map Event.now := List.mem_map_of_mem mem
      have le := (List.pairwise_append.1 st.forward).2.2 _ here now List.mem_cons_self
      have noLeap (t) (mem : t ∈ past.map Event.now) : t.isLeap = false :=
        st.noLeap t (List.mem_append_left _ mem)
      have leap := st.noLeap now (List.mem_append_right _ List.mem_cons_self)
      have early := isFresh_mono (noLeap _ here) leap (noLeap _ (mem_of_lastRemembered last)) le fresh
      rw [stale] at early
      cases early

end Follows

/-- A record is known if and only if it has an entry that counts. -/
lemma lookUp_eq_true_iff {w : Window} {now : Time.Instant} {id : Identifier} :
    (w.lookUp now id).1 = true ↔ ∃ x, w.seen.find? id = some x ∧ w.isFresh now x.2 = true := by
  generalize looked : w.lookUp now id = next
  obtain ⟨known, w'⟩ := next
  cases known with
  | true => exact ⟨fun _ => (lookUp_true looked).2, fun _ => rfl⟩
  | false =>
    refine ⟨nofun, ?_⟩
    rintro ⟨x, found, fresh⟩
    rw [(lookUp_false looked).2.1 x found] at fresh
    cases fresh

/-- A purge leaves as many entries as there are records with an entry that counts. -/
lemma size_purge (w : Window) (now : Time.Instant) :
    (w.purge now).size =
      {id | ∃ x, w.seen.find? id = some x ∧ w.isFresh now x.2 = true}.ncard := by
  have nodup : (w.purge now).seen.keys.Nodup := (w.purge now).seen.distinct
  have keys : {id | ∃ x, w.seen.find? id = some x ∧ w.isFresh now x.2 = true} =
      ((w.purge now).seen.keys.toFinset : Set Identifier) := by
    ext id
    have absent : (w.purge now).seen.find? id = none ↔ id ∉ (w.purge now).seen.keys :=
      Keyed.find?_eq_none_iff
    rw [List.coe_toFinset, Set.mem_ofPred_eq, Set.mem_ofPred_eq, ← not_iff_not, ← absent,
      find?_purge, Option.filter_eq_none_iff]
    simp
  rw [keys, Set.ncard_coe_finset, List.toFinset_card_of_nodup nodup]
  exact (List.length_map ..).symm

/-- A purge tells by how much the number of entries drops. -/
lemma purged_add_size (w : Window) (now : Time.Instant) :
    w.purged now + (w.purge now).size = w.size := by
  have le : (w.purge now).size ≤ w.size := List.length_filter_le ..
  unfold purged
  omega

/-- Whatever has been remembered, looked up and purged so far, and in which order: a record is known
if and only if less than the length of the window has passed since it was last remembered, a purge
leaves one entry for each such record, and it tells by how much the number of entries drops. -/
theorem run_slides {length : Time.Span} {past : List Event} {now : Time.Instant}
    (st : Steady (past.map Event.now ++ [now])) :
    let w := (ofLength length).run past
    (∀ id, (w.lookUp now id).1 = true ↔
      ∃ at_, lastRemembered past id = some at_ ∧ now.elapsed at_ < length) ∧
    (w.purge now).size =
      {id | ∃ at_, lastRemembered past id = some at_ ∧ now.elapsed at_ < length}.ncard ∧
    w.purged now + (w.purge now).size = w.size := by
  intro w
  have fl : Follows length past w := Follows.nil.run past
  refine ⟨fun id => ?_, ?_, w.purged_add_size now⟩
  · rw [lookUp_eq_true_iff, fl.exists_fresh_iff st]
  · rw [size_purge]
    congr 1
    ext id
    exact fl.exists_fresh_iff st id

/-- A second of the first day of 1970. -/
def early (n : Fin 86400) : Time.Instant :=
  { Time.Instant.epoch with second := n, second_lt := n.2 }

/-- An hour. -/
def hour : Time.Span :=
  ⟨3600000000000, by decide, by decide⟩

/-- Two records are remembered half an hour apart, and the first one again after it was looked up
too late. -/
def rush : List Event :=
  [⟨early 0, .remember ⟨1⟩⟩, ⟨early 1800, .remember ⟨2⟩⟩, ⟨early 3600, .lookUp ⟨1⟩⟩,
    ⟨early 3600, .remember ⟨1⟩⟩, ⟨early 3600, .purge⟩]

/-- An hour after it was remembered the second record is forgotten. The first one, which was
remembered again, is not. -/
theorem run_slides_rush :
    Steady (rush.map Event.now ++ [early 5400]) ∧
      let w := (ofLength hour).run rush
      (w.lookUp (early 5400) ⟨1⟩).1 = true ∧ (w.lookUp (early 5400) ⟨2⟩).1 = false ∧
        w.purged (early 5400) + (w.purge (early 5400)).size = 2 := by
  have st : Steady (rush.map Event.now ++ [early 5400]) := ⟨by decide, by decide⟩
  obtain ⟨known, -, drop⟩ := @run_slides hour _ _ st
  refine ⟨st, (known ⟨1⟩).2 ⟨early 3600, rfl, by decide⟩, ?_, drop⟩
  rw [Bool.eq_false_iff]
  intro seen
  obtain ⟨at_, last, lt⟩ := (known ⟨2⟩).1 seen
  cases last
  exact absurd lt (by decide)

end Outbox.Window
