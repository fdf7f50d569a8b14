import Outbox.Time.Date

/-!
# Spans, instants and clocks

How long something takes, when it happens, and what tells the time.
-/

/-!
## Spans of time

A span is a number of nanoseconds, forwards or backwards, of at most 2^63 - 1 milliseconds.
-/

namespace Outbox.Time

/-- The nanoseconds of the longest span. -/
def spanLimit : Int :=
  9223372036854775807 * 1000000

/-- A length of time, negative when it leads back. -/
structure Span where
  nanoseconds : Int
  least_le : -spanLimit ≤ nanoseconds
  le_greatest : nanoseconds ≤ spanLimit

namespace Span

/-- A span is nothing but its nanoseconds. -/
theorem ext {a b : Span} (h : a.nanoseconds = b.nanoseconds) : a = b := by
  cases a; cases b; simp_all

instance : DecidableEq Span := fun a b =>
  decidable_of_iff (a.nanoseconds = b.nanoseconds) ⟨ext, fun h => h ▸ rfl⟩

instance : LE Span := ⟨fun a b => a.nanoseconds ≤ b.nanoseconds⟩

instance : LT Span := ⟨fun a b => a.nanoseconds < b.nanoseconds⟩

instance (a b : Span) : Decidable (a ≤ b) :=
  inferInstanceAs (Decidable (a.nanoseconds ≤ b.nanoseconds))

instance (a b : Span) : Decidable (a < b) :=
  inferInstanceAs (Decidable (a.nanoseconds < b.nanoseconds))

/-- Spans are ordered by their nanoseconds. -/
theorem le_iff {a b : Span} : a ≤ b ↔ a.nanoseconds ≤ b.nanoseconds := Iff.rfl

/-- Spans are strictly ordered by their nanoseconds. -/
theorem lt_iff {a b : Span} : a < b ↔ a.nanoseconds < b.nanoseconds := Iff.rfl

/-- No time at all. -/
def zero : Span :=
  ⟨0, by decide, by decide⟩

instance : Inhabited Span := ⟨zero⟩

/-- A span of that many nanoseconds, unless it would be too long. -/
def ofNanoseconds? (n : Int) : Option Span :=
  if h : -spanLimit ≤ n ∧ n ≤ spanLimit then some ⟨n, h.1, h.2⟩ else none

/-- A span of that many milliseconds, unless it would be too long. -/
def ofMilliseconds? (n : Int) : Option Span :=
  ofNanoseconds? (n * 1000000)

/-- A span of that many seconds, unless it would be too long. -/
def ofSeconds? (n : Int) : Option Span :=
  ofNanoseconds? (n * 1000000000)

/-- The whole milliseconds of a span, towards zero. -/
def milliseconds (s : Span) : Int :=
  s.nanoseconds.tdiv 1000000

/-- There is a span of so many seconds, up to 2^63 - 1 milliseconds. -/
theorem ofSeconds?_isSome {n : Int} (low : -9223372036854775 ≤ n) (high : n ≤ 9223372036854775) :
    ∃ s, ofSeconds? n = some s ∧ s.nanoseconds = n * 1000000000 := by
  have h : -spanLimit ≤ n * 1000000000 ∧ n * 1000000000 ≤ spanLimit := by
    unfold spanLimit; omega
  exact ⟨⟨_, h.1, h.2⟩, dif_pos h, rfl⟩

end Span

end Outbox.Time

/-!
## Instants

A point in time with a resolution of a nanosecond, from the year -262143 to the year 262142. A leap
second is a second that goes on: its nanoseconds run from one to two billion. The clocks of this
world let only the last second of a minute go on, but an instant may lie in the leap second of any
second. Instants are ordered by `rank`; `elapsed` and `add?` count a leap second only while they
stay inside it.
-/

namespace Outbox.Time

/-- The day number of the first day with instants. -/
def firstDay : Int :=
  -96465292

/-- The day number of the last day with instants. -/
def lastDay : Int :=
  95026236

/-- A point in time. -/
structure Instant where
  /-- The days since 1970-01-01. -/
  day : Int
  /-- The seconds since midnight. -/
  second : Nat
  /-- The nanoseconds in the second, a billion more of them in a leap second. -/
  nanosecond : Nat
  first_le : firstDay ≤ day
  le_last : day ≤ lastDay
  second_lt : second < 86400
  nanosecond_lt : nanosecond < 2000000000

namespace Instant

/-- An instant is nothing but its day, its second and its nanosecond. -/
theorem ext {a b : Instant} (hd : a.day = b.day) (hs : a.second = b.second)
    (hn : a.nanosecond = b.nanosecond) : a = b := by
  cases a; cases b; simp_all

instance : DecidableEq Instant := fun a b =>
  decidable_of_iff (a.day = b.day ∧ a.second = b.second ∧ a.nanosecond = b.nanosecond)
    ⟨fun h => ext h.1 h.2.1 h.2.2, fun h => h ▸ ⟨rfl, rfl, rfl⟩⟩

/-- The instant of a day, a second and a nanosecond, if there is one. -/
def of? (day : Int) (second nanosecond : Nat) : Option Instant :=
  if h : firstDay ≤ day ∧ day ≤ lastDay ∧ second < 86400 ∧ nanosecond < 2000000000 then
    some ⟨day, second, nanosecond, h.1, h.2.1, h.2.2.1, h.2.2.2⟩
  else none

/-- The first instant of a day. -/
def startOfDay (day : Int) (h : firstDay ≤ day ∧ day ≤ lastDay) : Instant :=
  ⟨day, 0, 0, h.1, h.2, by decide, by decide⟩

/-- The first instant of 1970. -/
def epoch : Instant :=
  startOfDay 0 (by decide)

instance : Inhabited Instant := ⟨epoch⟩

/-- A number that orders instants. -/
def rank (t : Instant) : Int :=
  (t.day * 86400 + t.second) * 2000000000 + t.nanosecond

instance : LE Instant := ⟨fun a b => a.rank ≤ b.rank⟩

instance : LT Instant := ⟨fun a b => a.rank < b.rank⟩

instance (a b : Instant) : Decidable (a ≤ b) :=
  inferInstanceAs (Decidable (a.rank ≤ b.rank))

instance (a b : Instant) : Decidable (a < b) :=
  inferInstanceAs (Decidable (a.rank < b.rank))

/-- Instants are ordered by their ranks. -/
theorem le_iff {a b : Instant} : a ≤ b ↔ a.rank ≤ b.rank := Iff.rfl

/-- Instants are strictly ordered by their ranks. -/
theorem lt_iff {a b : Instant} : a < b ↔ a.rank < b.rank := Iff.rfl

/-- Different instants have different ranks. -/
theorem rank_inj {a b : Instant} (h : a.rank = b.rank) : a = b := by
  have := a.second_lt; have := b.second_lt; have := a.nanosecond_lt; have := b.nanosecond_lt
  unfold rank at h
  exact ext (by omega) (by omega) (by omega)

/-- Whether an instant lies in a leap second. -/
def isLeap (t : Instant) : Bool :=
  1000000000 ≤ t.nanosecond

/-- The nanoseconds since 1970, counting no leap second. -/
def total (t : Instant) : Int :=
  (t.day * 86400 + t.second) * 1000000000 + t.nanosecond

/-- The instant that many nanoseconds after the start of 1970, if it is in range. -/
def ofTotal? (n : Int) : Option Instant :=
  let seconds := n / 1000000000
  of? (seconds / 86400) (seconds % 86400).toNat (n % 1000000000).toNat

/-- The instant that lies a span after another one, if it is in range. A span that leads out of a
leap second starts from the second before or after it. -/
def add? (t : Instant) (s : Span) : Option Instant :=
  if t.isLeap then
    let whole := s.nanoseconds.tdiv 1000000000
    let part := s.nanoseconds.tmod 1000000000
    if 0 < whole ∨ (0 < part ∧ 2000000000 ≤ t.nanosecond + part) then
      ofTotal? (t.total - 1000000000 + s.nanoseconds)
    else if whole < 0 then ofTotal? (t.total + s.nanoseconds)
    else of? t.day t.second (t.nanosecond + part).toNat
  else ofTotal? (t.total + s.nanoseconds)

/-- The seconds by which a leap second lengthens the way from one time of day to another. -/
def leapBetween (later earlier : Instant) : Int :=
  if earlier.second < later.second ∧ earlier.isLeap then 1
  else if later.second < earlier.second ∧ later.isLeap then -1
  else 0

/-- The span from one instant to another. -/
def elapsed (later earlier : Instant) : Span :=
  ⟨later.total - earlier.total + leapBetween later earlier * 1000000000, by
    have := later.first_le; have := later.le_last; have := later.second_lt
    have := later.nanosecond_lt; have := earlier.first_le; have := earlier.le_last
    have := earlier.second_lt; have := earlier.nanosecond_lt
    unfold leapBetween total spanLimit firstDay lastDay at *
    split <;> (try split) <;> omega, by
    have := later.first_le; have := later.le_last; have := later.second_lt
    have := later.nanosecond_lt; have := earlier.first_le; have := earlier.le_last
    have := earlier.second_lt; have := earlier.nanosecond_lt
    unfold leapBetween total spanLimit firstDay lastDay at *
    split <;> (try split) <;> omega⟩

/-- The parts of an instant make it up again. -/
theorem of?_eq (t : Instant) : of? t.day t.second t.nanosecond = some t :=
  dif_pos ⟨t.first_le, t.le_last, t.second_lt, t.nanosecond_lt⟩

/-- Outside leap seconds, instants are ordered by their nanoseconds since 1970. -/
theorem rank_le_iff_total_le {a b : Instant} (ha : a.isLeap = false) (hb : b.isLeap = false) :
    a ≤ b ↔ a.total ≤ b.total := by
  have := a.second_lt; have := b.second_lt
  simp only [isLeap, decide_eq_false_iff_not] at ha hb
  rw [le_iff]
  unfold rank total
  omega

/-- Outside leap seconds, a span between two instants is the difference of their nanoseconds. -/
theorem nanoseconds_elapsed {a b : Instant} (ha : a.isLeap = false) (hb : b.isLeap = false) :
    (elapsed a b).nanoseconds = a.total - b.total := by
  simp [elapsed, leapBetween, ha, hb]

/-- Outside leap seconds, an instant is made again of its nanoseconds since 1970. -/
theorem ofTotal?_total {t : Instant} (h : t.isLeap = false) : ofTotal? t.total = some t := by
  have h1 := t.second_lt
  simp only [isLeap, decide_eq_false_iff_not] at h
  have hs : t.total / 1000000000 = t.day * 86400 + t.second := by unfold total; omega
  have hn : (t.total % 1000000000).toNat = t.nanosecond := by unfold total; omega
  unfold ofTotal?
  simp only [hs, hn]
  rw [show (t.day * 86400 + (t.second : Int)) / 86400 = t.day by omega,
    show ((t.day * 86400 + (t.second : Int)) % 86400).toNat = t.second by omega]
  exact of?_eq t

end Instant

end Outbox.Time

/-!
## Clocks

A clock that a program reads: one that stands still, or one that moves when it is told to.
-/

namespace Outbox.Time

/-- A source of the present instant. -/
inductive Clock
  /-- Always the same instant. -/
  | fixed (at_ : Instant)
  /-- The instant it was last moved to. -/
  | manual (now : Instant)
  deriving DecidableEq

namespace Clock

/-- The present instant. -/
def now : Clock → Instant
  | fixed t => t
  | manual t => t

/-- The clock after a span has passed, unless that leads out of the range of instants. -/
def advance? : Clock → Span → Option Clock
  | fixed t, _ => some (fixed t)
  | manual t, s => (t.add? s).map manual

/-- The clock set to an instant. -/
def set : Clock → Instant → Clock
  | fixed t, _ => fixed t
  | manual _, t => manual t

end Clock

end Outbox.Time
