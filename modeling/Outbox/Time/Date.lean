/-!
# Calendar dates

The Gregorian calendar, extended to all years, and the number of a date: the days since 1970-01-01.
Years are counted from March here, so that a leap day is the last day of its year. The main
statements, `number_ofNumber` and `ofNumber_valid`, say that every day has a date and that the date
has that number again.
-/

namespace Outbox.Time

/-- A year, a month from 1 and a day from 1. -/
structure Date where
  year : Int
  month : Nat
  day : Nat
  deriving DecidableEq, Repr

namespace Date

/-- Whether a year has a 29th of February. -/
def isLeap (year : Int) : Bool :=
  year % 4 = 0 && (year % 100 ≠ 0 || year % 400 = 0)

/-- The number of days of a month. -/
def monthLength (year : Int) (month : Nat) : Nat :=
  if month = 2 then (if isLeap year then 29 else 28)
  else if month = 4 ∨ month = 6 ∨ month = 9 ∨ month = 11 then 30
  else 31

/-- Whether a date is one of the calendar. -/
def Valid (d : Date) : Prop :=
  1 ≤ d.month ∧ d.month ≤ 12 ∧ 1 ≤ d.day ∧ d.day ≤ monthLength d.year d.month

instance (d : Date) : Decidable d.Valid :=
  inferInstanceAs (Decidable (_ ∧ _ ∧ _ ∧ _))

/-- The days from the 1st of March to the first day of the month that is `m` months later. -/
def daysBefore (m : Nat) : Nat :=
  (153 * m + 2) / 5

/-- The days from 0000-03-01 to 1970-01-01. -/
def epoch : Int :=
  719468

/-- The days since 1970-01-01. -/
def number (d : Date) : Int :=
  let y := if d.month ≤ 2 then d.year - 1 else d.year
  let m := if d.month ≤ 2 then d.month + 9 else d.month - 3
  365 * y + y / 4 - y / 100 + y / 400 + daysBefore m + (d.day : Int) - 1 - epoch

/-- Where a day lies in the 400-year cycles that start on 0000-03-01. -/
structure Place where
  cycle : Int
  century : Nat
  /-- The span of four years in the century. -/
  span : Nat
  /-- The year in the span. -/
  year : Nat
  /-- The day in the year. -/
  day : Nat

/-- The place of the day that lies `z` days after 0000-03-01. The last century of a cycle, and the
last year of a span, may be a day longer than the others. -/
def Place.ofDay (z : Int) : Place :=
  let r := (z % 146097).toNat
  let century := min 3 (r / 36524)
  let inCentury := r - century * 36524
  let inSpan := inCentury % 1461
  let year := min 3 (inSpan / 365)
  ⟨z / 146097, century, inCentury / 1461, year, inSpan - year * 365⟩

/-- The year whose 1st of March starts the year of a place. -/
def Place.civilYear (p : Place) : Int :=
  400 * p.cycle + 100 * p.century + 4 * p.span + p.year

/-- The months from the 1st of March. -/
def Place.month (p : Place) : Nat :=
  (5 * p.day + 2) / 153

/-- The date of a place. -/
def Place.toDate (p : Place) : Date :=
  if p.month ≤ 9 then ⟨p.civilYear, p.month + 3, p.day - daysBefore p.month + 1⟩
  else ⟨p.civilYear + 1, p.month - 9, p.day - daysBefore p.month + 1⟩

/-- The date that lies `n` days after 1970-01-01. -/
def ofNumber (n : Int) : Date :=
  (Place.ofDay (n + epoch)).toDate

/-- The bounds of a place, and the day that it is the place of. -/
theorem Place.ofDay_bounds (z : Int) :
    let p := Place.ofDay z
    p.century ≤ 3 ∧ p.span ≤ 24 ∧ p.year ≤ 3 ∧ p.day ≤ 365 ∧
      (p.day = 365 → p.year = 3 ∧ (p.span = 24 → p.century = 3)) ∧
      z = 146097 * p.cycle + 36524 * p.century + 1461 * p.span + 365 * p.year + p.day := by
  simp only [Place.ofDay]
  omega

/-- The number of the date of a place whose parts are in their ranges. -/
theorem Place.number_toDate {p : Place} (hc : p.century ≤ 3) (hs : p.span ≤ 24) (hy : p.year ≤ 3)
    (hd : p.day ≤ 365) :
    p.toDate.number =
      146097 * p.cycle + 36524 * p.century + 1461 * p.span + 365 * p.year + p.day - epoch := by
  have hb : daysBefore p.month ≤ p.day := by unfold daysBefore Place.month; omega
  have hm : p.month ≤ 11 := by unfold Place.month; omega
  have hY : p.civilYear = 400 * p.cycle + 100 * p.century + 4 * p.span + p.year := rfl
  unfold Place.toDate
  generalize p.civilYear = Y at *
  generalize p.month = m at *
  generalize hbm : daysBefore m = b at *
  split
  · next h =>
    have h1 : ¬ m + 3 ≤ 2 := by omega
    simp only [number, h1, if_false, Nat.add_sub_cancel, hbm, epoch]
    omega
  · next h =>
    have h1 : m - 9 ≤ 2 := by omega
    have h2 : m - 9 + 9 = m := by omega
    simp only [number, h1, if_true, h2, hbm, epoch]
    omega

/-- The date of a day has the number of the day. -/
theorem number_ofNumber (n : Int) : (ofNumber n).number = n := by
  obtain ⟨hc, hs, hy, hd, -, hz⟩ := Place.ofDay_bounds (n + epoch)
  rw [ofNumber, Place.number_toDate hc hs hy hd]
  omega

/-- A day up to January falls into its month. -/
theorem Place.day_le_monthLength {p : Place} (hd : p.day ≤ 365) (hm : p.month ≤ 10) (y : Int) :
    p.day - daysBefore p.month + 1 ≤
      monthLength y (if p.month ≤ 9 then p.month + 3 else p.month - 9) := by
  have hp : p.month = (5 * p.day + 2) / 153 := rfl
  generalize p.month = m at *
  have hcases : m = 0 ∨ m = 1 ∨ m = 2 ∨ m = 3 ∨ m = 4 ∨ m = 5 ∨ m = 6 ∨ m = 7 ∨ m = 8 ∨ m = 9 ∨
      m = 10 := by omega
  rcases hcases with h | h | h | h | h | h | h | h | h | h | h <;> subst h <;>
    simp [monthLength, daysBefore] <;> omega

/-- The date of a day is one of the calendar. -/
theorem ofNumber_valid (n : Int) : (ofNumber n).Valid := by
  obtain ⟨hc, hs, hy, hd, hlast, -⟩ := Place.ofDay_bounds (n + epoch)
  unfold ofNumber
  generalize Place.ofDay (n + epoch) = p at *
  have hm : p.month ≤ 11 := by unfold Place.month; omega
  by_cases h10 : p.month ≤ 10
  · have hlen := Place.day_le_monthLength hd h10
    unfold Place.toDate
    split
    · next h =>
      simp only [if_pos h] at hlen
      exact ⟨by simp, by simp; omega, by simp, hlen _⟩
    · next h =>
      simp only [if_neg h] at hlen
      exact ⟨by simp; omega, by simp; omega, by simp, hlen _⟩
  -- the last month of the place, February, whose length depends on the year
  · have h11 : p.month = 11 := by omega
    have hday : p.month = (5 * p.day + 2) / 153 := rfl
    have hleap : p.day = 365 → isLeap (p.civilYear + 1) = true := by
      intro h
      have hY : p.civilYear = 400 * p.cycle + 100 * p.century + 4 * p.span + p.year := rfl
      generalize p.civilYear = Y at *
      simp only [isLeap, Bool.and_eq_true, Bool.or_eq_true, decide_eq_true_eq]
      omega
    unfold Place.toDate
    rw [if_neg (by omega), h11]
    refine ⟨by simp, by simp, by simp, ?_⟩
    by_cases h365 : p.day = 365
    · simp [monthLength, daysBefore, hleap h365, h365]
    · have h28 : 28 ≤ monthLength (p.civilYear + 1) 2 := by
        simp only [monthLength, if_true]; split <;> simp
      refine Nat.le_trans ?_ h28
      simp only [daysBefore]
      omega

end Date

end Outbox.Time
