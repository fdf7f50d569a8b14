import Mathlib.Tactic.Lemma
import Outbox.Proofs.Text
import Outbox.Time.Text

/-!
# Reckoning with instants, and reading them

What is there of spans and instants, and what the text of an instant stands for.

## The range of instants

How near the ends of the range time can be reckoned. The span between two instants is always there.
An instant some seconds later is there as long as the range has that many seconds left.
-/

namespace Outbox.Time

/-- The span between two instants is short enough to be one, wherever in the range they are. -/
lemma Span.ofNanoseconds?_elapsed (later earlier : Instant) :
    ofNanoseconds? (later.total - earlier.total + later.leapBetween earlier * 1000000000) =
      some (later.elapsed earlier) :=
  dif_pos ⟨(later.elapsed earlier).least_le, (later.elapsed earlier).le_greatest⟩

namespace Instant

/-- The whole seconds from an instant to the last one. -/
def secondsLeft (t : Instant) : Int :=
  lastDay * 86400 + 86399 - (t.day * 86400 + t.second)

/-- Outside leap seconds, there is an instant for every second of the range. -/
lemma ofTotal?_eq_none_iff {seconds : Int} {nanosecond : Nat} (small : nanosecond < 1000000000) :
    ofTotal? (seconds * 1000000000 + nanosecond) = none ↔
      seconds < firstDay * 86400 ∨ lastDay * 86400 + 86399 < seconds := by
  have whole : (seconds * 1000000000 + nanosecond) / 1000000000 = seconds := by omega
  have part : ((seconds * 1000000000 + nanosecond) % 1000000000).toNat = nanosecond := by omega
  unfold ofTotal? of?
  simp only [whole, part, dite_eq_right_iff, reduceCtorEq, imp_false]
  omega

/-- There is no instant some seconds later if and only if the range has less than that left. A leap
second is left at once, so that it does not matter here. -/
lemma add?_eq_none_iff {t : Instant} {s : Span} {n : Nat} (pos : 0 < n)
    (whole : s.nanoseconds = n * 1000000000) : t.add? s = none ↔ t.secondsLeft < n := by
  have first := t.first_le
  have bound := t.nanosecond_lt
  unfold add?
  split
  · next leap =>
    have leap : 1000000000 ≤ t.nanosecond := of_decide_eq_true leap
    have seconds : s.nanoseconds.tdiv 1000000000 = n := by
      rw [whole]
      exact Int.mul_tdiv_cancel _ (by decide)
    have moved : t.total - 1000000000 + s.nanoseconds =
        (t.day * 86400 + t.second + n) * 1000000000 + (t.nanosecond - 1000000000 : Nat) := by
      unfold total
      omega
    have forwards : 0 < s.nanoseconds.tdiv 1000000000 := seconds ▸ Int.natCast_pos.2 pos
    simp only [forwards, true_or, if_true]
    rw [moved, ofTotal?_eq_none_iff (by omega), secondsLeft]
    omega
  · next noLeap =>
    have noLeap : ¬ 1000000000 ≤ t.nanosecond := fun leap => noLeap (decide_eq_true leap)
    have moved : t.total + s.nanoseconds =
        (t.day * 86400 + t.second + n) * 1000000000 + t.nanosecond := by
      unfold total
      omega
    rw [moved, ofTotal?_eq_none_iff (by omega), secondsLeft]
    omega

end Instant

end Outbox.Time

/-!
## Instants and their texts

Every instant has a text, in whatever year it lies and with however many digits after the second.
The text is read as the instant itself, unless this lies in a leap second that does not end its
minute: that one is told as the next second (`ofChars_chars`), and no text is read as it
(`isProper_of_ofChars`).
-/

namespace Outbox.Time

open Text (NoDigit Yields bind_of_ok)

/-- A number that is filled up with zeros has only digits. -/
lemma isDigit_of_mem_padded {width n : Nat} {c : Char} (mem : c ∈ padded width n) :
    c.isDigit = true := by
  obtain zero | digit := List.mem_append.1 mem
  · rw [List.eq_of_mem_replicate zero]
    rfl
  · exact Nat.isDigit_of_mem_toDigits (by decide) (by decide) digit

/-- The zeros in front do not change the number. -/
lemma ofDigitChars_padded (width n : Nat) : Nat.ofDigitChars 10 (padded width n) 0 = n := by
  rw [padded, Nat.ofDigitChars_append, Nat.ofDigitChars_replicate_zero, Nat.mul_zero]
  exact Nat.ofDigitChars_toDigits (by decide) (by decide)

/-- A number that is not too long is filled up to its width. -/
lemma length_padded {width n : Nat} (pos : 0 < width) (small : n < 10 ^ width) :
    (padded width n).length = width := by
  have le := (Nat.length_toDigits_le_iff (b := 10) (by decide) pos).2 small
  simp only [padded, List.length_append, List.length_replicate]
  omega

/-- A number that is filled up with zeros has at least one character. -/
lemma padded_ne_nil (width n : Nat) : padded width n ≠ [] := by
  simp [padded, Nat.toDigits_ne_nil]

/-- A number that is filled up with zeros begins with a digit. -/
lemma exists_padded (width n : Nat) :
    ∃ c cs, padded width n = c :: cs ∧ c.isDigit = true := by
  obtain ⟨c, cs, same⟩ := List.exists_cons_of_ne_nil (padded_ne_nil width n)
  exact ⟨c, cs, same, isDigit_of_mem_padded (same ▸ List.mem_cons_self)⟩

namespace Instant

/-- A number is read up to its width, or up to where no digit comes next. -/
lemma readNumber_padded {width room n : Nat} {rest : List Char} (small : n < 9223372036854775808)
    (stop : (padded width n).length = room ∨ (padded width n).length ≤ room ∧ NoDigit rest) :
    readNumber room (padded width n ++ rest) = .ok (n, rest) := by
  have digits : ((padded width n ++ rest).take room).takeWhile Char.isDigit = padded width n := by
    obtain full | ⟨fits, stop⟩ := stop
    · rw [← full, List.take_left]
      exact List.takeWhile_eq_self_iff.2 fun c mem => isDigit_of_mem_padded mem
    · rw [List.take_append, List.take_of_length_le fits]
      refine Text.takeWhile_digits (fun c => isDigit_of_mem_padded) fun c mem => ?_
      rw [List.head?_take] at mem
      split at mem
      · cases mem
      · exact stop c mem
  obtain ⟨c, cs, same, -⟩ := exists_padded width n
  have some : (padded width n).isEmpty = false := by rw [same]; rfl
  have some' : (padded width n ++ rest).isEmpty = false := by rw [same]; rfl
  simp only [readNumber, digits, some, some', ofDigitChars_padded, small, Bool.false_eq_true,
    if_false, if_true, List.drop_left]

/-- A number that is filled up with zeros has no blanks in front. -/
lemma trimFront_padded (width n : Nat) (rest : List Char) :
    Text.trimFront (padded width n ++ rest) = padded width n ++ rest := by
  obtain ⟨c, cs, same, digit⟩ := exists_padded width n
  rw [same]
  exact Text.trimFront_of_not_isBlank (Text.isBlank_of_isDigit digit)

/-- A field of two digits is read back if it lies in its range. -/
lemma readField_padded {low high n : Nat} (inside : low ≤ n ∧ n ≤ high) (small : n < 100)
    (rest : List Char) : readField 2 low high (padded 2 n ++ rest) = .ok (n, rest) := by
  have blanks : readBlanks (padded 2 n ++ rest) = .ok ((), padded 2 n ++ rest) := by
    show Except.ok ((), Text.trimFront _) = _
    rw [trimFront_padded]
  have number : readNumber 2 (padded 2 n ++ rest) = .ok (n, rest) :=
    readNumber_padded (by omega) (.inl (length_padded (by decide) small))
  rw [readField, bind_of_ok blanks, bind_of_ok number, if_pos inside]
  rfl

/-- A year is read back, of however many digits. -/
lemma readYear_yearText {y : Int} (small : -2147483648 ≤ y ∧ y < 2147483648) {rest : List Char}
    (stop : NoDigit rest) : readYear (yearText y ++ rest) = .ok (y, rest) := by
  unfold yearText
  split
  -- From year 0 to 9999 there are four digits and no sign.
  · next plain =>
    have number : readNumber 4 (padded 4 y.toNat ++ rest) = .ok (y.toNat, rest) :=
      readNumber_padded (by omega) (.inl (length_padded (by decide) (by omega)))
    obtain ⟨c, cs, same, digit⟩ := exists_padded 4 y.toNat
    unfold readYear
    rw [trimFront_padded]
    split
    · next here =>
      rw [same] at here
      cases here
      cases digit
    · next here =>
      rw [same] at here
      cases here
      cases digit
    · rw [StateT.run, number]
      show Except.ok ((y.toNat : Int), rest) = _
      rw [Int.toNat_of_nonneg plain.1]
  · next signed =>
    have number : readNumber (padded 4 y.natAbs ++ rest).length (padded 4 y.natAbs ++ rest) =
        .ok (y.natAbs, rest) :=
      readNumber_padded (by omega) (.inr ⟨by simp, stop⟩)
    rw [List.cons_append]
    split
    · rw [readYear, Text.trimFront_of_not_isBlank (by decide)]
      simp only
      rw [StateT.run, number]
      show (if y.natAbs ≤ 2147483648 then Except.ok (-(y.natAbs : Int), rest)
        else .error Malformed.outOfRange) = _
      rw [if_pos (by omega), show -(y.natAbs : Int) = y by omega]
    · rw [readYear, Text.trimFront_of_not_isBlank (by decide)]
      simp only
      rw [StateT.run, number]
      show (if y.natAbs < 2147483648 then Except.ok ((y.natAbs : Int), rest)
        else .error Malformed.outOfRange) = _
      rw [if_pos (by omega), show (y.natAbs : Int) = y by omega]

/-- A fraction of a second is read back, with as many digits as are written. -/
lemma readFraction_padded {width m : Nat} (some : 0 < width) (fits : width ≤ 9)
    (less : m < 10 ^ width) (rest : List Char) :
    readFraction ('.' :: padded width m ++ 'Z' :: rest) =
      .ok (m * 10 ^ (9 - width), 'Z' :: rest) := by
  have length := length_padded some less
  have stop : NoDigit ('Z' :: rest) := by simp [NoDigit]
  have below : 10 ^ width ≤ 10 ^ 9 := Nat.pow_le_pow_right (by decide) fits
  have number : readNumber 9 (padded width m ++ 'Z' :: rest) = .ok (m, 'Z' :: rest) :=
    readNumber_padded (by omega) (.inr ⟨by omega, stop⟩)
  rw [List.cons_append, readFraction, StateT.run, number]
  show Except.ok (m * Nat.pow 10 (9 - _), ('Z' :: rest).dropWhile Char.isDigit) = _
  simp [length]

/-- Fractions of a second are read back. -/
lemma readFraction_fractionText {n : Nat} (small : n < 1000000000) (rest : List Char) :
    readFraction (fractionText n ++ 'Z' :: rest) = .ok (n, 'Z' :: rest) := by
  unfold fractionText
  split
  · next none =>
    rw [none]
    rfl
  · split
    · next whole =>
      have value : n / 1000000 * 10 ^ (9 - 3) = n :=
        Nat.div_mul_cancel (Nat.dvd_of_mod_eq_zero whole)
      rw [readFraction_padded (by decide) (by decide) (by omega), value]
    · split
      · next whole =>
        have value : n / 1000 * 10 ^ (9 - 6) = n :=
          Nat.div_mul_cancel (Nat.dvd_of_mod_eq_zero whole)
        rw [readFraction_padded (by decide) (by decide) (by omega), value]
      · rw [readFraction_padded (by decide) (by decide) small, Nat.sub_self, Nat.pow_zero,
          Nat.mul_one]

/-- No instant lies in a year that is too long to be read. -/
lemma year_bounds (t : Instant) :
    -2147483648 ≤ (Date.ofNumber t.day).year ∧ (Date.ofNumber t.day).year < 2147483648 := by
  have number := Date.number_ofNumber t.day
  obtain ⟨month, month', day, day'⟩ := Date.ofNumber_valid t.day
  have first := t.first_le
  have last := t.le_last
  generalize Date.ofNumber t.day = d at *
  have short : Date.monthLength d.year d.month ≤ 31 := by
    unfold Date.monthLength
    split <;> split <;> omega
  unfold firstDay lastDay at *
  simp only [Date.number, Date.daysBefore, Date.epoch] at number
  split at number <;> omega

/-- Where no blanks are, none are read. -/
lemma readBlanks_of_not_isBlank {c : Char} (here : Text.isBlank c = false) (cs : List Char) :
    readBlanks (c :: cs) = .ok ((), c :: cs) := by
  show Except.ok ((), Text.trimFront _) = _
  rw [Text.trimFront_of_not_isBlank here]

/-- A mark is read where it stands. -/
lemma readMark_of_mem {marks : List Char} {c : Char} (mem : c ∈ marks) (cs : List Char) :
    readMark marks (c :: cs) = .ok ((), cs) :=
  if_pos mem

/-- The parts of an instant as they are written. -/
def parts (t : Instant) : Parts where
  date := Date.ofNumber t.day
  hour := t.second / 3600
  minute := t.second / 60 % 60
  second := t.second % 60 + if t.isLeap then 1 else 0
  nanosecond := t.nanosecond % 1000000000
  offset := 0

/-- All parts of an instant are read off its text, and nothing is left. -/
lemma readParts_chars (t : Instant) : readParts t.chars = .ok (t.parts, []) := by
  obtain ⟨month, month', day, day'⟩ := Date.ofNumber_valid t.day
  have second := t.second_lt
  have short : Date.monthLength (Date.ofNumber t.day).year (Date.ofNumber t.day).month ≤ 31 := by
    unfold Date.monthLength
    split <;> split <;> omega
  have leap : (if t.isLeap then 1 else 0) ≤ 1 := by split <;> decide
  unfold chars
  simp only [List.append_assoc, List.cons_append]
  rw [readParts, bind_of_ok (readYear_yearText t.year_bounds (by simp [NoDigit])),
    bind_of_ok (readBlanks_of_not_isBlank (by decide) _), bind_of_ok (readMark_of_mem (by simp) _),
    bind_of_ok (readField_padded ⟨month, month'⟩ (by omega) _),
    bind_of_ok (readBlanks_of_not_isBlank (by decide) _), bind_of_ok (readMark_of_mem (by simp) _),
    bind_of_ok (readField_padded ⟨day, by omega⟩ (by omega) _),
    bind_of_ok (readMark_of_mem (by simp) _),
    bind_of_ok (readField_padded (by omega) (by omega) _),
    bind_of_ok (readBlanks_of_not_isBlank (by decide) _), bind_of_ok (readMark_of_mem (by simp) _),
    bind_of_ok (readField_padded (by omega) (by omega) _),
    bind_of_ok (readBlanks_of_not_isBlank (by decide) _), bind_of_ok (readMark_of_mem (by simp) _),
    bind_of_ok (readField_padded (by omega) (by omega) _),
    bind_of_ok (readFraction_fractionText (by omega) _),
    bind_of_ok (readBlanks_of_not_isBlank (by decide) _)]
  rfl

/-- The instant does not lie in a leap second, or it lies in one that ends its minute. -/
def IsProper (t : Instant) : Prop :=
  t.nanosecond < 1000000000 ∨ t.second % 60 = 59

instance : DecidablePred IsProper := fun t =>
  inferInstanceAs (Decidable (t.nanosecond < 1000000000 ∨ t.second % 60 = 59))

/-- The instant that the text of an instant stands for. The text of a leap second that does not end
its minute is that of the next second. -/
def proper (t : Instant) : Instant :=
  if leap : ¬ t.IsProper then
    { t with
      second := t.second + 1
      nanosecond := t.nanosecond - 1000000000
      second_lt := by
        have := t.second_lt
        unfold IsProper at leap
        omega
      nanosecond_lt := by
        have := t.nanosecond_lt
        omega }
  else t

/-- Just the instants in leap seconds that do not end a minute are told as other ones. -/
lemma proper_eq_self_iff {t : Instant} : t.proper = t ↔ t.IsProper := by
  unfold proper
  split
  · next leap =>
    refine iff_of_false (fun same => ?_) leap
    have : t.second + 1 = t.second := congrArg second same
    omega
  · next ends => exact iff_of_true rfl (Classical.not_not.1 ends)

/-- What a text stands for is told as itself. -/
lemma isProper_proper (t : Instant) : t.proper.IsProper := by
  unfold proper
  split
  · have := t.nanosecond_lt
    refine .inl ?_
    simp only
    omega
  · next ends => exact Classical.not_not.1 ends

/-- The middle of a leap second that does not end its minute: 12:00:30 of a day in 2024, and one and
a half seconds more. -/
def lingering : Instant :=
  ⟨19783, 43230, 1500000000, by decide, by decide, by decide, by decide⟩

/-- The instant that its text stands for, half a second after 12:00:31. -/
def lingered : Instant :=
  ⟨19783, 43231, 500000000, by decide, by decide, by decide, by decide⟩

/-- The text of the lingering instant stands for the other one. -/
lemma proper_lingering : lingering.proper = lingered :=
  dif_pos (by decide)

/-- An instant and the one that its text stands for have the same parts. -/
lemma parts_proper (t : Instant) : t.proper.parts = t.parts := by
  unfold proper
  split
  · next leap =>
    have := t.second_lt
    have := t.nanosecond_lt
    unfold IsProper at leap
    have minute : (t.second + 1) / 60 = t.second / 60 := by omega
    have hour : (t.second + 1) / 3600 = t.second / 3600 := by
      rw [show 3600 = 60 * 60 from rfl, ← Nat.div_div_eq_div_mul, minute, Nat.div_div_eq_div_mul]
    simp only [parts, isLeap, Parts.mk.injEq, true_and, decide_eq_true_eq, minute, hour]
    rw [if_neg (by omega), if_pos (by omega)]
    exact ⟨by omega, by omega, trivial⟩
  · rfl

/-- The text of an instant is made of its parts. -/
lemma chars_congr {t u : Instant} (same : t.parts = u.parts) : t.chars = u.chars := by
  obtain ⟨date, hour, minute, second, nanosecond, -⟩ := Parts.mk.inj same
  simp only [chars, date, hour, minute, second, nanosecond]

/-- The parts of an instant that is told as itself stand for it. -/
lemma ofParts_parts {t : Instant} (ends : t.IsProper) : ofParts t.parts = .ok t := by
  have second := t.second_lt
  have nanosecond := t.nanosecond_lt
  unfold IsProper at ends
  have number : t.parts.date.number = t.day := Date.number_ofNumber t.day
  have inside : ¬ (¬ t.parts.date.Valid ∨ t.day < firstDay ∨ lastDay < t.day) := by
    rw [not_or, not_or, Classical.not_not, Int.not_lt, Int.not_lt]
    exact ⟨Date.ofNumber_valid t.day, t.first_le, t.le_last⟩
  have offset : ¬ (t.parts.offset ≤ -1440 ∨ 1440 ≤ t.parts.offset) := by simp [parts]
  -- The second 60 is the one before it, gone on.
  obtain ⟨wall, part⟩ : (t.parts.hour * 3600 + t.parts.minute * 60 +
        (t.parts.second - if t.parts.second = 60 then 1 else 0 : Nat) : Int) -
          t.parts.offset * 60 = t.second ∧
      t.parts.nanosecond + (if t.parts.second = 60 then 1 else 0) * 1000000000 = t.nanosecond := by
    simp only [parts, isLeap, decide_eq_true_eq]
    split <;> split <;> omega
  rw [ofParts]
  simp only [number, inside, offset, wall, part, if_false]
  rw [show t.day + (t.second : Int) / 86400 = t.day by omega,
    show ((t.second : Int) % 86400).toNat = t.second by omega, of?_eq]

/-- The text of an instant is read as the instant it stands for. -/
theorem ofChars_chars (t : Instant) : ofChars t.chars = .ok t.proper := by
  rw [← chars_congr t.parts_proper, ofChars, StateT.run, readParts_chars]
  exact ofParts_parts t.isProper_proper

/-- A number that is read has at most as many digits as there was room for. -/
lemma readNumber_eq_ok {width n : Nat} {cs rest : List Char}
    (read : readNumber width cs = .ok (n, rest)) :
    ∃ digits ≤ width, n < 10 ^ digits ∧ rest = cs.drop digits ∧ digits ≤ cs.length := by
  unfold readNumber at read
  simp only at read
  split_ifs at read
  cases read
  let ds := (cs.take width).takeWhile Char.isDigit
  have few : ds.length ≤ (cs.take width).length := (List.takeWhile_prefix _).length_le
  rw [List.length_take] at few
  exact ⟨ds.length, by omega, Text.ofDigitChars_lt fun c mem => List.mem_takeWhile_imp mem, rfl,
    by omega⟩

/-- No fraction is a whole second or more. -/
lemma yields_readFraction : Yields (· < 1000000000) readFraction := by
  intro cs n rest read
  unfold readFraction at read
  split at read
  · next cs =>
    cases number : readNumber 9 cs with
    | error fault =>
      rw [StateT.run, number] at read
      cases read
    | ok x =>
      obtain ⟨digits, room, less, same, inside⟩ := readNumber_eq_ok number
      rw [StateT.run, number] at read
      cases read
      have length : cs.length - x.2.length = digits := by
        rw [same, List.length_drop]
        omega
      show x.1 * 10 ^ (9 - (cs.length - x.2.length)) < 10 ^ 9
      rw [length]
      calc x.1 * 10 ^ (9 - digits) < 10 ^ digits * 10 ^ (9 - digits) :=
            Nat.mul_lt_mul_of_pos_right less (Nat.pow_pos (by decide))
        _ = 10 ^ 9 := by rw [← Nat.pow_add, Nat.add_sub_cancel' room]
  · cases read
    decide

/-- Parts that are read have less than a second after their second. -/
lemma yields_readParts : Yields (·.nanosecond < 1000000000) readParts := by
  refine .after fun _ => .after fun _ => .after fun _ => .after fun _ => .after fun _ => ?_
  refine .after fun _ => .after fun _ => .after fun _ => .after fun _ => .after fun _ => ?_
  refine .after fun _ => .after fun _ => .after fun _ => .after fun _ => .after fun _ => ?_
  exact .bind yields_readFraction fun _ small => .after fun _ => .after fun _ => .pure small

/-- An instant keeps the second and the nanosecond it is made of. -/
lemma of?_inv {day : Int} {second nanosecond : Nat} {t : Instant}
    (made : of? day second nanosecond = some t) :
    t.second = second ∧ t.nanosecond = nanosecond := by
  unfold of? at made
  split at made <;> cases made
  exact ⟨rfl, rfl⟩

/-- Parts stand for an instant that is told as itself. -/
lemma isProper_of_ofParts {p : Parts} {t : Instant} (small : p.nanosecond < 1000000000)
    (here : ofParts p = .ok t) : t.IsProper := by
  unfold ofParts at here
  simp only at here
  split_ifs at here with outside far leap
  · split at here <;> cases here
    next made =>
      -- The second is the last one of its minute, and so it is at any offset.
      obtain ⟨second, -⟩ := of?_inv made
      exact .inr (by omega)
  · split at here <;> cases here
    next made =>
      obtain ⟨-, nanosecond⟩ := of?_inv made
      exact .inl (by omega)

/-- Every instant that is read is told as itself. -/
lemma isProper_of_ofChars {cs : List Char} {t : Instant} (read : ofChars cs = .ok t) :
    t.IsProper := by
  cases parts : readParts cs with
  | error fault =>
    rw [ofChars, StateT.run, parts] at read
    cases read
  | ok x =>
    have here : (if (Text.trimFront x.2).isEmpty then ofParts x.1 else .error .tooLong) = .ok t := by
      rw [← read, ofChars, StateT.run, parts]
      rfl
    split_ifs at here
    exact isProper_of_ofParts (yields_readParts parts) here

end Instant

end Outbox.Time
