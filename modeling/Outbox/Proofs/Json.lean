import Outbox.Proofs.Json.Layout

/-!
# JSON texts that are read back

What a reader reads off the front of a text (`Reads`), one reader after another, and whether it
minds blanks there (`Patient`). A string is read as what it spells (`Spells.reads`), and a whole
number in front of anything that does not go on with it is read back (`reads_readNumber`).
-/

namespace Outbox

/-- The bytes of two texts one after the other add up. -/
lemma Text.byteLength_append (cs ds : List Char) :
    byteLength (cs ++ ds) = byteLength cs + byteLength ds := by
  induction cs with
  | nil => exact (Nat.zero_add _).symm
  | cons c cs ih => rw [List.cons_append, byteLength, ih, byteLength, Nat.add_assoc]

namespace Json

open Text (NoDigit bind_of_ok byteLength)

variable {α β : Type}

/-- In front of the rest of a text, a reader reads a value off some characters. -/
def Reads (r : Reader α) (cs rest : List Char) (a : α) : Prop :=
  ∀ n, r ⟨cs ++ rest, n⟩ = .ok (a, ⟨rest, n + byteLength cs⟩)

/-- A cursor that passes over some characters passes over their bytes. -/
lemma Cursor.skip_append (cs rest : List Char) (n : Nat) :
    Cursor.skip cs.length ⟨cs ++ rest, n⟩ = ⟨rest, n + byteLength cs⟩ := by
  induction cs generalizing n with
  | nil => rfl
  | cons c cs ih => exact (ih (n + c.utf8Size)).trans (by rw [byteLength, Nat.add_assoc])

/-- Characters are passed over in one go or in two. -/
lemma Cursor.skip_add (a b : Nat) (c : Cursor) : c.skip (a + b) = (c.skip a).skip b := by
  induction a generalizing c with
  | zero => rw [Nat.zero_add, skip]
  | succ a ih =>
    rw [Nat.succ_add]
    exact ih c.tail

/-- A character that is not blank is seen at once. -/
lemma peekPastGaps_of_solid {c : Char} (solid : isGap c = false) (cs : List Char) (n : Nat) :
    peekPastGaps ⟨c :: cs, n⟩ = .ok (some c, ⟨c :: cs, n⟩) := by
  have none : (c :: cs).takeWhile isGap = [] := List.takeWhile_cons_of_neg (by simp [solid])
  rw [peekPastGaps, bind_of_ok (show gaps _ = _ from rfl), none]
  rfl

namespace Reads

variable {r : Reader α} {f : α → Reader β} {cs ds rest : List Char} {a : α} {b : β} {c : Char}

/-- A reader that reads nothing leaves everything. -/
lemma pure (a : α) (rest : List Char) : Reads (pure a) [] rest a :=
  fun _ => rfl

/-- One reader goes on where the other one stopped. -/
lemma bind (first : Reads r cs (ds ++ rest) a) (next : Reads (f a) ds rest b) :
    Reads (r >>= f) (cs ++ ds) rest b := by
  intro n
  rw [List.append_assoc, bind_of_ok (first n), next, Text.byteLength_append, Nat.add_assoc]

/-- One reader goes on where another one stopped whose value does not matter. -/
lemma before {s : Reader β} (first : Reads r cs (ds ++ rest) a) (next : Reads s ds rest b) :
    Reads (r >>= fun _ => s) (cs ++ ds) rest b :=
  first.bind next

/-- What comes after the last character is settled without another one. -/
lemma settle (first : Reads r cs rest a) (next : Reads (f a) [] rest b) :
    Reads (r >>= f) cs rest b := by
  have both : Reads (r >>= f) (cs ++ []) rest b := bind first next
  rwa [List.append_nil] at both

/-- What was read may be changed. -/
lemma map (first : Reads r cs rest a) (f : α → β) :
    Reads (r >>= fun a => Pure.pure (f a)) cs rest (f a) :=
  first.settle (pure (f a) rest)

/-- Whoever only looks at the next character leaves it to the next reader. -/
lemma look {f : Option Char → Reader β} (solid : isGap c = false)
    (next : Reads (f (some c)) (c :: cs) rest b) :
    Reads (peekPastGaps >>= f) (c :: cs) rest b := by
  intro n
  rw [List.cons_append, bind_of_ok (peekPastGaps_of_solid solid _ n)]
  exact next n

/-- Whoever only looks at the next character may leave it to the rest of the text. -/
lemma glance {f : Option Char → Reader β} (solid : isGap c = false)
    (next : Reads (f (some c)) [] (c :: rest) b) : Reads (peekPastGaps >>= f) [] (c :: rest) b := by
  intro n
  rw [List.nil_append, bind_of_ok (peekPastGaps_of_solid solid _ n)]
  exact next n

/-- What comes next is left to the next reader. -/
lemma peek {f : Option Char → Reader β} (next : Reads (f (cs ++ rest).head?) cs rest b) :
    Reads (Json.peek >>= f) cs rest b :=
  next

/-- The next character was passed over. -/
lemma advance {f : Unit → Reader β} (next : Reads (f ()) cs rest b) :
    Reads (Json.advance >>= f) (c :: cs) rest b := by
  have one : Reads Json.advance [c] (cs ++ rest) () := fun _ => rfl
  exact one.bind next

/-- A reader goes on after the next character. -/
lemma skip (next : Reads r cs rest a) : Reads (Json.advance >>= fun _ => r) (c :: cs) rest a :=
  advance next

end Reads

/-- Blanks in front make no difference to a reader. -/
def Patient (r : Reader α) : Prop :=
  ∀ (gap : Gap) (cs : List Char) (n : Nat),
    r ⟨gap.chars ++ cs, n⟩ = r ⟨cs, n + byteLength gap.chars⟩

/-- Whoever looks past the blanks sees the same behind more of them. -/
lemma patient_peekPastGaps : Patient peekPastGaps := by
  intro gap cs n
  have all : (gap.chars ++ cs).takeWhile isGap = gap.chars ++ cs.takeWhile isGap :=
    List.takeWhile_append_of_pos gap.blank
  rw [peekPastGaps, bind_of_ok (show gaps _ = _ from rfl), bind_of_ok (show gaps _ = _ from rfl),
    all, List.length_append, Cursor.skip_add, Cursor.skip_append]

namespace Patient

/-- Whoever does not mind blanks at first does not mind them at all. -/
lemma bind {r : Reader α} (patient : Patient r) (f : α → Reader β) : Patient (r >>= f) := by
  intro gap cs n
  show (r _ >>= fun x => f x.1 x.2) = (r _ >>= fun x => f x.1 x.2)
  rw [patient gap cs n]

/-- Whoever looks past the blanks does not mind them. -/
lemma look (f : Option Char → Reader β) : Patient (peekPastGaps >>= f) :=
  patient_peekPastGaps.bind f

/-- A reader that does not mind blanks reads the same behind them. -/
lemma reads {r : Reader α} {cs rest : List Char} {a : α} (patient : Patient r) (gap : Gap)
    (reads : Reads r cs rest a) : Reads r (gap.chars ++ cs) rest a := by
  intro n
  rw [List.append_assoc, patient, reads, Text.byteLength_append, Nat.add_assoc]

end Patient

/-- What is read from a text has whatever property all has that its reader reads. -/
lemma of_read {P : α → Prop} {r : Reader α} (yields : Text.Yields P r) {text : String} {a : α}
    (accepted : read r text = .ok a) : P a := by
  have yields : Text.Yields P (wholly r) := by
    refine .bind yields fun b here => .after fun next => ?_
    split
    · exact .pure here
    · exact .of_error fun c => ⟨_, rfl⟩
  unfold read at accepted
  split at accepted
  · next b rest done =>
    cases accepted
    exact yields done
  · cases accepted

/-- A text that a reader reads up to the blanks at its end is read. -/
lemma read_of_reads {r : Reader α} {cs : List Char} {gap : Gap} {a : α}
    (reads : Reads r cs gap.chars a) : read r (String.ofList (cs ++ gap.chars)) = .ok a := by
  have ended := patient_peekPastGaps gap [] (0 + byteLength cs)
  rw [List.append_nil] at ended
  have whole : (wholly r).run ⟨cs ++ gap.chars, 0⟩ =
      .ok (a, ⟨[], 0 + byteLength cs + byteLength gap.chars⟩) := by
    rw [StateT.run, wholly, bind_of_ok (reads 0), bind_of_ok (ended.trans rfl)]
    rfl
  rw [read, String.toList_ofList, whole]

/-- The letters of a word are read. -/
lemma reads_restOfWord (cs rest : List Char) : Reads (restOfWord cs) cs rest () := by
  induction cs with
  | nil => exact .pure () rest
  | cons c cs ih =>
    intro n
    have next : (advance >>= fun _ => restOfWord cs) ⟨c :: cs ++ rest, n⟩ = _ := ih.advance n
    rw [restOfWord, bind_of_ok (show peek _ = _ from rfl)]
    simpa only [List.cons_append, List.head?_cons, if_true] using next

/-- Four hexadecimal digits are read as their number. -/
lemma reads_readUnit {ds : List Char} {n : Nat} (unit : IsUnit ds n) (rest : List Char) :
    Reads readUnit ds rest n := by
  intro o
  obtain ⟨four, value⟩ := unit
  have front : (ds ++ rest).take 4 = ds := List.take_left' four
  have behind := Cursor.skip_append ds rest o
  rw [four] at behind
  simp only [readUnit, front, four, value, behind]

/-- A letter behind a backslash is read as the character that it stands for. -/
lemma reads_readEscape {x c : Char} (letter : shortEscape? x = some c) (rest : List Char) :
    Reads readEscape [x] rest c := by
  refine .peek ?_
  rw [List.cons_append, List.head?_cons]
  split
  · next none => cases none
  · next u =>
    cases u
    cases letter
  · next here =>
    cases here
    rw [letter]
    exact .advance (.pure c rest)

/-- The character that has to follow is read. -/
lemma reads_readInPair (x : Char) (rest : List Char) : Reads (readInPair x) [x] rest () := by
  refine .peek ?_
  rw [List.cons_append, List.head?_cons]
  simp only [if_true]
  exact fun _ => rfl

/-- A code point that is no half of a surrogate pair is read as its character. -/
lemma reads_readEscape_unit {ds : List Char} {n : Nat} (unit : IsUnit ds n)
    (high : isHighSurrogate n = false) (low : isLowSurrogate n = false) (rest : List Char) :
    Reads readEscape ('u' :: ds) rest (Char.ofNat n) := by
  show Reads (advance >>= fun _ => readCodePoint) _ _ _
  refine .skip ?_
  rw [readCodePoint]
  refine (reads_readUnit unit rest).settle ?_
  rw [if_neg (by rw [low]; decide), if_neg (by rw [high]; decide)]
  exact .pure _ rest

/-- A surrogate pair is read as its character. -/
lemma reads_readEscape_pair {ds es : List Char} {n m : Nat} (first : IsUnit ds n)
    (second : IsUnit es m) (high : isHighSurrogate n = true) (low : isLowSurrogate m = true)
    (rest : List Char) :
    Reads readEscape ('u' :: (ds ++ '\\' :: 'u' :: es)) rest
      (Char.ofNat ((n - 0xd800) * 0x400 + (m - 0xdc00) + 0x10000)) := by
  have other : isLowSurrogate n = false := by
    simp [isHighSurrogate, isLowSurrogate] at high ⊢
    omega
  show Reads (advance >>= fun _ => readCodePoint) _ _ _
  refine .skip ?_
  rw [readCodePoint]
  refine (reads_readUnit first _).bind ?_
  rw [if_neg (by rw [other]; decide), if_pos high]
  show Reads _ (['\\'] ++ (['u'] ++ es)) rest _
  refine (reads_readInPair _ _).bind ((reads_readInPair _ _).bind
    ((reads_readUnit second rest).settle ?_))
  rw [if_pos low]
  exact .pure _ rest

/-- A character that stands for itself is read as itself. -/
lemma readCharsFor_plain {c : Char} (here : isPlain c = true) (fuel : Nat) (done cs : List Char)
    (n : Nat) : readCharsFor (fuel + 1) done ⟨c :: cs, n⟩ =
      readCharsFor fuel (c :: done) ⟨cs, n + c.utf8Size⟩ := by
  have quote : c ≠ '"' := by
    rintro rfl
    cases here
  have backslash : c ≠ '\\' := by
    rintro rfl
    cases here
  rw [readCharsFor, bind_of_ok (show peek _ = .ok (some c, _) from rfl)]
  simp only [here, if_true]
  rfl

/-- A character that stands for itself is read in a string. -/
lemma Reads.plain {fuel : Nat} {done cs ds rest : List Char} {c : Char} (here : isPlain c = true)
    (later : Reads (readCharsFor fuel (c :: done)) ds rest cs) :
    Reads (readCharsFor (fuel + 1) done) (c :: ds) rest cs := by
  intro n
  rw [List.cons_append, readCharsFor_plain here, later, byteLength, Nat.add_assoc]

/-- An escape is read in a string. -/
lemma Reads.escape {fuel : Nat} {done es cs ds rest : List Char} {c : Char}
    (escape : ∀ rest, Reads readEscape es rest c)
    (later : Reads (readCharsFor fuel (c :: done)) ds rest cs) :
    Reads (readCharsFor (fuel + 1) done) ('\\' :: (es ++ ds)) rest cs :=
  have both : Reads (readEscape >>= fun x => readCharsFor fuel (x :: done)) (es ++ ds) rest cs :=
    (escape _).bind later
  .skip both

/-- What a string spells is read up to its closing quote. -/
lemma Spells.reads_readCharsFor {cs body : List Char} (spells : Spells cs body) {fuel : Nat}
    (enough : body.length < fuel) (done rest : List Char) :
    Reads (readCharsFor fuel done) (body ++ ['"']) rest (done.reverse ++ cs) := by
  -- Every character uses up one unit of the fuel, however it is written.
  induction spells generalizing fuel done with
  | nil =>
    obtain _ | fuel := fuel
    · cases enough
    · rw [List.append_nil]
      exact fun _ => rfl
  | @plain c cs body here _ ih =>
    obtain _ | fuel := fuel
    · cases enough
    · have later := ih (Nat.lt_of_succ_lt_succ enough) (c :: done)
      rw [List.reverse_cons, List.append_assoc] at later
      exact .plain here later
  | @short x c cs body letter _ ih =>
    obtain _ | fuel := fuel
    · cases enough
    · have shorter : body.length < fuel := by
        simp only [List.length_cons] at enough
        omega
      have later := ih shorter (c :: done)
      rw [List.reverse_cons, List.append_assoc] at later
      have all := Reads.escape (reads_readEscape letter) later
      exact all
  | @unit ds cs body n digits high low _ ih =>
    obtain _ | fuel := fuel
    · cases enough
    · have shorter : body.length < fuel := by
        simp only [List.length_cons, List.length_append] at enough
        omega
      have later := ih shorter (Char.ofNat n :: done)
      rw [List.reverse_cons, List.append_assoc] at later
      have all := Reads.escape (reads_readEscape_unit digits high low) later
      rwa [List.cons_append, ← List.append_assoc] at all
  | @pair ds es cs body n m first second high low _ ih =>
    obtain _ | fuel := fuel
    · cases enough
    · have shorter : body.length < fuel := by
        simp only [List.length_cons, List.length_append] at enough
        omega
      have later := ih shorter (Char.ofNat ((n - 0xd800) * 0x400 + (m - 0xdc00) + 0x10000) :: done)
      rw [List.reverse_cons, List.append_assoc] at later
      have all := Reads.escape (reads_readEscape_pair first second high low) later
      simpa only [List.cons_append, List.append_assoc, List.nil_append] using all

/-- What a string spells is read after its opening quote. -/
lemma Spells.reads {cs body : List Char} (spells : Spells cs body) (rest : List Char) :
    Reads readChars (body ++ ['"']) rest cs := by
  intro n
  refine spells.reads_readCharsFor ?_ [] rest n
  simp only [List.length_append]
  omega

/-- A string is read back after its opening quote. -/
lemma exists_textChars (cs : List Char) :
    ∃ ds, textChars cs = '"' :: ds ∧ ∀ rest, Reads readChars ds rest cs :=
  ⟨_, rfl, (spells_escaped cs).reads⟩

/-- What follows does not go on with a whole number. -/
def Ends (rest : List Char) : Prop :=
  ∀ c ∈ rest.head?, c.isDigit = false ∧ c ≠ '.' ∧ c ≠ 'e' ∧ c ≠ 'E'

/-- What does not go on with a value does not begin with a digit. -/
lemma Ends.noDigit {rest : List Char} (ends : Ends rest) : NoDigit rest :=
  fun c mem => (ends c mem).1

/-- A run of digits is read up to its end. -/
lemma reads_digits {ds rest : List Char} (all : ∀ d ∈ ds, d.isDigit = true) (stop : NoDigit rest) :
    Reads digits ds rest ds := by
  intro n
  rw [digits, Text.takeWhile_digits all stop, Cursor.skip_append]

/-- More digits never make a number smaller. -/
lemma le_ofDigitChars (cs : List Char) (n : Nat) : n ≤ Nat.ofDigitChars 10 cs n := by
  induction cs generalizing n with
  | nil => exact Nat.le_refl n
  | cons c cs ih =>
    rw [Nat.ofDigitChars_cons]
    exact Nat.le_trans (by omega) (ih _)

/-- All digits of a number below 2^64 count. -/
lemma fitting_eq {cs : List Char} {n : Nat} (small : Nat.ofDigitChars 10 cs n < UInt64.size) :
    fitting n cs = (Nat.ofDigitChars 10 cs n, []) := by
  induction cs generalizing n with
  | nil => rfl
  | cons c cs ih =>
    have more : n * 10 + (c.toNat - 48) = 10 * n + (c.toNat - '0'.toNat) := by
      rw [Nat.mul_comm]
      rfl
    rw [Nat.ofDigitChars_cons] at small ⊢
    have less := Nat.lt_of_le_of_lt (le_ofDigitChars cs _) small
    simp only [fitting, more, less, if_true]
    exact ih small

/-- A whole number ends where nothing goes on with it. -/
lemma reads_whole {negative : Bool} {m : Nat} {rest : List Char}
    (range : negative = true → 0 < m ∧ m ≤ 9223372036854775808) (ends : Ends rest) :
    Reads (readNumber.whole negative m []) [] rest
      (if negative then .negative (-m) else .natural m) := by
  rw [readNumber.whole]
  refine .peek ?_
  rw [List.nil_append]
  split
  · next point => exact absurd rfl (ends _ point).2.1
  · next small => exact absurd rfl (ends _ small).2.2.1
  · next large => exact absurd rfl (ends _ large).2.2.2
  · cases negative with
    | false => exact .pure _ rest
    | true =>
      simp only [List.isEmpty_nil, not_true, if_false, if_pos (range rfl), if_true]
      exact .pure _ rest

/-- The digits in front of a number's point are read at once. -/
lemma Digits.readNumber_eq {ds rest : List Char} (digits : Digits ds)
    (zero : ds.head? = some '0' → ds = ['0']) (stop : NoDigit rest) (negative : Bool) (n : Nat) :
    readNumber negative ⟨ds ++ rest, n⟩ =
      readNumber.whole negative (fitting 0 ds).1 (fitting 0 ds).2 ⟨rest, n + byteLength ds⟩ := by
  obtain ⟨c, cs, rfl, digit⟩ := digits.exists_cons
  rw [readNumber, bind_of_ok (show peek _ = .ok (some c, _) from rfl)]
  simp only [digit, not_true, if_false]
  split_ifs with first
  · subst first
    obtain rfl : cs = [] := (List.cons.inj (zero rfl)).2
    rw [bind_of_ok (show advance _ = .ok ((), ⟨rest, n + 1⟩) from rfl),
      bind_of_ok (show peek _ = .ok (rest.head?, _) from rfl)]
    cases head : rest.head? with
    | none => rfl
    | some d =>
      simp only [stop d head, Bool.false_eq_true, if_false]
      rfl
  · rw [bind_of_ok (reads_digits digits.2 stop n)]

/-- A whole number is read back after its sign. -/
lemma reads_readNumber (negative : Bool) {m : Nat} {rest : List Char} (small : m < UInt64.size)
    (range : negative = true → 0 < m ∧ m ≤ 9223372036854775808) (ends : Ends rest) :
    Reads (readNumber negative) (Nat.toDigits 10 m) rest
      (if negative then .negative (-m) else .natural m) := by
  intro n
  have value : Nat.ofDigitChars 10 (Nat.toDigits 10 m) 0 = m :=
    Nat.ofDigitChars_toDigits (by decide) (by decide)
  rw [(digits_toDigits m).readNumber_eq (toDigits_of_zero m) ends.noDigit,
    fitting_eq (by rwa [value]), value]
  exact reads_whole range ends _

end Json

end Outbox
