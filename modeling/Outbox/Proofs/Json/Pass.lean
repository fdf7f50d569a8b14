import Outbox.Proofs.Json.Settled

/-!
# JSON values that are passed over

Every value of the grammar is passed over up to its end (`Valid.reads_passValue`), however deep it
nests. A step needs some of the fuel, and two units for each character are enough: whatever goes on
after a value with some fuel left goes on from the start of the value with that much more (`Goes`).
-/

namespace Outbox.Json

open Text (NoDigit bind_of_ok byteLength)

variable {cs ds rest : List Char} {c : Char}

/-- A letter behind a backslash is passed over. -/
lemma reads_passEscape {x : Char} (letter : shortEscape? x = some c) (rest : List Char) :
    Reads passEscape [x] rest () := by
  refine .peek ?_
  rw [List.cons_append, List.head?_cons]
  split
  · next none => cases none
  · next u =>
    cases u
    cases letter
  · next here =>
    cases here
    rw [if_pos (by rw [letter]; rfl)]
    exact fun _ => rfl

/-- An escape of four digits is passed over. -/
lemma reads_passEscape_unit {n : Nat} (unit : IsUnit ds n) (rest : List Char) :
    Reads passEscape ('u' :: ds) rest () := by
  have digits : Reads (discard readUnit) ds rest () := by
    intro n
    show (readUnit ⟨ds ++ rest, n⟩ >>= fun x => .ok ((), x.2)) = _
    rw [reads_readUnit unit rest n]
    rfl
  exact .skip digits

/-- The characters of a string are passed over up to its closing quote. -/
lemma Body.reads_passCharsFor {bs : List Char} (body : Body bs) {fuel : Nat}
    (enough : bs.length < fuel) (rest : List Char) :
    Reads (passCharsFor fuel) (bs ++ ['"']) rest () := by
  -- Every piece of the body uses up one unit of the fuel, and the quote the last one.
  induction body generalizing fuel with
  | nil =>
    obtain _ | fuel := fuel
    · cases enough
    · exact fun _ => rfl
  | @plain c cs here _ ih =>
    obtain _ | fuel := fuel
    · cases enough
    · refine .peek ?_
      rw [List.cons_append, List.cons_append, List.head?_cons]
      split
      · next none => cases none
      · next quote =>
        cases quote
        cases here
      · next backslash =>
        cases backslash
        cases here
      · next same =>
        cases same
        rw [if_pos here]
        exact .advance (ih (Nat.lt_of_succ_lt_succ enough))
  | @short x c cs letter _ ih =>
    obtain _ | fuel := fuel
    · cases enough
    · have shorter : cs.length < fuel := by
        simp only [List.length_cons] at enough
        omega
      have later := ih shorter
      exact .skip ((reads_passEscape letter _).before later)
  | @unit ds cs n digits _ ih =>
    obtain _ | fuel := fuel
    · cases enough
    · have shorter : cs.length < fuel := by
        simp only [List.length_cons, List.length_append] at enough
        omega
      have later := ih shorter
      have all := (reads_passEscape_unit digits _).before later
      rw [List.cons_append, ← List.append_assoc] at all
      exact .skip all

/-- The body of a string is passed over with its closing quote. -/
lemma Body.reads_passChars {bs : List Char} (body : Body bs) (rest : List Char) :
    Reads passChars (bs ++ ['"']) rest () := by
  intro n
  refine body.reads_passCharsFor ?_ rest n
  simp only [List.length_append]
  omega

/-- The digits of an exponent are passed over, with their sign. -/
lemma reads_passExponent {sign : List Char} (signed : sign = [] ∨ sign = ['+'] ∨ sign = ['-'])
    (digits : Digits ds) (stop : NoDigit rest) : Reads passExponent (sign ++ ds) rest () := by
  obtain ⟨c, cs, rfl, digit⟩ := digits.exists_cons
  have all :
      Reads (do if (← Json.digits).isEmpty then failAhead .invalidNumber) (c :: cs) rest () :=
    (reads_digits digits.2 stop).settle (.pure () rest)
  refine .peek ?_
  obtain rfl | rfl | rfl := signed
  · rw [if_neg ?_]
    · exact all
    · rintro (plus | minus)
      · cases plus
        cases digit
      · cases minus
        cases digit
  · exact all.advance
  · exact all.advance

/-- The exponent of a number is passed over, if it has one. -/
lemma Exponent.reads (withExponent : Exponent cs) (ends : Ends rest) :
    Reads
      (do
        match ← peek with
        | some 'e' | some 'E' => advance; passExponent
        | _ => return ())
      cs rest () := by
  cases withExponent with
  | scale letter signed digits =>
    have later := reads_passExponent signed digits ends.noDigit
    obtain rfl | rfl := letter <;> exact .skip later
  | none =>
    refine .peek ?_
    rw [List.nil_append]
    split
    · next small => exact absurd rfl (ends _ small).2.2.1
    · next large => exact absurd rfl (ends _ large).2.2.2
    · exact .pure () rest

/-- The digits behind a point are passed over, with an exponent. -/
lemma reads_passFraction {exponent : List Char} (digits : Digits ds)
    (withExponent : Exponent exponent) (ends : Ends rest) :
    Reads passFraction (ds ++ exponent) rest () := by
  obtain ⟨c, cs, rfl, _⟩ := digits.exists_cons
  refine (reads_digits digits.2 (withExponent.noDigit ends.noDigit)).bind ?_
  exact withExponent.reads ends

/-- A number is passed over after its sign. -/
lemma Unsigned.reads_passNumber (unsigned : Unsigned cs) (ends : Ends rest) :
    Reads passNumber cs rest () := by
  obtain @⟨whole, fraction, exponent, digits, zero, withFraction, withExponent⟩ := unsigned
  obtain ⟨c, ds, same, digit⟩ := digits.exists_cons
  have stop := withFraction.noDigit (withExponent.noDigit ends.noDigit)
  rw [← List.append_assoc] at stop
  refine .peek ((reads_digits digits.2 stop).bind ?_)
  have some : whole.isEmpty = false := by rw [same]; rfl
  have single : ¬ ((whole ++ (fraction ++ exponent) ++ rest).head? = Option.some '0' ∧
      1 < whole.length) := by
    rintro ⟨leading, more⟩
    rw [zero (by rw [same] at leading ⊢; exact leading)] at more
    exact Nat.lt_irrefl 1 more
  rw [if_neg (by rw [some]; decide), if_neg single]
  cases withFraction with
  | point pointed => exact .skip (reads_passFraction pointed withExponent ends)
  | none =>
    cases withExponent with
    | scale letter signed digits =>
      have later := reads_passExponent signed digits ends.noDigit
      obtain rfl | rfl := letter <;> exact .skip later
    | none =>
      refine .peek ?_
      rw [List.nil_append, List.nil_append]
      split
      · next point => exact absurd rfl (ends _ point).2.1
      · next small => exact absurd rfl (ends _ small).2.2.1
      · next large => exact absurd rfl (ends _ large).2.2.2
      · exact .pure () rest

/-- With so much fuel, a value is passed over from some step on, with some brackets open. -/
def Goes (fuel : Nat) (step : Step) (stack : List Bracket) (cs rest : List Char) : Prop :=
  ∀ k, fuel ≤ k → Reads (passFor k step stack) cs rest ()

/-- Blanks in front of a value that is passed over make no difference. -/
lemma patient_value (k : Nat) (stack : List Bracket) : Patient (passFor (k + 1) .value stack) :=
  (Patient.look _).bind _

/-- Before an item of a bracket and its label, blanks do not matter. -/
lemma patient_label (b : Bracket) (k : Nat) (stack : List Bracket) :
    Patient (b.passLabel >>= fun _ => passFor (k + 1) .value stack) := by
  cases b with
  | list => exact fun gap cs n => patient_value k stack gap cs n
  | object => exact (Patient.look _).bind _

/-- The text of an item with its label: it starts like one, and whatever goes on after it goes on
from its start. -/
structure Part (b : Bracket) (cs : List Char) : Prop where
  starts : ∃ (gap : Gap) (c : Char) (ds : List Char),
    cs = gap.chars ++ c :: ds ∧ isGap c = false ∧ c ≠ b.closing
  goes : ∀ {fuel : Nat} {stack : List Bracket} {ds rest : List Char}, Ends (ds ++ rest) →
    Goes fuel .next (b :: stack) ds rest → ∀ k, fuel + 2 * cs.length ≤ k →
    Reads (b.passLabel >>= fun _ => passFor k .value (b :: stack)) (cs ++ ds) rest ()

/-- A value goes on where its scalar or opening bracket ends. -/
lemma Goes.of_scalar {fuel : Nat} {stack : List Bracket}
    (scalar : Reads passScalar cs (ds ++ rest) none) (some : 0 < cs.length)
    (goes : Goes fuel .next stack ds rest) :
    Goes (fuel + 2 * cs.length) .value stack (cs ++ ds) rest := by
  intro k enough
  obtain ⟨k, rfl⟩ : ∃ j, k = j + 1 := ⟨k - 1, by omega⟩
  exact scalar.bind (goes k (by omega))

variable {fuel : Nat} {b : Bracket} {stack : List Bracket}

/-- No bracket closes with a comma. -/
lemma closing_ne_comma (b : Bracket) : ',' ≠ b.closing := by
  cases b <;> decide

/-- No bracket closes with a blank. -/
lemma isGap_closing (b : Bracket) : isGap b.closing = false := by
  cases b <;> rfl

/-- What the next character means inside a bracket. -/
def passInside (k : Nat) (step : Step) (b : Bracket) (stack : List Bracket) :
    Option Char → Reader Unit
  | none => failHere b.ended
  | some c =>
    if c = b.closing then do
      advance
      passFor k .next stack
    else if step = .first then do
      b.passLabel
      passFor k .value (b :: stack)
    else if c = ',' then do
      advance
      b.passLabel
      passFor k .value (b :: stack)
    else failAhead b.unseparated

/-- Inside a bracket, a step looks past the blanks and goes on with what it sees. -/
lemma passFor_inside {step : Step} (inside : step ≠ .value) (k : Nat) (b : Bracket)
    (stack : List Bracket) :
    passFor (k + 1) step (b :: stack) = peekPastGaps >>= passInside k step b stack := by
  cases step with
  | value => exact absurd rfl inside
  | first | next => rfl

/-- Blanks inside a bracket do not matter. -/
lemma Goes.past {step : Step} (inside : step ≠ .value) (goes : Goes fuel step (b :: stack) ds rest)
    (gap : Gap) : Goes fuel step (b :: stack) (gap.chars ++ ds) rest := by
  intro k enough
  have reads := goes k enough
  cases k with
  | zero => cases reads 0
  | succ k =>
    rw [passFor_inside inside] at reads ⊢
    exact (Patient.look _).reads gap reads

/-- The end of a bracket is passed over. -/
lemma Goes.close {step : Step} (inside : step ≠ .value) (goes : Goes fuel .next stack ds rest) :
    Goes (fuel + 1) step (b :: stack) (b.closing :: ds) rest := by
  intro k enough
  obtain ⟨k, rfl⟩ : ∃ j, k = j + 1 := ⟨k - 1, by omega⟩
  rw [passFor_inside inside]
  refine .look (isGap_closing b) ?_
  rw [passInside, if_pos rfl]
  exact .skip (goes k (by omega))

/-- The first item of a bracket is passed over. -/
lemma Part.first (part : Part b cs) (ends : Ends (ds ++ rest))
    (goes : Goes fuel .next (b :: stack) ds rest) :
    Goes (fuel + 2 * cs.length + 1) .first (b :: stack) (cs ++ ds) rest := by
  intro k enough
  obtain ⟨gap, c, es, rfl, solid, other⟩ := part.starts
  obtain ⟨k, rfl⟩ : ∃ j, k = j + 2 :=
    ⟨k - 2, by simp only [List.length_append, List.length_cons] at enough; omega⟩
  have inside : passInside (k + 1) .first b stack (some c) =
      b.passLabel >>= fun _ => passFor (k + 1) .value (b :: stack) := by
    rw [passInside, if_neg other, if_pos rfl]
  intro n
  rw [passFor_inside Step.noConfusion, List.append_assoc, List.append_assoc,
    Patient.look _ gap, List.cons_append, Text.bind_of_ok (peekPastGaps_of_solid solid _ _), inside]
  have reads := part.goes ends goes (k + 1) (by omega) n
  rw [List.append_assoc, List.append_assoc, patient_label] at reads
  exact reads

/-- A later item of a bracket is passed over with the comma before it. -/
lemma Part.next (part : Part b cs) (ends : Ends (ds ++ rest))
    (goes : Goes fuel .next (b :: stack) ds rest) :
    Goes (fuel + 2 * (',' :: cs).length) .next (b :: stack) (',' :: cs ++ ds) rest := by
  intro k enough
  rw [List.length_cons] at enough
  obtain ⟨k, rfl⟩ : ∃ j, k = j + 1 := ⟨k - 1, by omega⟩
  rw [passFor_inside Step.noConfusion]
  refine .look rfl ?_
  rw [passInside, if_neg (closing_ne_comma b), if_neg Step.noConfusion, if_pos rfl]
  exact .skip (part.goes ends goes k (by omega))

/-- Neither a comma nor a closing bracket goes on with a value. -/
lemma ends_parts (parts : List (List Char)) (b : Bracket) (rest : List Char) :
    Ends (parts.flatMap (',' :: ·) ++ b.closing :: rest) := by
  cases parts with
  | nil => cases b <;> simp [Ends, Bracket.closing]
  | cons => simp [Ends]

/-- After an item of a bracket, the other items are passed over up to its end. -/
lemma goes_parts {parts : List (List Char)} (each : ∀ part ∈ parts, Part b part)
    (goes : Goes fuel .next stack ds rest) :
    Goes (fuel + 1 + 2 * (parts.flatMap (',' :: ·)).length) .next (b :: stack)
      (parts.flatMap (',' :: ·) ++ b.closing :: ds) rest := by
  induction parts with
  | nil => exact goes.close Step.noConfusion
  | cons part parts ih =>
    obtain ⟨here, others⟩ := List.forall_mem_cons.1 each
    have ends : Ends (parts.flatMap (',' :: ·) ++ b.closing :: ds ++ rest) := by
      rw [List.append_assoc]
      exact ends_parts parts b _
    have all := here.next ends (ih others)
    rw [List.flatMap_cons, List.length_append, Nat.mul_add, List.append_assoc]
    rwa [Nat.add_assoc, Nat.add_comm (2 * _)] at all

/-- A bracket is passed over up to its end. -/
lemma goes_bracket (gap : Gap) {parts : List (List Char)} (each : ∀ part ∈ parts, Part b part)
    (goes : Goes fuel .next stack ds rest) :
    Goes (fuel + 2 + 2 * ([','].intercalate parts).length) .first (b :: stack)
      (gap.chars ++ ([','].intercalate parts ++ b.closing :: ds)) rest := by
  refine Goes.past Step.noConfusion ?_ gap
  cases parts with
  | nil => exact fun k enough => goes.close Step.noConfusion k (by simp at enough; omega)
  | cons part parts =>
    obtain ⟨here, others⟩ := List.forall_mem_cons.1 each
    have ends : Ends (parts.flatMap (',' :: ·) ++ b.closing :: ds ++ rest) := by
      rw [List.append_assoc]
      exact ends_parts parts b _
    have all := here.first ends (goes_parts others goes)
    rw [intercalate_cons, List.append_assoc, List.length_append]
    exact fun k enough => all k (by omega)

/-- A value is passed over when whatever goes on after it goes on from its start. -/
def Passes (cs : List Char) : Prop :=
  ∀ {fuel : Nat} {stack : List Bracket} {ds rest : List Char}, Ends (ds ++ rest) →
    Goes fuel .next stack ds rest → Goes (fuel + 2 * cs.length) .value stack (cs ++ ds) rest

/-- An item in a bracket is passed over with the blanks around it. -/
lemma Item.reads_value {i : Item} (passes : Passes i.value) (some : 0 < i.value.length)
    (ends : Ends (ds ++ rest)) (goes : Goes fuel .next (b :: stack) ds rest) {k : Nat}
    (enough : fuel + 2 * i.chars.length ≤ k) :
    Reads (passFor k .value (b :: stack)) (i.chars ++ ds) rest () := by
  have later : Ends (i.after.chars ++ ds ++ rest) := by
    rw [List.append_assoc]
    exact ends.gap i.after
  have length : i.chars.length =
      i.before.chars.length + (i.value.length + i.after.chars.length) := by
    rw [Item.chars, List.length_append, List.length_append]
  obtain ⟨k, rfl⟩ : ∃ j, k = j + 1 := ⟨k - 1, by omega⟩
  have value := passes later (goes.past Step.noConfusion i.after) (k + 1) (by omega)
  rw [Item.chars, List.append_assoc, List.append_assoc]
  exact (patient_value k _).reads i.before value

/-- An item is a part of a list. -/
lemma Item.part {i : Item} (valid : Valid i.value) (passes : Passes i.value) :
    Part .list i.chars := by
  obtain ⟨c, cs, same, solid, other⟩ := valid.exists_cons
  have some : 0 < i.value.length := by
    rw [same]
    exact Nat.succ_pos _
  refine ⟨⟨i.before, c, cs ++ i.after.chars, by rw [Item.chars, same]; rfl, solid, other⟩, ?_⟩
  intro fuel stack ds rest ends goes k enough n
  exact Item.reads_value passes some ends goes enough n

/-- A key is passed over with its colon. -/
lemma Member.reads_passKey (m : Member) (rest : List Char) :
    Reads passKey (m.before.chars ++ '"' :: (m.key ++ ['"'] ++ (m.between.chars ++ [':']))) rest
      () := by
  refine (Patient.look _).reads m.before (.look rfl (.skip ?_))
  refine (m.body.reads_passChars _).before ?_
  exact (Patient.look _).reads m.between (.look rfl fun _ => rfl)

/-- A member is a part of an object. -/
lemma Member.part {m : Member} (valid : Valid m.item.value) (passes : Passes m.item.value) :
    Part .object m.chars := by
  obtain ⟨c, cs, same, _⟩ := valid.exists_cons
  have some : 0 < m.item.value.length := by
    rw [same]
    exact Nat.succ_pos _
  refine ⟨⟨m.before, '"', _, rfl, rfl, by decide⟩, ?_⟩
  intro fuel stack ds rest ends goes k enough
  have length : m.item.chars.length ≤ m.chars.length := by
    simp only [Member.chars, Member.tail, Item.chars, List.length_append, List.length_cons]
    omega
  have value := Item.reads_value passes some ends goes (k := k) (by omega)
  have both := (m.reads_passKey _).before value
  have text : m.before.chars ++ '"' :: (m.key ++ ['"'] ++ (m.between.chars ++ [':'])) ++
      (m.item.chars ++ ds) = m.chars ++ ds := by
    simp only [Member.chars, Member.tail, Item.chars, List.append_assoc, List.cons_append,
      List.nil_append]
  rwa [text] at both

/-- A value without parts that is passed over in one go is passed over. -/
lemma passes_scalar (scalar : ∀ rest, Ends rest → Reads passScalar cs rest none)
    (some : 0 < cs.length) : Passes cs :=
  fun ends goes => goes.of_scalar (scalar _ ends) some

/-- A bracket is passed over with what is in it. -/
lemma passes_bracket {opening : Char} (opens : ∀ rest, Reads passScalar [opening] rest (some b))
    (gap : Gap) {parts : List (List Char)} (each : ∀ part ∈ parts, Part b part) :
    Passes (opening :: (gap.chars ++ [','].intercalate parts ++ [b.closing])) := by
  intro fuel stack ds rest ends goes k enough
  simp only [List.length_append, List.length_cons, List.length_nil] at enough
  obtain ⟨k, rfl⟩ : ∃ j, k = j + 1 := ⟨k - 1, by omega⟩
  have inside := goes_bracket (b := b) gap each goes k (by omega)
  rw [List.cons_append, List.append_assoc, List.append_assoc, List.singleton_append]
  exact (opens _).bind inside

/-- Every value is passed over, however deep it nests. -/
lemma Valid.passes (valid : Valid cs) : Passes cs := by
  -- Scalars are passed at once; a bracket waits on the stack until its parts are passed.
  induction valid with
  | null | yes | no =>
    refine passes_scalar (fun rest _ => ?_) (by decide)
    exact .look rfl (.advance ((reads_restOfWord _ rest).map _))
  | positive unsigned =>
    obtain ⟨c, ds, rfl, digit⟩ := unsigned.exists_cons
    refine passes_scalar (fun rest ends => .look (isGap_of_isDigit digit) ?_) (by simp)
    have reads := (unsigned.reads_passNumber ends).map fun _ => (none : Option Bracket)
    split
    case h_9 c same =>
      cases same
      rw [if_pos digit]
      exact reads
    all_goals
      rename_i same
      cases same
    all_goals cases digit
  | negative unsigned =>
    refine passes_scalar (fun rest ends => ?_) (by simp)
    exact .look rfl (.advance ((unsigned.reads_passNumber ends).map _))
  | text body =>
    refine passes_scalar (fun rest _ => ?_) (by simp)
    exact .look rfl (.advance ((body.reads_passChars rest).map _))
  | list gap items valid ih =>
    refine passes_bracket (b := .list) (fun _ _ => rfl) gap ?_
    intro part mem
    obtain ⟨i, inside, rfl⟩ := List.mem_map.1 mem
    exact Item.part (valid i inside) (ih i inside)
  | object gap members valid ih =>
    refine passes_bracket (b := .object) (fun _ _ => rfl) gap ?_
    intro part mem
    obtain ⟨m, inside, rfl⟩ := List.mem_map.1 mem
    exact Member.part (valid m inside) (ih m inside)

/-- A value that nobody asked for is passed over with the blanks in front of it. -/
lemma Valid.reads_passValue (valid : Valid cs) (gap : Gap) (ends : Ends rest) :
    Reads passValue (gap.chars ++ cs) rest () := by
  intro n
  have done : Goes 1 .next [] [] rest := by
    intro k enough
    obtain ⟨k, rfl⟩ : ∃ j, k = j + 1 := ⟨k - 1, by omega⟩
    exact .pure () rest
  have all : Goes (1 + 2 * cs.length) .value [] (cs ++ []) rest := valid.passes ends done
  rw [List.append_nil] at all
  exact (patient_value _ []).reads gap (all _ (by simp only [List.length_append]; omega)) n

end Outbox.Json
