import Outbox.Proofs.Json

/-!
# Readers that settle what some characters mean

A reader settles some characters when it makes the same of them in front of anything that does not
go on with them: it reads one value off them, or it refuses them (`Settled`). Strings are settled
(`Body.settled`), and so are numbers for whoever wants whole ones (`Unsigned.settled`).
-/

namespace Outbox.Json

open Text (NoDigit bind_of_ok byteLength)

variable {α β : Type} {r : Reader α} {f : α → Reader β} {cs ds rest : List Char} {a : α} {c : Char}

/-- A fault of the first reader is the fault of both. -/
lemma bind_of_error {s : Cursor} {fault : Fault} (error : r s = .error fault) :
    (r >>= f) s = .error fault := by
  show (r s >>= fun x => f x.1 x.2) = _
  rw [error]
  rfl

/-- Blanks do not go on with a number. -/
lemma Ends.gap {rest : List Char} (ends : Ends rest) (gap : Gap) : Ends (gap.chars ++ rest) := by
  obtain ⟨blanks, blank⟩ := gap
  cases blanks with
  | nil => exact ends
  | cons c cs =>
    rintro x ⟨⟩
    have isBlank := blank c List.mem_cons_self
    refine ⟨?_, ?_, ?_, ?_⟩
    · by_contra digit
      rw [isGap_of_isDigit (Bool.of_not_eq_false digit)] at isBlank
      cases isBlank
    all_goals
      rintro rfl
      cases isBlank

/-- In front of the rest of a text, a reader refuses some characters. -/
def Refuses (r : Reader α) (cs rest : List Char) : Prop :=
  ∀ n, ∃ fault, r ⟨cs ++ rest, n⟩ = .error fault

/-- A reader that refuses everything. -/
def Fails (r : Reader α) : Prop :=
  ∀ s, ∃ fault, r s = .error fault

/-- A fault after the bytes read so far is a failure. -/
lemma fails_failHere (cause : Cause) : Fails (failHere cause : Reader α) :=
  fun _ => ⟨_, rfl⟩

/-- A fault at the next byte is a failure. -/
lemma fails_failAhead (cause : Cause) : Fails (failAhead cause : Reader α) :=
  fun _ => ⟨_, rfl⟩

namespace Fails

/-- Who always fails refuses every text. -/
lemma refuses (fails : Fails r) (cs rest : List Char) : Refuses r cs rest :=
  fun _ => fails _

/-- Who always fails fails with whatever comes after. -/
lemma before (fails : Fails r) (f : α → Reader β) : Fails (r >>= f) := by
  intro s
  obtain ⟨fault, error⟩ := fails s
  exact ⟨fault, bind_of_error error⟩

/-- Whoever fails after anything that was read always fails. -/
lemma bind (fails : ∀ a, Fails (f a)) : Fails (r >>= f) := by
  intro s
  cases first : r s with
  | error fault => exact ⟨fault, bind_of_error first⟩
  | ok x =>
    rw [bind_of_ok (show r s = .ok (x.1, x.2) from first)]
    exact fails x.1 x.2

end Fails

namespace Refuses

/-- What one reader refuses is refused. -/
lemma bind (refuses : Refuses r cs rest) : Refuses (r >>= f) cs rest := by
  intro n
  obtain ⟨fault, error⟩ := refuses n
  exact ⟨fault, bind_of_error error⟩

/-- What is refused is refused whatever comes next. -/
lemma early (refuses : Refuses r cs (ds ++ rest)) : Refuses r (cs ++ ds) rest := by
  intro n
  rw [List.append_assoc]
  exact refuses n

/-- What the second reader refuses is refused after what the first one read. -/
lemma after (first : Reads r cs (ds ++ rest) a) (next : Refuses (f a) ds rest) :
    Refuses (r >>= f) (cs ++ ds) rest := by
  intro n
  rw [List.append_assoc, bind_of_ok (first n)]
  exact next _

/-- What the second reader refuses is refused after the one character that the first one read. -/
lemma afterOne (first : Reads r [c] (ds ++ rest) a) (next : Refuses (f a) ds rest) :
    Refuses (r >>= f) (c :: ds) rest :=
  after first next

/-- What comes after the last character may be refused without another one. -/
lemma settle (first : Reads r cs rest a) (next : Refuses (f a) [] rest) :
    Refuses (r >>= f) cs rest := by
  have both : Refuses (r >>= f) (cs ++ []) rest := after first next
  rwa [List.append_nil] at both

/-- What comes next is left to the next reader, which refuses it. -/
lemma peek {f : Option Char → Reader β} (next : Refuses (f (cs ++ rest).head?) cs rest) :
    Refuses (Json.peek >>= f) cs rest :=
  next

/-- The next character was passed over, and what follows it is refused. -/
lemma advance {f : Unit → Reader β} (next : Refuses (f ()) cs rest) :
    Refuses (Json.advance >>= f) (c :: cs) rest := by
  have one : Reads Json.advance [c] (cs ++ rest) () := fun _ => rfl
  exact after one next

/-- A reader refuses what follows the next character. -/
lemma skip (next : Refuses r cs rest) : Refuses (Json.advance >>= fun _ => r) (c :: cs) rest :=
  advance next

/-- Whoever only looks at the next character leaves it to the next reader, which refuses it. -/
lemma look {f : Option Char → Reader β} (solid : isGap c = false)
    (next : Refuses (f (some c)) (c :: cs) rest) : Refuses (peekPastGaps >>= f) (c :: cs) rest := by
  intro n
  rw [List.cons_append, bind_of_ok (peekPastGaps_of_solid solid _ n)]
  exact next n

/-- A reader that does not mind blanks refuses the same behind them. -/
lemma past (patient : Patient r) (gap : Gap) (refuses : Refuses r cs rest) :
    Refuses r (gap.chars ++ cs) rest := by
  intro n
  rw [List.append_assoc, patient]
  exact refuses _

end Refuses

/-- A text that its reader refuses is refused. -/
lemma read_of_refuses (refuses : Refuses r cs rest) :
    ∃ report, read r (String.ofList (cs ++ rest)) = .error report := by
  obtain ⟨fault, error⟩ := refuses 0
  have whole : (wholly r).run ⟨cs ++ rest, 0⟩ = .error fault := bind_of_error error
  exact ⟨_, by rw [read, String.toList_ofList, whole]⟩

/-- What a text is read as, when its reader reads what it should and refuses the text otherwise. -/
lemma read_eq_ok_iff {gap : Gap} {P : α → Prop} (reads : ∀ a, P a → Reads r cs gap.chars a)
    (refuses : (∀ a, ¬ P a) → Refuses r cs gap.chars) {a : α} :
    read r (String.ofList (cs ++ gap.chars)) = .ok a ↔ P a := by
  refine ⟨fun accepted => ?_, fun holds => read_of_reads (reads a holds)⟩
  by_cases some : ∃ b, P b
  · obtain ⟨b, holds⟩ := some
    cases (read_of_reads (reads b holds)).symm.trans accepted
    exact holds
  · obtain ⟨report, error⟩ := read_of_refuses (refuses (not_exists.1 some))
    cases error.symm.trans accepted

/-- A reader makes the same of some characters in front of anything that does not go on with them:
it reads one value off them or refuses them. -/
def Settled (r : Reader α) (cs : List Char) : Prop :=
  (∃ a, ∀ rest, Ends rest → Reads r cs rest a) ∨ ∀ rest, Ends rest → Refuses r cs rest

namespace Settled

/-- Reading nothing settles the empty text. -/
lemma pure (a : α) : Settled (Pure.pure a) [] :=
  .inl ⟨a, fun rest _ => .pure a rest⟩

/-- Who always fails settles every text. -/
lemma of_fails (fails : Fails r) (cs : List Char) : Settled r cs :=
  .inr fun rest _ => fails.refuses cs rest

/-- What one reader leaves is settled by the other one. -/
lemma bind (first : Settled r cs) (next : ∀ a, Settled (f a) []) : Settled (r >>= f) cs := by
  obtain ⟨a, reads⟩ | refuses := first
  · obtain ⟨b, goesOn⟩ | refuses := next a
    · exact .inl ⟨b, fun rest ends => (reads rest ends).settle (goesOn rest ends)⟩
    · exact .inr fun rest ends => .settle (reads rest ends) (refuses rest ends)
  · exact .inr fun rest ends => (refuses rest ends).bind

/-- Characters that are read at any place leave it to the others. -/
lemma after (first : ∀ rest, Reads r cs rest a) (next : Settled (f a) ds) :
    Settled (r >>= f) (cs ++ ds) := by
  obtain ⟨b, reads⟩ | refuses := next
  · exact .inl ⟨b, fun rest ends => (first _).bind (reads rest ends)⟩
  · exact .inr fun rest ends => .after (first _) (refuses rest ends)

/-- The next character was passed over, and what follows it is settled. -/
lemma advance {f : Unit → Reader β} (next : Settled (f ()) cs) :
    Settled (Json.advance >>= f) (c :: cs) := by
  have one : ∀ rest, Reads Json.advance [c] rest () := fun _ _ => rfl
  exact after one next

/-- Whoever only looks at the next character leaves it to the next reader, which settles it. -/
lemma look {f : Option Char → Reader β} (solid : isGap c = false)
    (next : Settled (f (some c)) (c :: cs)) : Settled (peekPastGaps >>= f) (c :: cs) := by
  obtain ⟨b, reads⟩ | refuses := next
  · exact .inl ⟨b, fun rest ends => .look solid (reads rest ends)⟩
  · exact .inr fun rest ends => .look solid (refuses rest ends)

end Settled

/-- A character that stands for itself is no reason to refuse a string, nor to accept it. -/
lemma Refuses.plain {fuel : Nat} {done : List Char} (here : isPlain c = true)
    (later : ∀ fuel done, Refuses (readCharsFor fuel done) cs rest) :
    Refuses (readCharsFor fuel done) (c :: cs) rest := by
  cases fuel with
  | zero => exact (fails_failHere _).refuses _ rest
  | succ fuel =>
    intro n
    rw [List.cons_append, readCharsFor_plain here]
    exact later fuel _ _

/-- A string is refused for an escape that is refused. -/
lemma Refuses.escape {fuel : Nat} {done : List Char} (escape : Refuses readEscape cs rest) :
    Refuses (readCharsFor fuel done) ('\\' :: cs) rest := by
  cases fuel with
  | zero => exact (fails_failHere _).refuses _ rest
  | succ fuel =>
    have all : Refuses (readEscape >>= fun x => readCharsFor fuel (x :: done)) cs rest :=
      escape.bind
    exact .skip all

/-- An escape that is read is no reason to refuse a string, nor to accept it. -/
lemma Refuses.afterEscape {fuel : Nat} {done es : List Char}
    (escape : ∀ rest, Reads readEscape es rest c)
    (later : ∀ fuel done, Refuses (readCharsFor fuel done) cs rest) :
    Refuses (readCharsFor fuel done) ('\\' :: (es ++ cs)) rest := by
  cases fuel with
  | zero => exact (fails_failHere _).refuses _ rest
  | succ fuel =>
    have all : Refuses (readEscape >>= fun x => readCharsFor fuel (x :: done)) (es ++ cs) rest :=
      .after (escape _) (later fuel _)
    exact .skip all

/-- Another character than the one that has to follow is refused. -/
lemma refuses_readInPair {x : Char} (other : c ≠ x) : Refuses (readInPair x) (c :: cs) rest := by
  refine .peek ?_
  rw [List.cons_append, List.head?_cons]
  show Refuses (if c = x then Json.advance else failAhead .unfinishedSurrogate) _ _
  rw [if_neg other]
  exact (fails_failAhead _).refuses _ rest

/-- The second half of a surrogate pair that stands alone is refused. -/
lemma refuses_readEscape_low {n : Nat} (unit : IsUnit ds n) (low : isLowSurrogate n = true) :
    Refuses readEscape ('u' :: (ds ++ cs)) rest := by
  refine .advance (f := fun _ => readCodePoint) (.after (reads_readUnit unit _) ?_)
  rw [if_pos low]
  exact (fails_failHere _).refuses _ rest

/-- The first half of a surrogate pair is refused unless the second half follows it. -/
lemma refuses_readEscape_high {n : Nat} (unit : IsUnit ds n) (high : isHighSurrogate n = true)
    (body : Body cs) (other : ∀ es m ds, cs = '\\' :: 'u' :: (es ++ ds) → IsUnit es m →
      isLowSurrogate m = false) :
    Refuses readEscape ('u' :: (ds ++ (cs ++ ['"']))) rest := by
  have low : isLowSurrogate n = false := by
    simp [isHighSurrogate, isLowSurrogate] at high ⊢
    omega
  refine .advance (f := fun _ => readCodePoint) (.after (reads_readUnit unit _) ?_)
  rw [if_neg (by rw [low]; decide), if_pos high]
  cases body with
  | nil => exact (refuses_readInPair (by decide)).bind
  | @plain c cs here _ =>
    refine (refuses_readInPair ?_).bind
    rintro rfl
    cases here
  | @short x c cs letter _ =>
    refine .afterOne (reads_readInPair _ _) (refuses_readInPair ?_).bind
    rintro rfl
    cases letter
  | @unit es cs m second _ =>
    rw [List.cons_append, List.cons_append, List.append_assoc]
    refine .afterOne (reads_readInPair _ _)
      (.afterOne (reads_readInPair _ _) (.after (reads_readUnit second _) ?_))
    rw [if_neg (by rw [other es m cs rfl second]; decide)]
    exact (fails_failHere _).refuses _ rest

/-- What follows an escape of four digits is the body of a string again. -/
lemma Body.after_unit {es ds : List Char} (body : Body ('\\' :: 'u' :: (es ++ ds)))
    (four : es.length = 4) : Body ds := by
  generalize same : '\\' :: 'u' :: (es ++ ds) = bs at body
  cases body with
  | nil => cases same
  | plain here _ =>
    cases same
    cases here
  | short letter _ =>
    cases same
    cases letter
  | unit digits more =>
    have parts := (List.cons.inj (List.cons.inj same).2).2
    obtain ⟨-, rfl⟩ := List.append_inj parts (four.trans digits.1.symm)
    exact more

/-- The second half of a pair does not stand alone. -/
lemma refuses_low {fuel n : Nat} {done ds : List Char} (digits : IsUnit ds n)
    (low : isLowSurrogate n = true) (cs rest : List Char) :
    Refuses (readCharsFor fuel done) ('\\' :: 'u' :: (ds ++ cs) ++ ['"']) rest := by
  have all : Refuses readEscape ('u' :: (ds ++ (cs ++ ['"']))) rest :=
    refuses_readEscape_low digits low
  rw [← List.append_assoc] at all
  exact all.escape

/-- Nor does the first half. -/
lemma Body.refuses_high {fuel n : Nat} {done ds cs : List Char} (more : Body cs)
    (digits : IsUnit ds n) (high : isHighSurrogate n = true)
    (alone : ¬ ∃ es m bs, cs = '\\' :: 'u' :: (es ++ bs) ∧ IsUnit es m ∧ isLowSurrogate m = true)
    (rest : List Char) :
    Refuses (readCharsFor fuel done) ('\\' :: 'u' :: (ds ++ cs) ++ ['"']) rest := by
  have all : Refuses readEscape _ rest := refuses_readEscape_high digits high more
    fun es m bs same second => Bool.eq_false_iff.2 fun low =>
      alone ⟨es, m, bs, same, second, low⟩
  rw [← List.append_assoc] at all
  exact all.escape

/-- What stands between the quotes of a string spells something or is refused. -/
lemma Body.spells_or_refuses {bs : List Char} (body : Body bs) :
    (∃ cs, Spells cs bs) ∨
      ∀ fuel done rest, Refuses (readCharsFor fuel done) (bs ++ ['"']) rest := by
  -- A surrogate pair takes two steps at once.
  induction size : bs.length using Nat.strong_induction_on generalizing bs with
  | h size ih =>
    subst size
    cases body with
    | nil => exact .inl ⟨[], .nil⟩
    | plain here more =>
      obtain ⟨cs, spells⟩ | refuses := ih _ (Nat.lt_succ_self _) more rfl
      · exact .inl ⟨_, .plain here spells⟩
      · exact .inr fun _ _ rest => .plain here (refuses · · rest)
    | @short x c cs letter more =>
      have shorter : cs.length < ('\\' :: x :: cs).length := by
        simp only [List.length_cons]
        omega
      obtain ⟨cs, spells⟩ | refuses := ih _ shorter more rfl
      · exact .inl ⟨_, .short letter spells⟩
      · refine .inr fun fuel done rest => ?_
        have all : Refuses (readCharsFor fuel done) _ rest :=
          .afterEscape (reads_readEscape letter) (refuses · · rest)
        exact all
    | @unit ds cs n digits more =>
      have shorter : cs.length < ('\\' :: 'u' :: (ds ++ cs)).length := by
        simp only [List.length_cons, List.length_append]
        omega
      cases high : isHighSurrogate n with
      | false =>
        cases low : isLowSurrogate n with
        | false =>
          obtain ⟨cs, spells⟩ | refuses := ih _ shorter more rfl
          · exact .inl ⟨_, .unit digits high low spells⟩
          · refine .inr fun fuel done rest => ?_
            have all : Refuses (readCharsFor fuel done) _ rest :=
              .afterEscape (reads_readEscape_unit digits high low) (refuses · · rest)
            rwa [List.cons_append, ← List.append_assoc] at all
        | true => exact .inr fun _ _ rest => refuses_low digits low cs rest
      | true =>
        by_cases pair : ∃ es m ds, cs = '\\' :: 'u' :: (es ++ ds) ∧ IsUnit es m ∧
          isLowSurrogate m = true
        · obtain ⟨es, m, bs, rfl, second, low⟩ := pair
          simp only [List.length_cons, List.length_append] at shorter ih
          obtain ⟨cs, spells⟩ | refuses := ih bs.length (by omega) (more.after_unit second.1) rfl
          · exact .inl ⟨_, .pair digits second high low spells⟩
          · refine .inr fun fuel done rest => ?_
            have all : Refuses (readCharsFor fuel done) _ rest :=
              .afterEscape (reads_readEscape_pair digits second high low) (refuses · · rest)
            simpa only [List.cons_append, List.append_assoc] using all
        · exact .inr fun _ _ rest => more.refuses_high digits high pair rest

/-- A body that spells no characters is refused. -/
lemma Body.refuses {bs : List Char} (body : Body bs) (mute : ¬ ∃ cs, Spells cs bs)
    (rest : List Char) : Refuses readChars (bs ++ ['"']) rest :=
  fun n => (body.spells_or_refuses.resolve_left mute) _ [] rest n

/-- Every string is settled. -/
lemma Body.settled {bs : List Char} (body : Body bs) : Settled readChars (bs ++ ['"']) := by
  by_cases spelt : ∃ cs, Spells cs bs
  · obtain ⟨cs, spells⟩ := spelt
    exact .inl ⟨cs, fun rest _ => spells.reads rest⟩
  · exact .inr fun rest _ => body.refuses spelt rest

/-- A string spells one thing only. -/
lemma Spells.unique {cs ds bs : List Char} (spells : Spells cs bs) (also : Spells ds bs) :
    cs = ds := by
  have same := (spells.reads [] 0).symm.trans (also.reads [] 0)
  exact congrArg Prod.fst (Except.ok.inj same)

/-- A reader that reads no whole number at some place. -/
def Unwhole (r : Reader Number) (s : Cursor) : Prop :=
  ∀ x s', r s = .ok (x, s') → ∃ f, x = .floating f

namespace Unwhole

variable {g : α → Reader Number}

/-- No number comes out of a failure. -/
lemma of_fails {r : Reader Number} (fails : Fails r) (s : Cursor) : Unwhole r s := by
  intro x s' ok
  obtain ⟨fault, error⟩ := fails s
  cases error.symm.trans ok

/-- A reader that ends with no whole number gives none. -/
lemma bind (unwhole : ∀ a s, Unwhole (g a) s) (s : Cursor) : Unwhole (r >>= g) s := by
  intro x s' ok
  cases first : r s with
  | error fault => cases (bind_of_error first).symm.trans ok
  | ok y =>
    rw [bind_of_ok (show r s = .ok (y.1, y.2) from first)] at ok
    exact unwhole _ _ _ _ ok

/-- A floating-point number is not whole. -/
lemma pure (f : Float) (s : Cursor) : Unwhole (Pure.pure (.floating f)) s := by
  rintro x s' ⟨⟩
  exact ⟨f, rfl⟩

/-- What comes next is left to the next reader, which gives no whole number. -/
lemma peek {g : Option Char → Reader Number} {s : Cursor} (next : Unwhole (g s.rest.head?) s) :
    Unwhole (Json.peek >>= g) s :=
  next

/-- What is read of a significand is a floating-point number. -/
lemma floatOf (negative : Bool) (d : Significand) (s : Cursor) :
    Unwhole (floatOf negative d) s := by
  unfold Json.floatOf
  split
  · exact pure _ s
  · exact of_fails (fails_failHere _) s

/-- Behind the sign of an exponent no whole number is read. -/
lemma readExponent (negative : Bool) (d : Significand) (s : Cursor) :
    Unwhole (readExponent negative d) s := by
  unfold Json.readExponent
  refine bind (fun sign s => ?_) s
  extract_lets down goOn
  have digits : ∀ s, Unwhole (goOn ()) s := by
    intro s
    refine bind (fun next s => ?_) s
    cases next with
    | none => exact of_fails (fails_failHere _) s
    | some c =>
      dsimp only
      split
      · exact of_fails (fails_failAhead _) s
      · intro x s' ok
        dsimp only at ok
        split at ok
        · exact floatOf _ _ _ _ _ ok
        · split at ok
          · cases ok
          · cases ok
            exact ⟨_, rfl⟩
  split_ifs
  · exact bind (fun _ => digits) s
  · exact digits s

/-- At a point or an exponent no whole number is read. -/
lemma readScale (negative : Bool) (d : Significand) (s : Cursor) :
    Unwhole (readScale negative d) s := by
  unfold Json.readScale
  refine bind (fun next s => ?_) s
  split
  · exact bind (fun _ => readExponent negative d) s
  · exact bind (fun _ => readExponent negative d) s
  · exact floatOf negative d s

/-- Behind a point no whole number is read. -/
lemma readFraction (negative : Bool) (d : Significand) (s : Cursor) :
    Unwhole (readFraction negative d) s := by
  unfold Json.readFraction
  refine bind (fun ds s => ?_) s
  split_ifs
  · refine bind (fun next s => ?_) s
    cases next with
    | none => exact of_fails (fails_failHere _) s
    | some c => exact of_fails (fails_failAhead _) s
  · exact readScale _ _ s

/-- Digits that are too many, or with anything behind them, give no whole number. -/
lemma whole {negative : Bool} {n : Nat} {left fraction exponent : List Char}
    (withFraction : Fraction fraction) (withExponent : Exponent exponent) (ends : Ends rest)
    (other : ¬ (left = [] ∧ fraction = [] ∧ exponent = [] ∧
      (negative = true → 0 < n ∧ n ≤ 9223372036854775808))) (o : Nat) :
    Unwhole (readNumber.whole negative n left) ⟨fraction ++ (exponent ++ rest), o⟩ := by
  cases withFraction with
  | point digits => exact bind (r := advance) (fun _ => readFraction _ _) _
  | none =>
    cases withExponent with
    | scale letter sign digits =>
      obtain rfl | rfl := letter <;> exact bind (r := advance) (fun _ => readExponent _ _) _
    | none =>
      rw [readNumber.whole]
      refine peek ?_
      rw [List.nil_append, List.nil_append]
      split
      · next point => exact absurd rfl (ends _ point).2.1
      · next small => exact absurd rfl (ends _ small).2.2.1
      · next large => exact absurd rfl (ends _ large).2.2.2
      · by_cases full : left = []
        · have odd : negative = true ∧ ¬ (0 < n ∧ n ≤ 9223372036854775808) := by
            simpa only [full, true_and, Classical.not_imp] using other
          obtain ⟨rfl, range⟩ := odd
          simp only [full, List.isEmpty_nil, not_true, if_false, if_neg range]
          exact pure _ _
        · rw [if_pos (by simpa using full)]
          exact floatOf _ _ _

/-- What refuses floating-point numbers refuses what is no whole number. -/
lemma refuses {r : Reader Number} {g : Number → Reader α} (floats : ∀ f, Fails (g (.floating f)))
    (unwhole : ∀ n, Unwhole r ⟨cs ++ rest, n⟩) : Refuses (r >>= g) cs rest := by
  intro n
  cases first : r ⟨cs ++ rest, n⟩ with
  | error fault => exact ⟨fault, bind_of_error first⟩
  | ok x =>
    obtain ⟨f, same⟩ := unwhole n x.1 x.2 first
    rw [bind_of_ok (show r _ = .ok (x.1, x.2) from first), same]
    exact floats f x.2

end Unwhole

/-- Every number is settled for a reader that goes on with whole numbers only. -/
lemma Unsigned.settled (negative : Bool) (unsigned : Unsigned cs) {g : Number → Reader α}
    (wholes : ∀ x, Settled (g x) []) (floats : ∀ f, Fails (g (.floating f))) :
    Settled (readNumber negative >>= g) cs := by
  obtain @⟨whole, fraction, exponent, digits, zero, withFraction, withExponent⟩ := unsigned
  have start : ∀ rest, Ends rest → ∀ n,
      readNumber negative ⟨whole ++ (fraction ++ exponent) ++ rest, n⟩ =
        readNumber.whole negative (fitting 0 whole).1 (fitting 0 whole).2
          ⟨fraction ++ (exponent ++ rest), n + byteLength whole⟩ := by
    intro rest ends n
    rw [List.append_assoc, List.append_assoc]
    have stop := withFraction.noDigit (withExponent.noDigit ends.noDigit)
    exact digits.readNumber_eq zero stop negative n
  by_cases plain : (fitting 0 whole).2 = [] ∧ fraction = [] ∧ exponent = [] ∧
    (negative = true → 0 < (fitting 0 whole).1 ∧ (fitting 0 whole).1 ≤ 9223372036854775808)
  · obtain ⟨all, rfl, rfl, range⟩ := plain
    have reads : ∀ rest, Ends rest → Reads (readNumber negative) whole rest
        (if negative then .negative (-(fitting 0 whole).1) else .natural (fitting 0 whole).1) := by
      intro rest ends n
      have same := start rest ends n
      rw [List.append_nil, List.append_nil, all] at same
      exact same.trans (reads_whole range ends _)
    rw [List.append_nil, List.append_nil]
    exact .bind (.inl ⟨_, reads⟩) wholes
  · refine .inr fun rest ends => Unwhole.refuses floats fun n x s' ok => ?_
    rw [start rest ends] at ok
    exact Unwhole.whole withFraction withExponent ends plain _ _ _ ok

end Outbox.Json
