import Outbox.Proofs.Form.Value
import Outbox.Settings.Environment

/-!
# What variables say

A variable says a value if its text is a word for it, with blanks around it at most. The words for
numbers and truth values have a grammar (`Numeral`, `Flag`), which is just what the readers of texts
recognize. A chain of readers takes every value that its variables say (`readVariable_eq_ok_iff`) and
fails at the first that says none (`Blames`), so that it is known what becomes of all ten variables
(`variables_exact`).
-/

namespace Outbox.Settings

open Json (Digits digits_toDigits)

/-- A word for a number: decimal digits, after one plus sign at most. -/
inductive Numeral : List Char → Nat → Prop
  | bare {ds} (digits : Digits ds) : Numeral ds (Nat.ofDigitChars 10 ds 0)
  | signed {ds} (digits : Digits ds) : Numeral ('+' :: ds) (Nat.ofDigitChars 10 ds 0)

/-- A text says a number. -/
def Number (text : String) (n : Nat) : Prop :=
  ∃ word, Numeral word n ∧ Text.Padded word text.toList

/-- A text says a number of 64 bits. -/
def Word64 (text : String) (w : UInt64) : Prop :=
  Number text w.toNat

/-- A text says a number of 32 bits. -/
def Word32 (text : String) (w : UInt32) : Prop :=
  Number text w.toNat

/-- A text says a truth value. -/
def Flag (text : String) (b : Bool) : Prop :=
  Text.Padded (if b then ['t', 'r', 'u', 'e'] else ['f', 'a', 'l', 's', 'e']) text.toList

section Words

/-- A word for a number has no blanks in it. -/
lemma Numeral.solid {cs : List Char} {n : Nat} (word : Numeral cs n) :
    ∀ c ∈ cs, Text.isBlank c = false := by
  cases word with
  | bare digits => exact fun c mem => Text.isBlank_of_isDigit (digits.2 c mem)
  | signed digits =>
    rw [List.forall_mem_cons]
    exact ⟨rfl, fun c mem => Text.isBlank_of_isDigit (digits.2 c mem)⟩

/-- Just the words for a number are read as one. -/
lemma spelledNumber?_eq_some_iff {cs : List Char} {n : Nat} :
    spelledNumber? cs = some n ↔ Numeral cs n := by
  have value {ds : List Char} : (if ds.isEmpty || !ds.all Char.isDigit then none
      else some (Nat.ofDigitChars 10 ds 0)) = some n ↔
      Digits ds ∧ Nat.ofDigitChars 10 ds 0 = n := by
    simp [Option.ite_none_left_eq_some, Digits]
  unfold spelledNumber?
  rw [value]
  constructor
  · rintro ⟨digits, rfl⟩
    split at digits
    · exact .signed digits
    · exact .bare digits
  · intro word
    cases word with
    | bare digits =>
      obtain ⟨c, ds, rfl, digit⟩ := digits.exists_cons
      split
      · next same =>
        cases same
        cases digit
      · exact ⟨digits, rfl⟩
    | signed digits => exact ⟨digits, rfl⟩

/-- What is between the blanks of a text is read as a number if it is a word for one. -/
lemma spelledNumber?_trimmed {text : String} {n : Nat} :
    spelledNumber? (Text.trimmed text.toList) = some n ↔ Number text n := by
  rw [spelledNumber?_eq_some_iff]
  constructor
  · exact fun word => ⟨_, word, Text.padded_trimmed text.toList⟩
  · rintro ⟨word, numeral, padded⟩
    rwa [(Text.trimmed_eq_iff_padded numeral.solid).2 padded]

/-- A number fits into 64 bits as the word that has its value, or else it does not fit. -/
lemma word64?_eq_some_iff {n : Nat} {w : UInt64} : Form.word64? n = some w ↔ w.toNat = n := by
  constructor
  · intro same
    obtain ⟨⟨-, fits⟩, same⟩ := Option.ite_none_right_eq_some.1 same
    cases same
    exact UInt64.toNat_ofNat_of_lt' fits
  · rintro rfl
    exact Form.word64?_toNat w

/-- A number fits into 32 bits as the word that has its value, or else it does not fit. -/
lemma word32?_eq_some_iff {n : Nat} {w : UInt32} : Form.word32? n = some w ↔ w.toNat = n := by
  constructor
  · intro same
    obtain ⟨⟨-, fits⟩, same⟩ := Option.ite_none_right_eq_some.1 same
    cases same
    exact UInt32.toNat_ofNat_of_lt' fits
  · rintro rfl
    exact Form.word32?_toNat w

/-- A reader takes off a text what the text says, blanks around it aside. -/
def Recognizes {α : Type} (spelled? : List Char → Option α) (means : String → α → Prop) : Prop :=
  ∀ text a, spelled? (Text.trimmed text.toList) = some a ↔ means text a

/-- A number of 64 bits is read off a text just if the text says it. -/
lemma recognizes_word64 : Recognizes spelledWord64? Word64 := by
  intro text w
  rw [spelledWord64?, Option.bind_eq_some_iff]
  simp only [spelledNumber?_trimmed, word64?_eq_some_iff, exists_eq_right', Word64]

/-- A number of 32 bits is read off a text just if the text says it. -/
lemma recognizes_word32 : Recognizes spelledWord32? Word32 := by
  intro text w
  rw [spelledWord32?, Option.bind_eq_some_iff]
  simp only [spelledNumber?_trimmed, word32?_eq_some_iff, exists_eq_right', Word32]

/-- A truth value is read off a text just if the text says it. -/
lemma recognizes_boolean : Recognizes spelledBoolean? Flag := by
  intro text b
  have solid : ∀ c ∈ if b then ['t', 'r', 'u', 'e'] else ['f', 'a', 'l', 's', 'e'],
      Text.isBlank c = false := by
    cases b <;> simp [Text.isBlank]
  rw [Flag, ← Text.trimmed_eq_iff_padded solid, spelledBoolean?]
  generalize Text.trimmed text.toList = word
  constructor
  · intro spelt
    split at spelt
    · next same =>
      cases spelt
      exact same
    · split at spelt
      · next same =>
        cases spelt
        exact same
      · cases spelt
  · rintro rfl
    cases b <;> rfl

end Words

/-- A setting is what its variable says, or the default where there is no variable. -/
def Takes {α : Type} (lookup : String → Option String) (key : String)
    (means : String → α → Prop) (default a : α) : Prop :=
  match lookup key with
  | none => a = default
  | some text => means text a

/-- Settings are what the variables say. -/
structure Reads (lookup : String → Option String) (s : Settings) : Prop where
  poll : Takes lookup "OUTBOX_POLL_INTERVAL_SECONDS" Word64 5 s.pollIntervalSeconds
  batch : Takes lookup "OUTBOX_BATCH_SIZE" Word64 50 s.batchSize
  parallelism : Takes lookup "OUTBOX_MAX_DEGREE_OF_PARALLELISM" Word64 4 s.parallelism
  ceiling : Takes lookup "OUTBOX_MAX_RETRY_COUNT" Word32 10 s.retryCeiling
  delay : Takes lookup "OUTBOX_RETRY_DELAY_SECONDS" Word64 60 s.retryDelaySeconds
  breaker : Takes lookup "OUTBOX_ENABLE_CIRCUIT_BREAKER" Flag true s.breakerEnabled
  threshold :
    Takes lookup "OUTBOX_CIRCUIT_BREAKER_FAILURE_THRESHOLD" Word32 5 s.breakerThreshold
  reset :
    Takes lookup "OUTBOX_CIRCUIT_BREAKER_RESET_TIMEOUT_SECONDS" Word64 60 s.breakerResetSeconds
  window : Takes lookup "OUTBOX_ENABLE_IDEMPOTENCY" Flag true s.windowEnabled
  hours : Takes lookup "OUTBOX_IDEMPOTENCY_CACHE_HOURS" Word64 24 s.windowHours

/-- A variable with the texts that it may have. -/
abbrev Variable := String × (String → Prop)

/-- A text says something. -/
def Legible {α : Type} (means : String → α → Prop) (text : String) : Prop :=
  ∃ a, means text a

/-- All variables, in the order in which they are read. -/
def allVariables : List Variable :=
  [("OUTBOX_POLL_INTERVAL_SECONDS", Legible Word64),
    ("OUTBOX_BATCH_SIZE", Legible Word64),
    ("OUTBOX_MAX_DEGREE_OF_PARALLELISM", Legible Word64),
    ("OUTBOX_MAX_RETRY_COUNT", Legible Word32),
    ("OUTBOX_RETRY_DELAY_SECONDS", Legible Word64),
    ("OUTBOX_ENABLE_CIRCUIT_BREAKER", Legible Flag),
    ("OUTBOX_CIRCUIT_BREAKER_FAILURE_THRESHOLD", Legible Word32),
    ("OUTBOX_CIRCUIT_BREAKER_RESET_TIMEOUT_SECONDS", Legible Word64),
    ("OUTBOX_ENABLE_IDEMPOTENCY", Legible Flag),
    ("OUTBOX_IDEMPOTENCY_CACHE_HOURS", Legible Word64)]

/-- Of some variables the first one whose text it may not have, with that text. -/
inductive FirstBad (lookup : String → Option String) : List Variable → String → String → Prop
  | here {key accepts later text} (there : lookup key = some text) (bad : ¬ accepts text) :
      FirstBad lookup ((key, accepts) :: later) key text
  | later {key accepts later key' text} (good : ∀ text, lookup key = some text → accepts text)
      (rest : FirstBad lookup later key' text) : FirstBad lookup ((key, accepts) :: later) key' text

/-- A computation fails if one of some variables is bad, with the first of them. -/
def Blames {α : Type} (lookup : String → Option String) (vs : List Variable)
    (x : Except Rejection α) : Prop :=
  ∀ e, x = .error e ↔ ∃ key text, e = .unparsable key text ∧ FirstBad lookup vs key text

section Reading

variable {α β : Type} {lookup : String → Option String} {name : String}
  {spelled? : List Char → Option α} {means : String → α → Prop} {default a : α}

/-- A variable is read as just what it says, or as the default. -/
lemma readVariable_eq_ok_iff (recognizes : Recognizes spelled? means) :
    readVariable lookup name spelled? default = .ok a ↔
      Takes lookup (variableStem ++ name) means default a := by
  simp only [readVariable, Takes, ← recognizes _ a]
  cases lookup (variableStem ++ name) with
  | none => simp only [Except.ok.injEq, eq_comm]
  | some text =>
    dsimp only
    generalize spelled? (Text.trimmed text.toList) = word
    cases word <;> simp

/-- A variable is refused just if there is one and its text says nothing, with its name and that
text. -/
lemma readVariable_eq_error_iff (recognizes : Recognizes spelled? means) {e : Rejection} :
    readVariable lookup name spelled? default = .error e ↔
      ∃ text, lookup (variableStem ++ name) = some text ∧ ¬ Legible means text ∧
        e = .unparsable (variableStem ++ name) text := by
  simp only [readVariable, Legible, ← recognizes _ _]
  cases lookup (variableStem ++ name) with
  | none => simp
  | some text =>
    simp only [Option.some.injEq, exists_eq_left']
    generalize spelled? (Text.trimmed text.toList) = word
    cases word <;> simp [eq_comm]

/-- Without variables there is none to blame. -/
lemma blames_ok : Blames lookup [] (.ok a) := by
  intro e
  constructor
  · nofun
  · rintro ⟨_, _, -, bad⟩
    cases bad

/-- A chain that begins with a variable fails there or further on. -/
lemma Blames.bind {vs : List Variable} {next : α → Except Rejection β}
    (recognizes : Recognizes spelled? means) (rest : ∀ a, Blames lookup vs (next a)) :
    Blames lookup ((variableStem ++ name, Legible means) :: vs)
      (readVariable lookup name spelled? default >>= next) := by
  intro e
  -- Whether this variable is bad decides whether the others are looked at.
  generalize here : readVariable lookup name spelled? default = first
  cases first with
  | error e' =>
    obtain ⟨text, there, bad, rfl⟩ := (readVariable_eq_error_iff recognizes).1 here
    constructor
    · rintro ⟨⟩
      exact ⟨_, text, rfl, .here there bad⟩
    · rintro ⟨key, text', rfl, first⟩
      cases first with
      | here there' =>
        cases there.symm.trans there'
        rfl
      | later good => exact absurd (good text there) bad
  | ok a =>
    have good (text) (there : lookup (variableStem ++ name) = some text) :
        Legible means text := by
      by_contra bad
      cases here.symm.trans ((readVariable_eq_error_iff recognizes).2 ⟨text, there, bad, rfl⟩)
    refine (rest a e).trans ⟨?_, ?_⟩
    · rintro ⟨key, text, rfl, first⟩
      exact ⟨key, text, rfl, .later good first⟩
    · rintro ⟨key, text, rfl, first⟩
      cases first with
      | here there bad => exact absurd (good text there) bad
      | later _ first => exact ⟨key, text, rfl, first⟩

end Reading

section Chain

variable {lookup : String → Option String} {s : Settings}

/-- The reader of all ten variables blames the first bad one. -/
lemma blames_spelled (lookup : String → Option String) :
    Blames lookup allVariables (spelled lookup) := by
  have word64 := recognizes_word64
  have word32 := recognizes_word32
  have boolean := recognizes_boolean
  unfold spelled
  refine .bind word64 fun poll => ?_
  refine .bind word64 fun batch => ?_
  refine .bind word64 fun parallelism => ?_
  refine .bind word32 fun ceiling => ?_
  refine .bind word64 fun delay => ?_
  refine .bind boolean fun breaker => ?_
  refine .bind word32 fun threshold => ?_
  refine .bind word64 fun reset => ?_
  refine .bind boolean fun window => ?_
  refine .bind word64 fun hours => ?_
  exact blames_ok

/-- Of a chain that comes to its end every part did. -/
lemma bind_eq_ok_iff {ε α β : Type} {x : Except ε α} {f : α → Except ε β} {b : β} :
    x >>= f = .ok b ↔ ∃ a, x = .ok a ∧ f a = .ok b := by
  cases x <;> simp [bind, Except.bind]

/-- All ten variables are read as just the settings that they say. -/
lemma spelled_eq_ok_iff : spelled lookup = .ok s ↔ Reads lookup s := by
  unfold spelled
  simp only [bind_eq_ok_iff, readVariable_eq_ok_iff recognizes_word64,
    readVariable_eq_ok_iff recognizes_word32, readVariable_eq_ok_iff recognizes_boolean,
    variableStem, String.reduceAppend]
  constructor
  · rintro ⟨_, poll, _, batch, _, parallelism, _, ceiling, _, delay, _, breaker, _, threshold, _,
      reset, _, window, _, hours, ⟨⟩⟩
    exact ⟨poll, batch, parallelism, ceiling, delay, breaker, threshold, reset, window, hours⟩
  · intro reads
    exact ⟨_, reads.poll, _, reads.batch, _, reads.parallelism, _, reads.ceiling, _, reads.delay, _,
      reads.breaker, _, reads.threshold, _, reads.reset, _, reads.window, _, reads.hours, rfl⟩

end Chain

/-- Whether a value lies in its range. -/
def OutOfRange.Fits (e : OutOfRange) : Prop :=
  e.least ≤ e.value ∧ e.value ≤ e.greatest

/-- Each of the settings that have a range lies in it. -/
structure InRange (s : Settings) : Prop where
  poll : 1 ≤ s.pollIntervalSeconds.toNat ∧ s.pollIntervalSeconds.toNat ≤ 300
  batch : 1 ≤ s.batchSize.toNat ∧ s.batchSize.toNat ≤ 1000
  parallelism : 1 ≤ s.parallelism.toNat ∧ s.parallelism.toNat ≤ 32
  ceiling : 1 ≤ s.retryCeiling.toNat ∧ s.retryCeiling.toNat ≤ 100
  delay : 1 ≤ s.retryDelaySeconds.toNat ∧ s.retryDelaySeconds.toNat ≤ 3600
  threshold : 1 ≤ s.breakerThreshold.toNat ∧ s.breakerThreshold.toNat ≤ 100
  reset : 10 ≤ s.breakerResetSeconds.toNat ∧ s.breakerResetSeconds.toNat ≤ 3600
  hours : 1 ≤ s.windowHours.toNat ∧ s.windowHours.toNat ≤ 720

/-- A setting is out of its range, and those that come before it are not. -/
def FirstOut (s : Settings) (e : OutOfRange) : Prop :=
  ¬ e.Fits ∧ ∃ before later, s.ranges = before ++ e :: later ∧ ∀ e' ∈ before, e'.Fits

section Ranges

variable {s : Settings}

/-- A range is reported just if the value does not lie in it. -/
lemma OutOfRange.holds_iff {e : OutOfRange} : e.holds = true ↔ ¬ e.Fits := by
  simp only [holds, Fits, Bool.or_eq_true, decide_eq_true_eq]
  omega

/-- Settings are in range if each value of the list that is checked lies in its range. -/
lemma inRange_iff : s.InRange ↔ ∀ e ∈ s.ranges, e.Fits := by
  simp only [ranges, List.forall_mem_cons, List.not_mem_nil, IsEmpty.forall_iff, implies_true,
    and_true]
  constructor
  · rintro ⟨poll, batch, parallelism, ceiling, delay, threshold, reset, hours⟩
    exact ⟨poll, batch, parallelism, ceiling, delay, threshold, reset, hours⟩
  · rintro ⟨poll, batch, parallelism, ceiling, delay, threshold, reset, hours⟩
    exact ⟨poll, batch, parallelism, ceiling, delay, threshold, reset, hours⟩

/-- Settings pass the check just if they are in range. -/
lemma validate_eq_ok_iff : s.validate = .ok () ↔ s.InRange := by
  rw [inRange_iff]
  trans s.ranges.find? OutOfRange.holds = none
  · unfold validate
    split <;> simp [*]
  · simp only [List.find?_eq_none, OutOfRange.holds_iff, not_not]

/-- The check names the first setting that is out of its range. -/
lemma validate_eq_error_iff {e : OutOfRange} : s.validate = .error e ↔ s.FirstOut e := by
  trans s.ranges.find? OutOfRange.holds = some e
  · unfold validate
    split <;> simp [*]
  · simp only [List.find?_eq_some_iff_append, OutOfRange.holds_iff, Bool.not_eq_true',
      Bool.eq_false_iff, ne_eq, not_not, FirstOut]

end Ranges

section Written

variable (s : Settings)

/-- A number is written as a text that says it. -/
lemma number_toDigits (n : Nat) : Number (String.ofList (Nat.toDigits 10 n)) n := by
  have word := Numeral.bare (digits_toDigits n)
  rw [Nat.ofDigitChars_toDigits (by decide) (by decide)] at word
  refine ⟨_, word, ?_⟩
  rw [String.toList_ofList]
  exact Text.padded_self _

/-- A truth value is written as a text that says it. -/
lemma flag_text (b : Bool) : Flag (if b then "true" else "false") b := by
  cases b <;> exact Text.padded_self _

/-- Settings that are written as variables are what these say. -/
lemma reads_toVariables : Reads (fun key => s.toVariables.lookup key) s where
  poll := number_toDigits _
  batch := number_toDigits _
  parallelism := number_toDigits _
  ceiling := number_toDigits _
  delay := number_toDigits _
  breaker := flag_text _
  threshold := number_toDigits _
  reset := number_toDigits _
  window := flag_text _
  hours := number_toDigits _

end Written

section Whole

variable {lookup : String → Option String} {s : Settings}

/-- Settings are read from variables that say them, if they are in range. -/
lemma ofLookup_eq_ok_iff : ofLookup lookup = .ok s ↔ Reads lookup s ∧ s.InRange := by
  rw [← spelled_eq_ok_iff, ← validate_eq_ok_iff, ofLookup, bind_eq_ok_iff]
  constructor
  · rintro ⟨s', spelt, checked⟩
    generalize valid : s'.validate = check at checked
    cases check with
    | error => cases checked
    | ok =>
      cases checked
      exact ⟨spelt, valid⟩
  · rintro ⟨spelt, valid⟩
    refine ⟨s, spelt, ?_⟩
    rw [valid]
    rfl

/-- Ranges are checked only after all variables were read. -/
lemma ofLookup_eq_error_iff {r : Rejection} :
    ofLookup lookup = .error r ↔
      spelled lookup = .error r ∨
        ∃ s e, Reads lookup s ∧ s.validate = .error e ∧ r = .outOfRange e := by
  simp only [← spelled_eq_ok_iff, ofLookup]
  generalize spelled lookup = first
  cases first with
  | error e => simp [bind, Except.bind]
  | ok s =>
    show (s.validate.mapError Rejection.outOfRange >>= fun _ => pure s) = _ ↔ _
    generalize valid : s.validate = check
    cases check with
    | ok => simp [valid, bind, Except.bind, Except.mapError, pure, Except.pure]
    | error e => simp [valid, bind, Except.bind, Except.mapError, eq_comm]

end Whole

/-- Settings are what the variables say if all texts are words of their grammars and all values lie
in range. Otherwise the first text that is no such word is blamed, and if there is none the first
value that is out of range. Settings that are written as variables are read back from them if they
are valid, and only then. -/
theorem variables_exact :
    (∀ lookup,
      (∀ s, ofLookup lookup = .ok s ↔ Reads lookup s ∧ s.InRange) ∧
      (∀ key text, ofLookup lookup = .error (.unparsable key text) ↔
        FirstBad lookup allVariables key text) ∧
      ∀ e, ofLookup lookup = .error (.outOfRange e) ↔ ∃ s, Reads lookup s ∧ s.FirstOut e) ∧
    ∀ s, ofLookup (fun key => (toVariables s).lookup key) = .ok s ↔ s.validate = .ok () := by
  refine ⟨fun lookup => ⟨fun s => ofLookup_eq_ok_iff, ?_, ?_⟩, ?_⟩
  · intro key text
    rw [ofLookup_eq_error_iff, blames_spelled lookup]
    constructor
    · rintro (⟨key, text, ⟨⟩, first⟩ | ⟨_, _, _, _, ⟨⟩⟩)
      exact first
    · exact fun first => .inl ⟨key, text, rfl, first⟩
  · intro e
    rw [ofLookup_eq_error_iff, blames_spelled lookup]
    constructor
    · rintro (⟨_, _, ⟨⟩, _⟩ | ⟨s, e, reads, refused, ⟨⟩⟩)
      exact ⟨s, reads, validate_eq_error_iff.1 refused⟩
    · rintro ⟨s, reads, first⟩
      exact .inr ⟨s, e, reads, validate_eq_error_iff.2 first, rfl⟩
  · intro s
    rw [ofLookup_eq_ok_iff, validate_eq_ok_iff]
    exact and_iff_right s.reads_toVariables

/-- A bad text is blamed, although a value that was read before it is out of range. -/
example :
    ofLookup (fun key => [("OUTBOX_BATCH_SIZE", "0"), ("OUTBOX_MAX_RETRY_COUNT", " +x")].lookup key) =
      .error (.unparsable "OUTBOX_MAX_RETRY_COUNT" " +x") := by
  rfl

end Outbox.Settings
