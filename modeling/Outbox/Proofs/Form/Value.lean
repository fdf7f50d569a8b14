import Outbox.Form
import Outbox.Proofs.Identifier
import Outbox.Proofs.Json.Settled
import Outbox.Proofs.Time

/-!
# What a value says to a field

The text of a value is read as the value it stands for, as long as nothing follows that goes on
with it (`Kind.reads_chars`). This is the value itself unless it is an instant in a leap second that
does not end its minute (`Kind.proper_eq_self_iff`), and whatever is read stands for itself
(`Kind.yields_read`). Whatever value stands in a field's place, its reader settles it
(`Kind.settled`): it reads one value off it or refuses it, and nothing after the value matters. A
field reads nothing only where it may (`Kind.blank_of_means_null`).
-/

namespace Outbox.Form

open Json (Reads Refuses Settled Fails Patient Valid Ends isGap textChars)

variable {α : Type} {cs rest : List Char}

/-- A string is read as what it spells. -/
lemma reads_readSpelling {expected : String} {spell : List Char → Except String α} {cs : List Char}
    {a : α} (spelt : spell cs = .ok a) (rest : List Char) :
    Reads (readSpelling expected spell) (textChars cs) rest a := by
  obtain ⟨ds, text, reads⟩ := Json.exists_textChars cs
  rw [text]
  refine .look rfl (.advance ((reads rest).settle ?_))
  rw [spelt]
  exact .pure a rest

/-- The canonical text of an identifier spells it. -/
lemma spellIdentifier_chars (i : Identifier) : spellIdentifier i.chars = .ok i := by
  rw [spellIdentifier, Identifier.ofChars?_chars]

/-- A text spells itself. -/
lemma spellText_toList (s : String) :
    (.ok (String.ofList s.toList) : Except String String) = .ok s := by
  rw [String.ofList_toList]

/-- The text of an instant spells the instant it stands for. -/
lemma spellInstant_chars (t : Time.Instant) : spellInstant t.chars = .ok t.proper := by
  rw [spellInstant, Time.Instant.ofChars_chars]
  rfl

/-- A word of 32 bits is found for its number. -/
lemma word32?_toNat (n : UInt32) : word32? n.toNat = some n := by
  rw [word32?, if_pos ⟨Int.natCast_nonneg _, n.toNat_lt⟩, Int.toNat_natCast, UInt32.ofNat_toNat]

/-- A word of 64 bits is found for its number. -/
lemma word64?_toNat (n : UInt64) : word64? n.toNat = some n := by
  rw [word64?, if_pos ⟨Int.natCast_nonneg _, n.toNat_lt⟩, Int.toNat_natCast, UInt64.ofNat_toNat]

/-- A number of 64 bits with a sign is found for what it is. -/
lemma int64?_toInt (n : Int64) : int64? n.toInt = some n := by
  rw [int64?, if_pos ⟨n.le_toInt, n.toInt_lt⟩, Int64.ofInt_toInt]

/-- What may be nothing is read as a value where it does not start like nothing. -/
lemma reads_presence {reader : Json.Reader α} {c : Char} {cs : List Char} {a : Option α}
    (reads : Reads (return some (← reader)) (c :: cs) rest a) (solid : isGap c = false)
    (other : c ≠ 'n') :
    Reads
      (do
        match ← Json.peekPastGaps with
        | some 'n' => Json.advance; Json.restOfWord ['u', 'l', 'l']; return none
        | _ => return some (← reader))
      (c :: cs) rest a := by
  refine .look solid ?_
  split
  · next null => exact absurd (Option.some.inj null) other
  · exact reads

/-- What was found is returned, and nothing more is read. -/
lemma reads_elim {fault : Json.Reader α} {found : Option α} {a : α} (fits : found = some a)
    (rest : List Char) : Reads (found.elim fault pure) [] rest a := by
  rw [fits]
  exact .pure a rest

/-- A whole number in range is read back. -/
lemma reads_readWhole {expected : String} {fit : Int → Option α} {n : Int} {a : α}
    (least : -9223372036854775808 ≤ n) (greatest : n < 18446744073709551616) (fits : fit n = some a)
    (ends : Ends rest) : Reads (readWhole expected fit) (integerChars n) rest a := by
  have size : UInt64.size = 18446744073709551616 := rfl
  unfold integerChars
  split_ifs with below
  · have number := Json.reads_readNumber true (m := n.natAbs) (by omega)
      (fun _ => by omega) ends
    refine .look rfl (.advance (number.settle ?_))
    rw [if_pos rfl, show -(n.natAbs : Int) = n by omega]
    exact reads_elim fits rest
  · have number := Json.reads_readNumber false (m := n.natAbs) (by omega)
      (fun contra => by cases contra) ends
    obtain ⟨c, cs, same, digit⟩ := Text.exists_toDigits n.natAbs
    rw [same] at number ⊢
    refine .look (Json.isGap_of_isDigit digit) ?_
    split
    · next minus =>
      cases minus
      cases digit
    · next here =>
      cases here
      rw [if_pos digit]
      refine number.settle ?_
      rw [if_neg Bool.false_ne_true]
      refine reads_elim ?_ rest
      rwa [show (n.natAbs : Int) = n by omega]
    · next none => cases none

/-- A natural number in range is read back. -/
lemma reads_readWhole_natural {expected : String} {fit : Int → Option α} {n : Nat} {a : α}
    (small : n < UInt64.size) (fits : fit n = some a) (ends : Ends rest) :
    Reads (readWhole expected fit) (Nat.toDigits 10 n) rest a := by
  have whole : Reads (readWhole expected fit) (integerChars n) rest a :=
    reads_readWhole (by omega) (Int.ofNat_lt.2 small) fits ends
  rwa [integerChars, if_neg (by omega)] at whole

/-- A kind whose values are never nothing. -/
def Kind.isPlain : Kind → Bool
  | .optional _ => false
  | _ => true

/-- A kind with at most one way to hold nothing. -/
def Kind.isDistinct : Kind → Bool
  | .optional k => k.isPlain
  | _ => true

namespace Kind

/-- Every instant in a value is proper. -/
def IsProper : (k : Kind) → k.Carrier → Prop
  | .instant, (t : Time.Instant) => t.IsProper
  | .optional k, some v => k.IsProper v
  | _, _ => True

/-- What may be nothing is proper if it is nothing or a proper value. -/
lemma isProper_optional_iff {k : Kind} {v : Option k.Carrier} :
    (optional k).IsProper v ↔ ∀ w ∈ v, k.IsProper w := by
  cases v with
  | none => exact iff_of_true trivial fun w mem => (Option.not_mem_none w mem).elim
  | some w =>
    constructor
    · rintro proper _ ⟨⟩
      exact proper
    · exact fun proper => proper w rfl

/-- The value that the text of a value stands for. -/
def proper : (k : Kind) → k.Carrier → k.Carrier
  | .instant, (t : Time.Instant) => t.proper
  | .optional _, none => none
  | .optional k, some v => some (k.proper v)
  | .identifier, v | .text, v | .boolean, v | .word32, v | .word64, v | .size, v | .integer, v => v

/-- A value stands for itself just when its instants are proper. -/
lemma proper_eq_self_iff {k : Kind} {v : k.Carrier} : k.proper v = v ↔ k.IsProper v := by
  induction k with
  | instant => exact Time.Instant.proper_eq_self_iff
  | optional k ih =>
    cases v with
    | none => exact iff_of_true rfl trivial
    | some v =>
      show some (k.proper v) = some v ↔ k.IsProper v
      rw [Option.some_inj, ih]
  | _ => exact iff_of_true rfl trivial

/-- What a text stands for is proper. -/
lemma isProper_proper (k : Kind) (v : k.Carrier) : k.IsProper (k.proper v) := by
  induction k with
  | instant => exact Time.Instant.isProper_proper v
  | optional k ih =>
    cases v with
    | none => trivial
    | some v => exact ih v
  | _ => trivial

/-- A value has the text of the one it stands for. -/
lemma chars_proper (k : Kind) (v : k.Carrier) : k.chars (k.proper v) = k.chars v := by
  induction k with
  | instant => exact congrArg Json.textChars (Time.Instant.chars_congr (Time.Instant.parts_proper v))
  | optional k ih =>
    cases v with
    | none => rfl
    | some v => exact ih v
  | _ => rfl

/-- The text of a value does not start like the one of nothing. -/
lemma head_chars {k : Kind} (plain : k.isPlain = true) (v : k.Carrier) :
    ∃ c cs, k.chars v = c :: cs ∧ isGap c = false ∧ c ≠ 'n' := by
  have digits : ∀ n, ∃ c cs, Nat.toDigits 10 n = c :: cs ∧ isGap c = false ∧ c ≠ 'n' := by
    intro n
    obtain ⟨c, cs, same, digit⟩ := Text.exists_toDigits n
    refine ⟨c, cs, same, Json.isGap_of_isDigit digit, ?_⟩
    rintro rfl
    cases digit
  cases k with
  | identifier | text | instant => exact ⟨'"', _, rfl, rfl, by decide⟩
  | boolean =>
    cases v with
    | true => exact ⟨'t', _, rfl, rfl, by decide⟩
    | false => exact ⟨'f', _, rfl, rfl, by decide⟩
  | word32 => exact digits (UInt32.toNat v)
  | word64 | size => exact digits (UInt64.toNat v)
  | integer =>
    show ∃ c cs, integerChars (Int64.toInt v) = c :: cs ∧ _
    unfold integerChars
    split_ifs
    · exact ⟨'-', _, rfl, rfl, by decide⟩
    · exact digits _
  | optional => cases plain

/-- The text of a value that is not nothing is read as the value it stands for. -/
lemma reads_plain {k : Kind} (plain : k.isPlain = true) (v : k.Carrier) (ends : Ends rest) :
    Reads k.read (k.chars v) rest (k.proper v) := by
  cases k with
  | identifier => exact reads_readSpelling (spellIdentifier_chars v) rest
  | text => exact reads_readSpelling (spellText_toList v) rest
  | boolean =>
    cases v with
    | true => exact .look rfl (.advance ((Json.reads_restOfWord _ rest).map _))
    | false => exact .look rfl (.advance ((Json.reads_restOfWord _ rest).map _))
  | word32 =>
    have small := Nat.lt_trans (UInt32.toNat_lt v) (show 2 ^ 32 < UInt64.size by decide)
    exact reads_readWhole_natural small (word32?_toNat v) ends
  | word64 | size => exact reads_readWhole_natural (UInt64.toNat_lt v) (word64?_toNat v) ends
  | integer =>
    have greatest := Int.lt_trans (Int64.toInt_lt v) (show (2 : Int) ^ 63 < 2 ^ 64 by decide)
    exact reads_readWhole (Int64.le_toInt v) greatest (int64?_toInt v) ends
  | instant => exact reads_readSpelling (spellInstant_chars v) rest
  | optional => cases plain

/-- The text of a value is read as the value it stands for, in front of anything that does not go on
with it. -/
lemma reads_chars {k : Kind} (distinct : k.isDistinct = true) (v : k.Carrier) (ends : Ends rest) :
    Reads k.read (k.chars v) rest (k.proper v) := by
  cases k with
  | optional k =>
    cases v with
    | none => exact .look rfl (.advance ((Json.reads_restOfWord _ rest).map _))
    | some v =>
      have plain : k.isPlain = true := distinct
      have reads := (reads_plain plain v ends).map some
      obtain ⟨c, cs, same, solid, other⟩ := head_chars plain v
      show Reads (Kind.optional k).read (k.chars v) rest (some (k.proper v))
      rw [same] at reads ⊢
      exact reads_presence reads solid other
  | _ => exact reads_plain rfl v ends

end Kind

/-- A field of a kind reads a value off a text, in front of whatever does not go on with it. -/
def Kind.Means (k : Kind) (cs : List Char) (v : k.Carrier) : Prop :=
  ∀ rest, Ends rest → Reads k.read cs rest v

/-- A value that is not of the expected kind is a fault. -/
lemma fails_mismatch (expected : String) : Fails (mismatch expected : Json.Reader α) := by
  have here : ∀ cause, Fails (Json.failHere cause : Json.Reader α) := Json.fails_failHere
  refine .bind fun next => ?_
  split
  · exact here _
  · exact .bind fun _ => .bind fun _ => here _
  · exact .bind fun _ => .bind fun _ => here _
  · exact .bind fun _ => .bind fun _ => here _
  · exact .bind fun _ => .bind fun _ => here _
  · exact here _
  · exact here _
  · exact .bind fun _ => .bind fun _ => here _
  · split_ifs
    · exact .bind fun _ => here _
    · exact Json.fails_failAhead _

/-- Where no value of the expected kind comes next, none is read. -/
lemma yields_mismatch (P : α → Prop) (expected : String) :
    Text.Yields P (mismatch expected : Json.Reader α) :=
  .of_error fun s => fails_mismatch expected s

/-- A string is read as something that it spells. -/
lemma yields_readSpelling {P : α → Prop} {expected : String}
    {spell : List Char → Except String α} (spelt : ∀ cs a, spell cs = .ok a → P a) :
    Text.Yields P (readSpelling expected spell) := by
  refine .after fun next => ?_
  split
  · refine .after fun _ => .after fun cs => ?_
    cases spelling : spell cs with
    | ok a => exact .pure (spelt cs a spelling)
    | error reason => exact .of_error fun s => Json.fails_failHere _ s
  · exact yields_mismatch P expected

/-- What may be nothing is read as nothing or as a value. -/
lemma yields_presence {P : Option α → Prop} {reader : Json.Reader α} (nothing : P none)
    (yields : Text.Yields P (return some (← reader))) :
    Text.Yields P
      (do
        match ← Json.peekPastGaps with
        | some 'n' => Json.advance; Json.restOfWord ['u', 'l', 'l']; return none
        | _ => return some (← reader)) := by
  refine .after fun next => ?_
  split
  · exact .after fun _ => .after fun _ => .pure nothing
  · exact yields

/-- Every value that is read is proper. -/
lemma Kind.yields_read (k : Kind) : Text.Yields k.IsProper k.read := by
  induction k with
  | instant =>
    refine yields_readSpelling fun cs t spelling => ?_
    unfold spellInstant at spelling
    cases read : Time.Instant.ofChars cs with
    | error fault =>
      rw [read] at spelling
      cases spelling
    | ok u =>
      rw [read] at spelling
      cases spelling
      exact Time.Instant.isProper_of_ofChars read
  | optional k ih =>
    exact yields_presence trivial (.bind ih fun v proper => .pure proper)
  | _ => exact fun _ _ _ _ => trivial

/-- Every value is settled where a string is expected. -/
lemma settled_readSpelling {expected : String} {spell : List Char → Except String α}
    (valid : Valid cs) : Settled (readSpelling expected spell) cs := by
  have other : Settled (mismatch expected : Json.Reader α) cs := .of_fails (fails_mismatch _) cs
  cases valid with
  | text body =>
    refine .look rfl (.advance (body.settled.bind fun cs => ?_))
    cases spell cs with
    | ok a => exact .pure a
    | error reason => exact .of_fails (Json.fails_failHere _) []
  | positive unsigned =>
    obtain ⟨c, ds, rfl, digit⟩ := unsigned.exists_cons
    refine .look (Json.isGap_of_isDigit digit) ?_
    split
    · next quote =>
      cases quote
      cases digit
    · exact other
  | null | yes | no | negative | list | object => exact .look rfl other

/-- Every value is settled where a whole number is expected. -/
lemma settled_readWhole {expected : String} {fit : Int → Option α} (valid : Valid cs) :
    Settled (readWhole expected fit) cs := by
  have other : Settled (mismatch expected : Json.Reader α) cs := .of_fails (fails_mismatch _) cs
  -- A number is settled by its digits; what else stands here is refused at its first character.
  have wholes : ∀ x, Settled (readWhole.settle expected fit x) [] := by
    have fits : ∀ n, Settled
        ((fit n).elim (Json.failHere (.invalidValue (.integer n) expected)) pure) [] := by
      intro n
      cases fit n with
      | none => exact .of_fails (Json.fails_failHere _) []
      | some a => exact .pure a
    intro x
    cases x with
    | natural n => exact fits n
    | negative n => exact fits n
    | floating f => exact .of_fails (Json.fails_failHere _) []
  have floats : ∀ f, Fails (readWhole.settle expected fit (.floating f)) :=
    fun _ => Json.fails_failHere _
  cases valid with
  | positive unsigned =>
    obtain ⟨c, ds, rfl, digit⟩ := unsigned.exists_cons
    refine .look (Json.isGap_of_isDigit digit) ?_
    split
    · next minus =>
      cases minus
      cases digit
    · next same =>
      cases same
      rw [if_pos digit]
      exact unsigned.settled false wholes floats
    · next none => cases none
  | negative unsigned => exact .look rfl (.advance (unsigned.settled true wholes floats))
  | null | yes | no | text | list | object => exact .look rfl other

/-- Every value is settled where a truth value is expected. -/
lemma settled_readBoolean (valid : Valid cs) : Settled readBoolean cs := by
  have other : Settled (mismatch "a boolean" : Json.Reader Bool) cs :=
    .of_fails (fails_mismatch _) cs
  cases valid with
  | yes | no =>
    exact .inl ⟨_, fun rest _ => .look rfl (.advance ((Json.reads_restOfWord _ rest).map _))⟩
  | positive unsigned =>
    obtain ⟨c, ds, rfl, digit⟩ := unsigned.exists_cons
    refine .look (Json.isGap_of_isDigit digit) ?_
    split
    · next t =>
      cases t
      cases digit
    · next f =>
      cases f
      cases digit
    · exact other
  | null | negative | text | list | object => exact .look rfl other

/-- Every value that its reader settles is settled where there may also be nothing. -/
lemma settled_presence {reader : Json.Reader α} (settled : Settled reader cs) (valid : Valid cs) :
    Settled
      (do
        match ← Json.peekPastGaps with
        | some 'n' => Json.advance; Json.restOfWord ['u', 'l', 'l']; return none
        | _ => return some (← reader))
      cs := by
  have present : Settled (reader >>= fun v => pure (some v)) cs := settled.bind fun v => .pure _
  cases valid with
  | null =>
    exact .inl ⟨none, fun rest _ => .look rfl (.advance ((Json.reads_restOfWord _ rest).map _))⟩
  | positive unsigned =>
    obtain ⟨c, ds, rfl, digit⟩ := unsigned.exists_cons
    refine .look (Json.isGap_of_isDigit digit) ?_
    split
    · next n =>
      cases n
      cases digit
    · exact present
  | yes | no | negative | text | list | object => exact .look rfl present

namespace Kind

/-- Every value is settled for a field of any kind. -/
lemma settled (k : Kind) (valid : Valid cs) : Settled k.read cs := by
  induction k with
  | identifier | text | instant => exact settled_readSpelling valid
  | boolean => exact settled_readBoolean valid
  | word32 | word64 | size | integer => exact settled_readWhole valid
  | optional k ih => exact settled_presence ih valid

/-- Blanks in front of a value make no difference. -/
lemma patient_read (k : Kind) : Patient k.read := by
  cases k <;> exact Patient.look _

/-- A text means the same behind blanks. -/
lemma Means.past {k : Kind} {v : k.Carrier} (means : k.Means cs v) (gap : Json.Gap) :
    k.Means (gap.chars ++ cs) v :=
  fun rest ends => k.patient_read.reads gap (means rest ends)

/-- What may not be nothing may not be left out. -/
lemma blank_of_isPlain {k : Kind} (plain : k.isPlain = true) : k.blank = none := by
  cases k with
  | optional => cases plain
  | _ => rfl

/-- Only what may be nothing is read from nothing. -/
lemma blank_of_means_null {k : Kind} {v : k.Carrier} (means : k.Means ['n', 'u', 'l', 'l'] v) :
    k.blank = some v := by
  have ends : Ends [] := fun _ mem => by cases mem
  have read := means [] ends 0
  cases k with
  | optional k =>
    cases read
    rfl
  | _ => cases read

/-- Nothing is proper. -/
lemma isProper_of_blank {k : Kind} {v : k.Carrier} (blank : k.blank = some v) : k.IsProper v := by
  cases k with
  | optional k =>
    cases blank
    trivial
  | _ => cases blank

/-- Values are written as JSON values. -/
lemma valid_chars (k : Kind) (v : k.Carrier) : Valid (k.chars v) := by
  induction k with
  | identifier | text | instant => exact .text (Json.spells_escaped _).body
  | boolean =>
    cases v with
    | true => exact .yes
    | false => exact .no
  | word32 | word64 | size => exact .positive (Json.unsigned_toDigits _)
  | integer =>
    show Valid (integerChars (Int64.toInt v))
    unfold integerChars
    split_ifs
    · exact .negative (Json.unsigned_toDigits _)
    · exact .positive (Json.unsigned_toDigits _)
  | optional k ih =>
    cases v with
    | none => exact .null
    | some v => exact ih v

end Kind

end Outbox.Form
