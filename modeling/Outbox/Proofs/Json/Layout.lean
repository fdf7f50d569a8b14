import Outbox.Json.Reader
import Outbox.Proofs.Text

/-!
# How JSON texts are laid out

The grammar of the texts that readers are offered, whatever they make of them: blanks between the
parts of a text, the characters of a string, the parts of a number, and values within values
(`Valid`). An object or a list that a text consists of keeps its members or items as they are laid
out (`ObjectText`, `ListText`), so that the same text with other members is one more object.
-/

namespace Outbox.Json

/-- Blanks between the parts of a text. -/
structure Gap where
  chars : List Char
  blank : ∀ c ∈ chars, isGap c = true

/-- Nothing between the parts of a text. -/
def Gap.none : Gap :=
  ⟨[], List.forall_mem_nil _⟩

/-- Four hexadecimal digits and their number. -/
def IsUnit (ds : List Char) (n : Nat) : Prop :=
  ds.length = 4 ∧ Text.ofHex ds = some n

/-- What may stand between the quotes of a string; halves of surrogate pairs may stand alone. -/
inductive Body : List Char → Prop
  | nil : Body []
  | plain {c : Char} {cs : List Char} : isPlain c = true → Body cs → Body (c :: cs)
  | short {x c : Char} {cs : List Char} : shortEscape? x = some c → Body cs → Body ('\\' :: x :: cs)
  | unit {ds cs : List Char} {n : Nat} :
      IsUnit ds n → Body cs → Body ('\\' :: 'u' :: (ds ++ cs))

/-- The ways to write some characters between the quotes of a string: each one as it is, by a
letter, by its code point, or by a surrogate pair. -/
inductive Spells : (cs body : List Char) → Prop
  | nil : Spells [] []
  | plain {c : Char} {cs body : List Char} :
      isPlain c = true → Spells cs body → Spells (c :: cs) (c :: body)
  | short {x c : Char} {cs body : List Char} :
      shortEscape? x = some c → Spells cs body → Spells (c :: cs) ('\\' :: x :: body)
  | unit {ds cs body : List Char} {n : Nat} :
      IsUnit ds n → isHighSurrogate n = false → isLowSurrogate n = false → Spells cs body →
      Spells (Char.ofNat n :: cs) ('\\' :: 'u' :: (ds ++ body))
  | pair {ds es cs body : List Char} {n m : Nat} :
      IsUnit ds n → IsUnit es m → isHighSurrogate n = true → isLowSurrogate m = true →
      Spells cs body →
      Spells (Char.ofNat ((n - 0xd800) * 0x400 + (m - 0xdc00) + 0x10000) :: cs)
        ('\\' :: 'u' :: (ds ++ '\\' :: 'u' :: (es ++ body)))

/-- A run of digits, at least one. -/
def Digits (ds : List Char) : Prop :=
  ds ≠ [] ∧ ∀ d ∈ ds, d.isDigit = true

/-- The fraction of a number, if it has one. -/
inductive Fraction : List Char → Prop
  | none : Fraction []
  | point {ds : List Char} : Digits ds → Fraction ('.' :: ds)

/-- The exponent of a number, if it has one. -/
inductive Exponent : List Char → Prop
  | none : Exponent []
  | scale {e : Char} {sign ds : List Char} :
      e = 'e' ∨ e = 'E' → sign = [] ∨ sign = ['+'] ∨ sign = ['-'] → Digits ds →
      Exponent (e :: (sign ++ ds))

/-- A number without its sign; only 0 itself starts with a zero. -/
inductive Unsigned : List Char → Prop
  | mk {whole fraction exponent : List Char} :
      Digits whole → (whole.head? = some '0' → whole = ['0']) → Fraction fraction →
      Exponent exponent → Unsigned (whole ++ (fraction ++ exponent))

/-- A value in a list or after a colon, with the blanks around it. -/
structure Item where
  before : Gap
  value : List Char
  after : Gap

/-- A key and its value in an object, with the blanks around them. -/
structure Member where
  before : Gap
  /-- What stands between the quotes of the key. -/
  key : List Char
  body : Body key
  between : Gap
  item : Item

/-- An item as it is written. -/
def Item.chars (i : Item) : List Char :=
  i.before.chars ++ (i.value ++ i.after.chars)

/-- A member after the opening quote of its key and up to the end of its value. -/
def Member.tail (m : Member) : List Char :=
  m.key ++ ['"'] ++ (m.between.chars ++ [':'] ++ (m.item.before.chars ++ m.item.value))

/-- A member as it is written. -/
def Member.chars (m : Member) : List Char :=
  m.before.chars ++ '"' :: (m.tail ++ m.item.after.chars)

/-- The key of a member spells a name. -/
def Member.Names (m : Member) (name : String) : Prop :=
  Spells name.toList m.key

/-- The text of a list. -/
def listChars (gap : Gap) (items : List Item) : List Char :=
  '[' :: (gap.chars ++ [','].intercalate (items.map Item.chars) ++ [']'])

/-- The text of an object. -/
def objectChars (gap : Gap) (members : List Member) : List Char :=
  '\x7b' :: (gap.chars ++ [','].intercalate (members.map Member.chars) ++ ['\x7d'])

/-- The texts of JSON values, without blanks around them. -/
inductive Valid : List Char → Prop
  | null : Valid ['n', 'u', 'l', 'l']
  | yes : Valid ['t', 'r', 'u', 'e']
  | no : Valid ['f', 'a', 'l', 's', 'e']
  | positive {cs : List Char} : Unsigned cs → Valid cs
  | negative {cs : List Char} : Unsigned cs → Valid ('-' :: cs)
  | text {body : List Char} : Body body → Valid ('"' :: (body ++ ['"']))
  | list (gap : Gap) (items : List Item) :
      (∀ i ∈ items, Valid i.value) → Valid (listChars gap items)
  | object (gap : Gap) (members : List Member) :
      (∀ m ∈ members, Valid m.item.value) → Valid (objectChars gap members)

/-- A text that is one object. -/
structure ObjectText where
  before : Gap
  inside : Gap
  members : List Member
  after : Gap
  valid : ∀ m ∈ members, Valid m.item.value

/-- A text that is one list. -/
structure ListText where
  before : Gap
  inside : Gap
  items : List Item
  after : Gap
  valid : ∀ i ∈ items, Valid i.value

/-- The text of an object. -/
def ObjectText.text (o : ObjectText) : String :=
  String.ofList (o.before.chars ++ objectChars o.inside o.members ++ o.after.chars)

/-- The text of a list. -/
def ListText.text (l : ListText) : String :=
  String.ofList (l.before.chars ++ listChars l.inside l.items ++ l.after.chars)

/-- All parts but the first come behind a comma. -/
lemma intercalate_cons (part : List Char) (parts : List (List Char)) :
    [','].intercalate (part :: parts) = part ++ parts.flatMap (',' :: ·) := by
  induction parts generalizing part with
  | nil => simp
  | cons next parts ih => rw [List.intercalate_cons_cons, ih]; simp

/-- A number of 16 bits is written as four digits. -/
lemma isUnit_hex {n : Nat} (small : n < 16 ^ 4) : IsUnit (Text.hex 4 n) n :=
  ⟨Text.length_hex .., Text.ofHex_hex small⟩

/-- What a string spells is the body of a string. -/
lemma Spells.body {cs body : List Char} (spells : Spells cs body) : Body body := by
  induction spells with
  | nil => exact .nil
  | plain here _ ih => exact .plain here ih
  | short letter _ ih => exact .short letter ih
  | unit digits _ _ _ ih => exact .unit digits ih
  | pair first second _ _ _ ih => exact .unit first (.unit second ih)

/-- A character is written in one of the ways to spell it. -/
lemma Spells.escaped {cs body : List Char} (spells : Spells cs body) (c : Char) :
    Spells (c :: cs) (escaped c ++ body) := by
  unfold Json.escaped
  split_ifs with quote backslash b f n r t control
  · exact .short (x := '"') (by rw [quote]; rfl) spells
  · exact .short (x := '\\') (by rw [backslash]; rfl) spells
  · exact .short (x := 'b') (by rw [b]; rfl) spells
  · exact .short (x := 'f') (by rw [f]; rfl) spells
  · exact .short (x := 'n') (by rw [n]; rfl) spells
  · exact .short (x := 'r') (by rw [r]; rfl) spells
  · exact .short (x := 't') (by rw [t]; rfl) spells
  · have spelt := Spells.unit (isUnit_hex (n := c.toNat) (by omega))
      (by simp [isHighSurrogate]; omega) (by simp [isLowSurrogate]; omega) spells
    rwa [Char.ofNat_toNat] at spelt
  · exact .plain (by simp [isPlain, quote, backslash]; omega) spells

/-- A string is written in one of the ways to spell it. -/
lemma spells_escaped (cs : List Char) : Spells cs (cs.flatMap escaped) := by
  induction cs with
  | nil => exact .nil
  | cons c cs ih => exact ih.escaped c

/-- No digit is blank. -/
lemma isGap_of_isDigit {c : Char} (digit : c.isDigit = true) : isGap c = false := by
  rw [Bool.eq_false_iff]
  intro gap
  simp only [isGap, Bool.or_eq_true, decide_eq_true_eq] at gap
  rcases gap with ((rfl | rfl) | rfl) | rfl <;> cases digit

/-- There is a first digit. -/
lemma Digits.exists_cons {ds : List Char} (digits : Digits ds) :
    ∃ c cs, ds = c :: cs ∧ c.isDigit = true := by
  obtain ⟨some, all⟩ := digits
  obtain ⟨c, cs, rfl⟩ := List.exists_cons_of_ne_nil some
  exact ⟨c, cs, rfl, all c List.mem_cons_self⟩

/-- The letter of an exponent ends the digits before it. -/
lemma Exponent.noDigit {exponent rest : List Char} (withExponent : Exponent exponent)
    (stop : Text.NoDigit rest) : Text.NoDigit (exponent ++ rest) := by
  cases withExponent with
  | none => exact stop
  | scale letter _ _ =>
    rintro c ⟨⟩
    rcases letter with rfl | rfl <;> rfl

/-- The point of a fraction ends the digits before it. -/
lemma Fraction.noDigit {fraction rest : List Char} (withFraction : Fraction fraction)
    (stop : Text.NoDigit rest) : Text.NoDigit (fraction ++ rest) := by
  cases withFraction with
  | none => exact stop
  | point _ =>
    rintro c ⟨⟩
    rfl

/-- The digits of a number are digits. -/
lemma digits_toDigits (n : Nat) : Digits (Nat.toDigits 10 n) :=
  ⟨Nat.toDigits_ne_nil, fun _ => Nat.isDigit_of_mem_toDigits (by decide) (by decide)⟩

/-- Only zero is written with a leading zero. -/
lemma toDigits_of_zero (n : Nat) (leading : (Nat.toDigits 10 n).head? = some '0') :
    Nat.toDigits 10 n = ['0'] := by
  obtain ⟨cs, same⟩ := List.head?_eq_some_iff.1 leading
  rcases Nat.eq_zero_or_pos n with rfl | pos
  · rfl
  · exact absurd rfl (Text.head_toDigits pos same)

/-- A whole number is written without leading zeros. -/
lemma unsigned_toDigits (n : Nat) : Unsigned (Nat.toDigits 10 n) := by
  have unsigned := Unsigned.mk (digits_toDigits n) (toDigits_of_zero n) .none .none
  rwa [List.append_nil, List.append_nil] at unsigned

/-- A number without a sign begins with a digit. -/
lemma Unsigned.exists_cons {cs : List Char} (unsigned : Unsigned cs) :
    ∃ c ds, cs = c :: ds ∧ c.isDigit = true := by
  obtain ⟨whole, _, _, _⟩ := unsigned
  obtain ⟨c, cs, rfl, digit⟩ := whole.exists_cons
  exact ⟨c, _, rfl, digit⟩

/-- A value starts with a character that neither separates values nor ends a list. -/
lemma Valid.exists_cons {cs : List Char} (valid : Valid cs) :
    ∃ c ds, cs = c :: ds ∧ isGap c = false ∧ c ≠ ']' := by
  cases valid with
  | positive unsigned =>
    obtain ⟨c, ds, rfl, digit⟩ := unsigned.exists_cons
    refine ⟨c, ds, rfl, isGap_of_isDigit digit, ?_⟩
    rintro rfl
    cases digit
  | null | yes | no | negative | text | list | object => exact ⟨_, _, rfl, rfl, by decide⟩

end Outbox.Json
