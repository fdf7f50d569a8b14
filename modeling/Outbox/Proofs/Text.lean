import Mathlib.Algebra.Group.Nat.Even
import Mathlib.Algebra.Ring.Nat
import Mathlib.Data.List.Induction
import Mathlib.Data.List.Lex
import Mathlib.Data.List.TakeWhile
import Mathlib.Tactic.Lemma
import Mathlib.Tactic.SplitIfs
import Outbox.Text

/-!
# Reading texts piece by piece

A reader goes on where the one before it stopped. A run of decimal digits ends where no digit comes
next; fewer digits stand for a smaller number (`ofDigitChars_lt`), and a number is written without
leading zeros (`head_toDigits`). Trimming takes away just the blanks around a word
(`trimmed_eq_iff_padded`).
-/

namespace Outbox.Text

/-- What two readers do one after the other when the first one succeeds. -/
lemma bind_of_ok {σ ε α β : Type} {first : StateT σ (Except ε) α}
    {next : α → StateT σ (Except ε) β} {s s' : σ} {a : α} (ok : first s = .ok (a, s')) :
    (first >>= next) s = next a s' := by
  show (first s >>= fun x => next x.1 x.2) = _
  rw [ok]
  rfl

/-- Whatever a reader reads has some property. -/
def Yields {σ ε α : Type} (P : α → Prop) (reader : StateT σ (Except ε) α) : Prop :=
  ∀ ⦃s a s'⦄, reader s = .ok (a, s') → P a

namespace Yields

variable {σ ε α β : Type} {P : α → Prop} {Q : β → Prop}

/-- A reader that reads nothing yields what it is given. -/
lemma pure {a : α} (here : P a) : Yields P (Pure.pure a : StateT σ (Except ε) α) := by
  intro s b s' read
  cases read
  exact here

/-- What the second of two readers reads may depend on what the first one has read. -/
lemma bind {first : StateT σ (Except ε) α} {next : α → StateT σ (Except ε) β}
    (yields : Yields P first) (later : ∀ a, P a → Yields Q (next a)) :
    Yields Q (first >>= next) := by
  intro s b s'' read
  have read : (first s >>= fun x => next x.1 x.2) = .ok (b, s'') := read
  cases begun : first s with
  | error e =>
    rw [begun] at read
    cases read
  | ok x =>
    rw [begun] at read
    exact later x.1 (yields begun) read

/-- What the second of two readers reads may have nothing to do with what the first one has read. -/
lemma after {first : StateT σ (Except ε) α} {next : α → StateT σ (Except ε) β}
    (later : ∀ a, Yields Q (next a)) : Yields Q (first >>= next) :=
  bind (P := fun _ => True) (fun _ _ _ _ => trivial) fun a _ => later a

/-- A reader that always fails yields nothing at all. -/
lemma of_error {reader : StateT σ (Except ε) α} (fails : ∀ s, ∃ e, reader s = .error e) :
    Yields P reader := by
  intro s a s' read
  obtain ⟨e, failed⟩ := fails s
  cases failed.symm.trans read

end Yields

/-- No digit comes next. -/
def NoDigit (cs : List Char) : Prop :=
  ∀ c ∈ cs.head?, c.isDigit = false

/-- The digits in front are taken up to where no digit comes next. -/
lemma takeWhile_digits {ds rest : List Char} (digits : ∀ d ∈ ds, d.isDigit = true)
    (stop : NoDigit rest) : (ds ++ rest).takeWhile Char.isDigit = ds := by
  rw [List.takeWhile_append_of_pos digits]
  cases rest with
  | nil => exact List.append_nil ds
  | cons c cs =>
    rw [List.takeWhile_cons_of_neg (by simp [stop c rfl]), List.append_nil]

/-- No digit is a blank. -/
lemma isBlank_of_isDigit {c : Char} (digit : c.isDigit = true) : isBlank c = false := by
  obtain ⟨least, greatest⟩ := Char.isDigit_iff_toNat.1 digit
  simp only [Char.reduceToNat] at least greatest
  simp only [isBlank]
  generalize c.toNat = n at *
  simp
  omega

/-- The value of a digit is less than ten. -/
lemma ofDigitChars_lt {ds : List Char} (digits : ∀ d ∈ ds, d.isDigit = true) :
    Nat.ofDigitChars 10 ds 0 < 10 ^ ds.length := by
  induction ds using List.reverseRecOn with
  | nil => exact Nat.one_pos
  | append_singleton ds d ih =>
    rw [List.forall_mem_append] at digits
    obtain ⟨least, greatest⟩ := Char.isDigit_iff_toNat.1 (digits.2 d (by simp))
    have less := ih digits.1
    rw [Nat.ofDigitChars_append, Nat.ofDigitChars_cons, List.length_append, List.length_singleton,
      Nat.pow_succ]
    simp only [Char.reduceToNat, Nat.ofDigitChars_eq_foldl, List.foldl_nil] at *
    omega

/-- A number is written with at least one digit. -/
lemma exists_toDigits (n : Nat) :
    ∃ c cs, Nat.toDigits 10 n = c :: cs ∧ c.isDigit = true := by
  obtain ⟨c, cs, same⟩ := List.exists_cons_of_ne_nil (Nat.toDigits_ne_nil (n := n) (b := 10))
  exact ⟨c, cs, same, Nat.isDigit_of_mem_toDigits (by decide) (by decide)
    (same ▸ List.mem_cons_self)⟩

/-- A number other than 0 is written without leading zeros. -/
lemma head_toDigits {n : Nat} (pos : 0 < n) {c : Char} {cs : List Char}
    (digits : Nat.toDigits 10 n = c :: cs) : c ≠ '0' := by
  rintro rfl
  have value : Nat.ofDigitChars 10 (Nat.toDigits 10 n) 0 = n :=
    Nat.ofDigitChars_toDigits (by decide) (by decide)
  have all : ∀ d ∈ cs, d.isDigit = true := fun d mem =>
    Nat.isDigit_of_mem_toDigits (n := n) (by decide) (by decide)
      (digits ▸ List.mem_cons_of_mem _ mem)
  have less := ofDigitChars_lt all
  rw [digits, Nat.ofDigitChars_cons] at value
  simp only [Char.reduceToNat, Nat.sub_self, Nat.mul_zero, Nat.add_zero] at value
  rw [value] at less
  cases cs with
  | nil =>
    simp at less
    omega
  | cons d ds =>
    -- Without the zero the number would have a digit less than it has.
    have short := (Nat.length_toDigits_le_iff (b := 10) (by decide) (Nat.succ_pos ds.length)).2 less
    rw [digits, List.length_cons, List.length_cons] at short
    omega

/-- A word with nothing but blanks around it. -/
def Padded (word cs : List Char) : Prop :=
  ∃ front back, cs = front ++ word ++ back ∧
    (∀ c ∈ front, isBlank c = true) ∧ ∀ c ∈ back, isBlank c = true

/-- A word by itself has no blanks around it. -/
lemma padded_self (word : List Char) : Padded word word :=
  ⟨[], [], (List.append_nil word).symm, List.forall_mem_nil _, List.forall_mem_nil _⟩

/-- What trimming takes off is blanks. -/
lemma padded_trimmed (cs : List Char) : Padded (trimmed cs) cs := by
  -- The blanks at the end are those at the front of the reversed rest.
  let rest := (trimFront cs).reverse
  refine ⟨cs.takeWhile isBlank, (rest.takeWhile isBlank).reverse, ?_, ?_, ?_⟩
  · rw [trimmed, trimFront, List.append_assoc, ← List.reverse_append,
      List.takeWhile_append_dropWhile, List.reverse_reverse, trimFront,
      List.takeWhile_append_dropWhile]
  · exact fun c mem => List.mem_takeWhile_imp mem
  · exact fun c mem => List.mem_takeWhile_imp (List.mem_reverse.1 mem)

/-- Blanks in front are trimmed off. -/
lemma trimFront_append {front rest : List Char} (blank : ∀ c ∈ front, isBlank c = true) :
    trimFront (front ++ rest) = trimFront rest :=
  List.dropWhile_append_of_pos blank

/-- Trimming leaves a word without blanks just when there are only blanks around it. -/
lemma trimmed_eq_iff_padded {word cs : List Char} (solid : ∀ c ∈ word, isBlank c = false) :
    trimmed cs = word ↔ Padded word cs := by
  constructor
  · rintro rfl
    exact padded_trimmed cs
  · rintro ⟨front, back, rfl, before, after⟩
    rw [List.append_assoc, trimmed, trimFront_append before]
    cases word with
    | nil =>
      rw [List.nil_append, ← List.append_nil back, trimFront_append after]
      rfl
    | cons c cs =>
      have starts (rest : List Char) : trimFront (c :: rest) = c :: rest :=
        trimFront_of_not_isBlank (solid c List.mem_cons_self)
      have same := trimmed_eq_self solid
      rw [trimmed, starts] at same
      rwa [List.cons_append, starts, ← List.cons_append, List.reverse_append,
        trimFront_append (by simpa using after)]

end Outbox.Text

/-!
## Reading hexadecimal digits back

The digits of a number are read as that number (`ofHex_hex`), and a text is read as a number just
when it consists of the number's digits, in either letter case (`ofHex_eq_some_iff`).
-/

namespace Outbox.Text

/-- Reading a number's hexadecimal digits gives the number back. -/
theorem ofHex_hex {width n : Nat} (h : n < 16 ^ width) : ofHex (hex width n) = some n := by
  unfold ofHex
  induction width generalizing n with
  | zero => simp at h; subst h; rfl
  | succ w ih =>
    have hd : n / 16 < 16 ^ w := by
      rw [Nat.div_lt_iff_lt_mul (by decide)]
      rwa [Nat.pow_succ] at h
    rw [hex, ofHexFrom_append, ih hd]
    simp only [Option.bind_some, ofHexFrom, hexValue?_digitChar (Nat.mod_lt n (by decide))]
    show some (n / 16 * 16 + n % 16) = some n
    rw [Nat.div_add_mod' n 16]

/-- Numbers with the same hexadecimal digits are the same. -/
theorem hex_inj {width m n : Nat} (hm : m < 16 ^ width) (hn : n < 16 ^ width)
    (same : hex width m = hex width n) : m = n := by
  have read := ofHex_hex hm
  rw [same, ofHex_hex hn] at read
  exact (Option.some.inj read).symm

/-- The hexadecimal digits, in either letter case. -/
def hexDigits : List Char :=
  ['0', '1', '2', '3', '4', '5', '6', '7', '8', '9', 'a', 'b', 'c', 'd', 'e', 'f', 'A', 'B', 'C',
    'D', 'E', 'F']

/-- A hexadecimal digit has a value, which is written as this digit in lower case. -/
theorem exists_hexValue? {c : Char} (digit : c ∈ hexDigits) :
    ∃ d < 16, hexValue? c = some d ∧ Nat.digitChar d = c.toLower := by
  have all : (hexDigits.all fun c => decide
      (∃ d : Nat, d < 16 ∧ hexValue? c = some d ∧ Nat.digitChar d = c.toLower)) = true := by decide
  exact of_decide_eq_true (List.all_eq_true.1 all c digit)

/-- Only a hexadecimal digit has a value. -/
theorem mem_hexDigits_of_hexValue? {c : Char} {d : Nat} (value : hexValue? c = some d) :
    c ∈ hexDigits := by
  -- Each of the three ranges of digits has no more than its few members.
  have range (start count : Nat) (all : ∀ k < count, Char.ofNat (start + k) ∈ hexDigits)
      (least : start ≤ c.toNat) (greatest : c.toNat < start + count) : c ∈ hexDigits := by
    obtain ⟨k, here⟩ := Nat.exists_eq_add_of_le least
    have digit := all k (by omega)
    rwa [← here, Char.ofNat_toNat] at digit
  unfold hexValue? at value
  split at value
  · next bounds => exact range 48 10 (by decide) bounds.1 (Nat.lt_succ_of_le bounds.2)
  · split at value
    · next bounds => exact range 97 6 (by decide) bounds.1 (Nat.lt_succ_of_le bounds.2)
    · split at value
      · next bounds => exact range 65 6 (by decide) bounds.1 (Nat.lt_succ_of_le bounds.2)
      · cases value

/-- One more digit makes a number sixteen times as great, and the digit more. -/
theorem ofHex_concat (ds : List Char) (d : Char) :
    ofHex (ds ++ [d]) = (ofHex ds).bind fun m => (hexValue? d).map (m * 16 + ·) := by
  rw [ofHex, ofHexFrom_append, ← ofHex]
  refine congrArg (Option.bind (ofHex ds)) (funext fun m => ?_)
  simp only [ofHexFrom]
  cases hexValue? d <;> rfl

/-- Hexadecimal digits stand for a number. -/
theorem exists_ofHex {ds : List Char} (digits : ∀ d ∈ ds, d ∈ hexDigits) :
    ∃ n, ofHex ds = some n := by
  induction ds using List.reverseRecOn with
  | nil => exact ⟨0, rfl⟩
  | append_singleton ds d ih =>
    rw [List.forall_mem_append, List.forall_mem_singleton] at digits
    obtain ⟨m, front⟩ := ih digits.1
    obtain ⟨v, -, last, -⟩ := exists_hexValue? digits.2
    exact ⟨m * 16 + v, by rw [ofHex_concat, front, Option.bind_some, last, Option.map_some]⟩

/-- A text that stands for a number consists of its digits, in either letter case. -/
theorem ofHex_inv {ds : List Char} {n : Nat} (read : ofHex ds = some n) :
    (∀ d ∈ ds, d ∈ hexDigits) ∧ n < 16 ^ ds.length ∧ hex ds.length n = ds.map Char.toLower := by
  induction ds using List.reverseRecOn generalizing n with
  | nil =>
    cases read
    exact ⟨List.forall_mem_nil _, Nat.one_pos, rfl⟩
  | append_singleton ds d ih =>
    rw [ofHex_concat, Option.bind_eq_some_iff] at read
    obtain ⟨m, front, last⟩ := read
    obtain ⟨v, value, rfl⟩ := Option.map_eq_some_iff.1 last
    obtain ⟨digits, small, written⟩ := ih front
    have digit := mem_hexDigits_of_hexValue? value
    obtain ⟨_, less, same, lower⟩ := exists_hexValue? digit
    cases value.symm.trans same
    refine ⟨?_, ?_, ?_⟩
    · rw [List.forall_mem_append, List.forall_mem_singleton]
      exact ⟨digits, digit⟩
    · rw [List.length_append, List.length_singleton, Nat.pow_succ]
      omega
    · rw [List.length_append, List.length_singleton, hex, List.map_append, List.map_singleton,
        show (m * 16 + v) / 16 = m by omega, show (m * 16 + v) % 16 = v by omega, written, lower]

/-- A text stands for a number just when it consists of its digits, in either letter case. -/
theorem ofHex_eq_some_iff {ds : List Char} {n : Nat} :
    ofHex ds = some n ↔
      (∀ d ∈ ds, d ∈ hexDigits) ∧ n < 16 ^ ds.length ∧ hex ds.length n = ds.map Char.toLower := by
  refine ⟨ofHex_inv, fun ⟨digits, small, written⟩ => ?_⟩
  obtain ⟨m, read⟩ := exists_ofHex digits
  obtain ⟨-, small', written'⟩ := ofHex_inv read
  rw [read, hex_inj small' small (written'.trans written.symm)]

end Outbox.Text

/-!
## The order of bytes

Texts are ordered by their characters. Their UTF-8 bytes are in the same order, byte by byte
(`lt_iff_bytes_lt`): of two characters the greater one has the greater bytes, and neither is the
beginning of the other one.
-/

namespace Outbox.Text

/-- The UTF-8 bytes of a text. -/
def bytes (s : String) : List UInt8 :=
  s.toUTF8.data.toList

/-- The bytes of a text are those of its characters, one after the other. -/
lemma bytes_eq_flatMap (s : String) : bytes s = s.toList.flatMap String.utf8EncodeChar := by
  rw [bytes, String.toUTF8_eq_toByteArray, ← String.utf8Encode_toList, List.utf8Encode,
    List.data_toByteArray]

/-- A smaller character decides the order of bytes, whatever follows. -/
lemma utf8EncodeChar_append_lt {c d : Char} (lt : c < d) (xs ys : List UInt8) :
    String.utf8EncodeChar c ++ xs < String.utf8EncodeChar d ++ ys := by
  have lt : c.val.toNat < d.val.toNat := lt
  have bound : d.val.toNat < 1114112 := by
    rcases d.valid with low | high
    · exact Nat.lt_trans low (by decide)
    · exact high.2
  unfold String.utf8EncodeChar
  generalize c.val.toNat = v at *
  generalize d.val.toNat = w at *
  -- All bytes but the first one hold six bits each, so these are digits to the base of 64.
  have two (n : Nat) : n / 4096 = n / 64 / 64 := by omega
  have three (n : Nat) : n / 262144 = n / 64 / 64 / 64 := by omega
  simp only [two, three]
  split_ifs <;>
    simp only [List.cons_append, List.nil_append, List.cons_lt_cons_iff, UInt8.lt_iff_toNat_lt,
      ← UInt8.toNat_inj, UInt8.toNat_ofNat'] <;> omega

/-- Smaller characters have smaller bytes. -/
lemma flatMap_utf8EncodeChar_lt {cs ds : List Char} (lt : cs < ds) :
    cs.flatMap String.utf8EncodeChar < ds.flatMap String.utf8EncodeChar := by
  induction cs generalizing ds with
  | nil =>
    cases ds with
    | nil => exact absurd lt (List.lt_irrefl _)
    | cons d ds =>
      rw [List.flatMap_cons]
      cases here : String.utf8EncodeChar d with
      | nil => exact absurd here String.utf8EncodeChar_ne_nil
      | cons b bs => exact List.nil_lt_cons ..
  | cons c cs ih =>
    cases ds with
    | nil => exact absurd lt (List.not_lt_nil _)
    | cons d ds =>
      rw [List.flatMap_cons, List.flatMap_cons]
      rcases List.cons_lt_cons_iff.1 lt with first | ⟨rfl, rest⟩
      · exact utf8EncodeChar_append_lt first _ _
      · exact List.append_left_lt (ih rest)

/-- The order of texts is the order of their bytes. -/
lemma lt_iff_bytes_lt {s t : String} : s < t ↔ bytes s < bytes t := by
  have mono {a b : String} (lt : a < b) : bytes a < bytes b := by
    rw [bytes_eq_flatMap, bytes_eq_flatMap]
    exact flatMap_utf8EncodeChar_lt (String.lt_iff.1 lt)
  refine ⟨mono, fun lt => ?_⟩
  rcases Std.lt_trichotomy s t with less | rfl | greater
  · exact less
  · exact absurd lt (List.lt_irrefl _)
  · exact absurd lt (List.lt_asymm (mono greater))

end Outbox.Text
