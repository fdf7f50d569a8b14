import Mathlib.Algebra.Ring.Nat
import Mathlib.Tactic.Lemma
import Mathlib.Tactic.Tauto
import Outbox.Identifier
import Outbox.Proofs.Text

/-!
# Identifiers and their texts

The canonical text of an identifier is read back as this identifier (`ofChars?_chars`): its groups
have the lengths that are expected, and it is none of the other spellings.
-/

namespace Outbox

/-- A hexadecimal digit is no other character than one of the sixteen. -/
lemma Text.isSome_hexValue?_of_mem {width n : Nat} {c : Char} (mem : c ∈ Text.hex width n) :
    (Text.hexValue? c).isSome = true := by
  induction width generalizing n with
  | zero => cases mem
  | succ width ih =>
    rw [Text.hex, List.mem_append, List.mem_singleton] at mem
    obtain here | rfl := mem
    · exact ih here
    · rw [Text.hexValue?_digitChar (Nat.mod_lt n (by decide))]
      rfl

namespace Identifier

/-- Hyphens between groups are taken out again. -/
lemma dehyphenate_hyphenate (ns : List Nat) (ds : List Char) (total : ds.length = ns.sum) :
    dehyphenate ns (hyphenate ns ds) = some ds := by
  induction ns generalizing ds with
  | nil =>
    have none : ds = [] := List.length_eq_zero_iff.1 total
    rw [none]
    rfl
  | cons n ns ih =>
    cases ns with
    | nil =>
      have all : ds.length = n := by simpa using total
      rw [hyphenate, List.take_of_length_le (Nat.le_of_eq all), dehyphenate, if_pos all]
    | cons n' ns =>
      have total' : ds.length = n + (n' :: ns).sum := total
      have length : (ds.take n).length = n := by
        rw [List.length_take]
        omega
      rw [hyphenate, dehyphenate, List.drop_left' length, List.take_left' length]
      · simp only
        rw [ih (ds.drop n) (by rw [List.length_drop]; omega), Option.map_some,
          List.take_append_drop]
      all_goals simp

/-- The canonical text has a digit first, and eight digits before its first hyphen. -/
lemma exists_chars (i : Identifier) :
    ∃ c cs rest, (Text.hexValue? c).isSome = true ∧ cs.length = 7 ∧ rest.length = 27 ∧
      i.chars = c :: cs ++ '-' :: rest := by
  have long : (Text.hex 32 i.number).length = 32 := Text.length_hex ..
  cases digits : Text.hex 32 i.number with
  | nil =>
    rw [digits] at long
    cases long
  | cons c ds =>
    have mem : c ∈ Text.hex 32 i.number := digits ▸ List.mem_cons_self
    have digit := Text.isSome_hexValue?_of_mem mem
    rw [digits, List.length_cons] at long
    refine ⟨c, ds.take 7, hyphenate [4, 4, 4, 12] (ds.drop 7), digit, ?_, ?_, ?_⟩
    · rw [List.length_take]
      omega
    · simp only [hyphenate, List.length_append, List.length_cons, List.length_take,
        List.length_drop]
      omega
    · rw [chars, digits]
      rfl

/-- Digits with a hyphen after the eighth of them are not wrapped in anything. -/
lemma unwrap_eq_self {c : Char} {cs rest : List Char}
    (digit : (Text.hexValue? c).isSome = true) (seven : cs.length = 7) :
    unwrap (c :: cs ++ '-' :: rest) = (c :: cs ++ '-' :: rest, 0) := by
  have plain : unbraced? (c :: cs ++ '-' :: rest) = none := by
    rw [List.cons_append]
    unfold unbraced?
    split
    · next here =>
      cases here
      cases digit
    · rfl
  have named : afterUrn? (c :: cs ++ '-' :: rest) = none := by
    have nine : (c :: cs ++ '-' :: rest).take 9 = c :: cs ++ ['-'] := by
      rw [List.take_append, List.take_of_length_le (by simp [seven])]
      simp [seven]
    unfold afterUrn?
    refine if_neg ?_
    rw [show (c :: cs ++ '-' :: rest).take
      ['u', 'r', 'n', ':', 'u', 'u', 'i', 'd', ':'].length = _ from nine]
    -- A colon would have to stand where the first hyphen does.
    intro scheme
    have last := congrArg List.getLast? scheme
    rw [List.map_append, List.map_singleton, List.getLast?_concat] at last
    exact absurd last (by decide)
  rw [unwrap, plain, named]

/-- A canonical text is not wrapped. -/
lemma unwrap_chars (i : Identifier) : unwrap i.chars = (i.chars, 0) := by
  obtain ⟨c, cs, rest, digit, seven, -, same⟩ := i.exists_chars
  rw [same]
  exact unwrap_eq_self digit seven

/-- The canonical text of an identifier is read back. -/
theorem ofChars?_chars (i : Identifier) : ofChars? i.chars = some i := by
  obtain ⟨c, cs, rest, -, seven, length, same⟩ := i.exists_chars
  have long : ofDigits i.chars = none := if_neg (by simp [same, seven, length])
  have digits : dehyphenate groupLengths i.chars = some (Text.hex 32 i.number) :=
    dehyphenate_hyphenate _ _ (Text.length_hex ..)
  have number : Text.ofHex (Text.hex 32 i.number) = some i.number :=
    Text.ofHex_hex i.bits.isLt
  rw [ofChars?, long, unwrap_chars]
  simp only [digits, Option.bind_some, ofDigits, Text.length_hex, if_true, number, Option.map_some]
  rw [Identifier.number, BitVec.ofNat_toNat, BitVec.setWidth_eq]

end Identifier

end Outbox

/-!
## The order of identifiers

Identifiers are ordered as their canonical texts are, byte by byte (`compare_eq_bytes`): numbers
with the same count of hexadecimal digits are ordered as these are (`hex_lt_iff`), and hyphens at
the same places change nothing (`hyphenate_lt_iff`).
-/

namespace Outbox

namespace Text

/-- Of texts with beginnings as long as each other, the beginnings decide first. -/
lemma append_lt_append_iff {xs ys xs' ys' : List Char} (even : xs.length = ys.length) :
    xs ++ xs' < ys ++ ys' ↔ xs < ys ∨ xs = ys ∧ xs' < ys' := by
  induction xs generalizing ys with
  | nil =>
    rw [List.length_eq_zero_iff.1 even.symm]
    simp
  | cons x xs ih =>
    cases ys with
    | nil => cases even
    | cons y ys =>
      have even : xs.length = ys.length := Nat.succ.inj even
      simp only [List.cons_append, List.cons_lt_cons_iff, ih even, List.cons.injEq]
      tauto

/-- Digits are ordered by their values. -/
lemma digitChar_lt_iff {d e : Nat} (hd : d < 16) (he : e < 16) :
    Nat.digitChar d < Nat.digitChar e ↔ d < e := by
  have all : ∀ d < 16, ∀ e < 16, Nat.digitChar d < Nat.digitChar e ↔ d < e := by decide
  exact all d hd e he

/-- Numbers with the same count of hexadecimal digits are ordered as these are. -/
lemma hex_lt_iff {width m n : Nat} (hm : m < 16 ^ width) (hn : n < 16 ^ width) :
    hex width m < hex width n ↔ m < n := by
  induction width generalizing m n with
  | zero =>
    simp only [Nat.pow_zero, Nat.lt_one_iff] at hm hn
    simp [hm, hn]
  | succ w ih =>
    rw [Nat.pow_succ] at hm hn
    have hm' : m / 16 < 16 ^ w := by omega
    have hn' : n / 16 < 16 ^ w := by omega
    have less := ih hm' hn'
    have same : hex w (m / 16) = hex w (n / 16) ↔ m / 16 = n / 16 :=
      ⟨hex_inj hm' hn', fun same => by rw [same]⟩
    have last := digitChar_lt_iff (d := m % 16) (e := n % 16) (Nat.mod_lt m (by decide))
      (Nat.mod_lt n (by decide))
    rw [hex, hex, append_lt_append_iff (by simp), List.cons_lt_cons_iff]
    simp only [less, same, last, List.not_lt_nil, and_false, or_false]
    omega

end Text

namespace Identifier

/-- The first group of digits stands in front of a hyphen. -/
lemma hyphenate_cons (n m : Nat) (ns : List Nat) (ds : List Char) :
    hyphenate (n :: m :: ns) ds = ds.take n ++ '-' :: hyphenate (m :: ns) (ds.drop n) := rfl

/-- Hyphens between groups of the same lengths do not change the order. -/
lemma hyphenate_lt_iff {ns : List Nat} {ds es : List Char} (hd : ds.length = ns.sum)
    (he : es.length = ns.sum) : hyphenate ns ds < hyphenate ns es ↔ ds < es := by
  induction ns generalizing ds es with
  | nil => rw [List.length_eq_zero_iff.1 hd, List.length_eq_zero_iff.1 he, hyphenate]
  | cons n ns ih =>
    cases ns with
    | nil =>
      have hd : ds.length = n := hd
      have he : es.length = n := he
      rw [hyphenate, hyphenate, List.take_of_length_le (Nat.le_of_eq hd),
        List.take_of_length_le (Nat.le_of_eq he)]
    | cons m ns =>
      have hd : ds.length = n + (m :: ns).sum := hd
      have he : es.length = n + (m :: ns).sum := he
      have even : (ds.take n).length = (es.take n).length := by
        rw [List.length_take, List.length_take, hd, he]
      have hd' : (ds.drop n).length = (m :: ns).sum := by
        rw [List.length_drop]
        omega
      have he' : (es.drop n).length = (m :: ns).sum := by
        rw [List.length_drop]
        omega
      conv_rhs => rw [← List.take_append_drop n ds, ← List.take_append_drop n es]
      rw [hyphenate_cons, hyphenate_cons, Text.append_lt_append_iff even,
        Text.append_lt_append_iff even, List.cons_lt_cons_iff, ih hd' he']
      simp

/-- Canonical texts are ordered by their bytes as the numbers are. -/
lemma bytes_toText_lt_iff {i j : Identifier} :
    Text.bytes i.toText < Text.bytes j.toText ↔ i.number < j.number := by
  have digits (k : Identifier) : (Text.hex 32 k.number).length = groupLengths.sum :=
    Text.length_hex ..
  rw [← Text.lt_iff_bytes_lt, String.lt_iff, toText, toText, String.toList_ofList,
    String.toList_ofList, chars, chars, hyphenate_lt_iff (digits i) (digits j),
    Text.hex_lt_iff i.bits.isLt j.bits.isLt]

/-- Different identifiers have different bytes in their canonical texts. -/
lemma bytes_toText_inj {i j : Identifier} :
    Text.bytes i.toText = Text.bytes j.toText ↔ i.number = j.number := by
  refine ⟨fun same => ?_, fun same => ?_⟩
  · have irrefl := List.lt_irrefl (Text.bytes j.toText)
    have less := bytes_toText_lt_iff (i := i) (j := j)
    have greater := bytes_toText_lt_iff (i := j) (j := i)
    rw [same] at less greater
    have := less.not.1 irrefl
    have := greater.not.1 irrefl
    omega
  · rw [show i = j from congrArg Identifier.mk (BitVec.toNat_inj.1 same)]

/-- Identifiers are ordered as the bytes of their canonical texts. -/
lemma compare_eq_bytes (i j : Identifier) :
    i.compare j = compareOfLessAndEq (Text.bytes i.toText) (Text.bytes j.toText) := by
  show compareOfLessAndEq i.number j.number = _
  simp only [compareOfLessAndEq, bytes_toText_lt_iff, bytes_toText_inj]

end Identifier

end Outbox
