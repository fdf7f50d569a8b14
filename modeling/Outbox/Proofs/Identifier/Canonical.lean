import Mathlib.Data.List.Basic
import Outbox.Proofs.Form.Value
import Outbox.Proofs.Store.Fetch

/-!
# The spellings of an identifier

A text is read as an identifier just when it is one of four spellings of 32 hexadecimal digits, in
any letter case, and then the canonical text of the identifier has these digits in lower case
(`ofChars?_eq_some_iff`). Every text with a canonical text is read (`Canonical.exists_toText`).
-/

namespace Outbox.Identifier

/-- Digits in groups of the given lengths, with a hyphen between any two of them. -/
inductive Grouped : (lengths : List Nat) → (digits text : List Char) → Prop
  | one {n : Nat} {g : List Char} : g.length = n → Grouped [n] g g
  | cons {n m : Nat} {ns : List Nat} {g ds cs : List Char} :
      g.length = n → Grouped (m :: ns) ds cs → Grouped (n :: m :: ns) (g ++ ds) (g ++ '-' :: cs)

/-- Hyphens are taken out of digits that are grouped, and of nothing else. -/
lemma dehyphenate_eq_some_iff {n : Nat} {ns : List Nat} {ds cs : List Char} :
    dehyphenate (n :: ns) cs = some ds ↔ Grouped (n :: ns) ds cs := by
  induction ns generalizing n ds cs with
  | nil =>
    rw [dehyphenate, Option.ite_none_right_eq_some]
    constructor
    · rintro ⟨length, ⟨⟩⟩
      exact .one length
    · rintro ⟨length⟩
      exact ⟨length, rfl⟩
  | cons m ns ih =>
    constructor
    · intro read
      rw [dehyphenate] at read
      · split at read
        · next rest behind =>
          obtain ⟨es, later, rfl⟩ := Option.map_eq_some_iff.1 read
          -- There is a hyphen behind the first group, so the group is whole.
          have long : n < cs.length := by
            have := congrArg List.length behind
            simp only [List.length_drop, List.length_cons] at this
            omega
          have front : (cs.take n).length = n := List.length_take_of_le (Nat.le_of_lt long)
          have all := Grouped.cons front (ih.1 later)
          rwa [← behind, List.take_append_drop] at all
        · cases read
      · simp
    · rintro (_ | ⟨length, grouped⟩)
      rw [dehyphenate, List.drop_left' length, List.take_left' length]
      · simp only [ih.2 grouped, Option.map_some]
      · simp

/-- The spellings of an identifier with some digits: these alone, in groups, in groups and braces,
or in groups after `urn:uuid:` in any letter case. -/
inductive Spelled : (digits text : List Char) → Prop
  | plain {ds : List Char} : ds.length = 32 → Spelled ds ds
  | hyphenated {ds cs : List Char} : Grouped [8, 4, 4, 4, 12] ds cs → Spelled ds cs
  | braced {ds cs : List Char} : Grouped [8, 4, 4, 4, 12] ds cs → Spelled ds ('{' :: cs ++ ['}'])
  | urn {ds cs scheme : List Char} :
      scheme.map Char.toLower = ['u', 'r', 'n', ':', 'u', 'u', 'i', 'd', ':'] →
      Grouped [8, 4, 4, 4, 12] ds cs → Spelled ds (scheme ++ cs)

/-- A canonical text is grouped of just the digits of its identifier. -/
lemma grouped_chars_iff {i : Identifier} {ds : List Char} :
    Grouped groupLengths ds i.chars ↔ Text.hex 32 i.number = ds := by
  have read : dehyphenate groupLengths i.chars = some (Text.hex 32 i.number) :=
    dehyphenate_hyphenate _ _ (Text.length_hex ..)
  rw [groupLengths, ← dehyphenate_eq_some_iff, ← groupLengths, read, Option.some.injEq]

/-- A number of 32 hexadecimal digits is that of an identifier. -/
lemma number_mk_ofNat {n : Nat} (small : n < 16 ^ 32) :
    number ⟨BitVec.ofNat 128 n⟩ = n := by
  rw [number, BitVec.toNat_ofNat]
  exact Nat.mod_eq_of_lt small

/-- An identifier is that of its number. -/
lemma mk_ofNat_number (i : Identifier) : ⟨BitVec.ofNat 128 i.number⟩ = i := by
  rw [number, BitVec.ofNat_toNat, BitVec.setWidth_eq]

/-- Digits stand for the identifier that is written with them in lower case. -/
lemma ofDigits_eq_some_iff {ds : List Char} {i : Identifier} :
    ofDigits ds = some i ↔
      ds.length = 32 ∧ (∀ d ∈ ds, d ∈ Text.hexDigits) ∧
        Grouped groupLengths (ds.map Char.toLower) i.chars := by
  rw [ofDigits, Option.ite_none_right_eq_some, grouped_chars_iff]
  refine and_congr_right fun length => ?_
  rw [Option.map_eq_some_iff]
  constructor
  · rintro ⟨n, read, rfl⟩
    obtain ⟨digits, small, written⟩ := Text.ofHex_eq_some_iff.1 read
    rw [length] at small written
    rw [number_mk_ofNat small]
    exact ⟨digits, written⟩
  · rintro ⟨digits, written⟩
    refine ⟨i.number, Text.ofHex_eq_some_iff.2 ⟨digits, ?_, ?_⟩, i.mk_ofNat_number⟩
    · rw [length]
      exact i.bits.isLt
    · rw [length, written]

/-- An identifier has 32 digits. -/
lemma ofDigits_eq_none {ds : List Char} (length : ds.length ≠ 32) : ofDigits ds = none :=
  if_neg length

/-- Any 32 hexadecimal digits are those of an identifier. -/
lemma exists_ofDigits {ds : List Char} (length : ds.length = 32)
    (digits : ∀ d ∈ ds, d ∈ Text.hexDigits) : ∃ i, ofDigits ds = some i := by
  obtain ⟨n, read⟩ := Text.exists_ofHex digits
  exact ⟨_, by rw [ofDigits, if_pos length, read, Option.map_some]⟩

namespace Grouped

/-- Digits are grouped in one way only. -/
lemma eq_hyphenate {ns : List Nat} {ds cs : List Char} (grouped : Grouped ns ds cs) :
    cs = hyphenate ns ds := by
  induction grouped with
  | one length => rw [hyphenate, List.take_of_length_le (Nat.le_of_eq length)]
  | cons length _ ih =>
    rw [hyphenate, List.take_left' length, List.drop_left' length, ← ih]
    simp

/-- A grouped text has as many digits as its groups are long. -/
lemma length_digits {ns : List Nat} {ds cs : List Char} (grouped : Grouped ns ds cs) :
    ds.length = ns.sum := by
  induction grouped with
  | one length => exact length
  | cons length _ ih => rw [List.length_append, length, ih, ← List.sum_cons]

/-- A grouped text has its digits and a hyphen between any two groups. -/
lemma length_text {ns : List Nat} {ds cs : List Char} (grouped : Grouped ns ds cs) :
    cs.length + 1 = ns.sum + ns.length := by
  induction grouped with
  | one length => rw [length]; rfl
  | cons length _ ih =>
    simp only [List.length_append, List.length_cons, List.sum_cons] at ih ⊢
    omega

/-- There are as many digits as the canonical text has, whatever their letter case. -/
lemma length_eq {f : Char → Char} {ds cs : List Char}
    (grouped : Grouped groupLengths (ds.map f) cs) : ds.length = 32 :=
  (List.length_map f).symm.trans grouped.length_digits

end Grouped

/-- Digits in groups are not wrapped in anything. -/
lemma unwrap_grouped {ds cs : List Char} (grouped : Grouped groupLengths ds cs)
    (digits : ∀ d ∈ ds, d ∈ Text.hexDigits) : unwrap cs = (cs, 0) := by
  obtain _ | ⟨length, _⟩ := grouped
  rename_i g ds cs _
  cases g with
  | nil => cases length
  | cons c g =>
    obtain ⟨_, -, value, -⟩ := Text.exists_hexValue? (digits c List.mem_cons_self)
    exact unwrap_eq_self (by rw [value]; rfl) (Nat.succ.inj length)

/-- A text in braces is unwrapped. -/
lemma unwrap_braced (cs : List Char) : unwrap ('{' :: cs ++ ['}']) = (cs, 1) := by
  simp [unwrap, unbraced?]

/-- A text behind its scheme is unwrapped, in whatever case the scheme is written. -/
lemma unwrap_urn {scheme : List Char} (cs : List Char)
    (named : scheme.map Char.toLower = ['u', 'r', 'n', ':', 'u', 'u', 'i', 'd', ':']) :
    unwrap (scheme ++ cs) = (cs, 9) := by
  have nine : scheme.length = 9 := by
    rw [← List.length_map (f := Char.toLower), named]
    rfl
  have plain : unbraced? (scheme ++ cs) = none := by
    unfold unbraced?
    split
    · next here =>
      cases scheme with
      | nil => cases named
      | cons c scheme =>
        cases here
        exact absurd (List.cons.inj named).1 (by decide)
    · rfl
  have after : afterUrn? (scheme ++ cs) = some cs := by
    unfold afterUrn?
    simp only [List.length_cons, List.length_nil]
    rw [List.take_left' nine, List.drop_left' nine, if_pos named]
  rw [unwrap, plain, after]

/-- Whatever a text wraps, it is braces or the scheme that it wraps it in. -/
lemma unwrap_cases (cs : List Char) :
    (unwrap cs).1 = cs ∨ cs = '{' :: (unwrap cs).1 ++ ['}'] ∨
      ∃ scheme, scheme.map Char.toLower = ['u', 'r', 'n', ':', 'u', 'u', 'i', 'd', ':'] ∧
        cs = scheme ++ (unwrap cs).1 := by
  cases braced : unbraced? cs with
  | some inner =>
    refine .inr (.inl ?_)
    rw [unwrap, braced]
    unfold unbraced? at braced
    split at braced
    · next rest =>
      obtain ⟨last, ⟨⟩⟩ := Option.ite_none_right_eq_some.1 braced
      rw [List.cons_append, List.dropLast_append_getLast? _ last]
    · cases braced
  | none =>
    cases named : afterUrn? cs with
    | some inner =>
      rw [unwrap, braced, named]
      obtain ⟨scheme, ⟨⟩⟩ := Option.ite_none_right_eq_some.1 named
      exact .inr (.inr ⟨_, scheme, (List.take_append_drop _ _).symm⟩)
    | none =>
      rw [unwrap, braced, named]
      exact .inl rfl

/-- A spelling is read as what its digits stand for. -/
lemma ofChars?_of_spelled {ds cs : List Char} (spelled : Spelled ds cs)
    (digits : ∀ d ∈ ds, d ∈ Text.hexDigits) : ofChars? cs = ofDigits ds := by
  -- No spelling but the plain one has as many characters as digits.
  have wrapped {before : Nat} {inner cs : List Char} (grouped : Grouped groupLengths ds inner)
      (inside : unwrap cs = (inner, before)) (long : cs.length ≠ 32) :
      ofChars? cs = ofDigits ds := by
    have groups : dehyphenate groupLengths inner = some ds := dehyphenate_eq_some_iff.2 grouped
    rw [ofChars?, ofDigits_eq_none long, inside]
    exact congrArg (Option.bind · ofDigits) groups
  cases spelled with
  | plain length =>
    obtain ⟨i, read⟩ := exists_ofDigits length digits
    rw [ofChars?, read]
  | hyphenated grouped =>
    have long := grouped.length_text
    exact wrapped grouped (unwrap_grouped grouped digits) (by simp at long; omega)
  | @braced cs grouped =>
    have long := grouped.length_text
    exact wrapped grouped (unwrap_braced cs) (by simp at long ⊢; omega)
  | @urn cs scheme named grouped =>
    have long := grouped.length_text
    have nine := congrArg List.length named
    exact wrapped grouped (unwrap_urn cs named) (by simp at long nine ⊢; omega)

/-- What is read is a spelling of digits that stand for it. -/
lemma spelled_of_ofChars? {cs : List Char} {i : Identifier} (read : ofChars? cs = some i) :
    ∃ ds, Spelled ds cs ∧ ofDigits ds = some i := by
  unfold ofChars? at read
  split at read
  · next plain =>
    cases read
    exact ⟨cs, .plain (ofDigits_eq_some_iff.1 plain).1, plain⟩
  · obtain ⟨ds, groups, read⟩ := Option.bind_eq_some_iff.1 read
    have grouped := dehyphenate_eq_some_iff.1 groups
    refine ⟨ds, ?_, read⟩
    obtain bare | braced | ⟨scheme, named, here⟩ := unwrap_cases cs
    · rw [bare] at grouped
      exact .hyphenated grouped
    · rw [braced]
      exact .braced grouped
    · rw [here]
      exact .urn named grouped

/-- The canonical text of a spelling: its digits in lower case, in groups of 8, 4, 4, 4 and 12. -/
def Canonical (s c : String) : Prop :=
  ∃ ds : List Char, (∀ d ∈ ds, d ∈ Text.hexDigits) ∧ Spelled ds s.toList ∧
    Grouped [8, 4, 4, 4, 12] (ds.map Char.toLower) c.toList

/-- The text of an identifier has its characters. -/
lemma toList_toText (i : Identifier) : i.toText.toList = i.chars :=
  String.toList_ofList

/-- A text is read as the identifier that is written as its canonical text. -/
lemma ofChars?_eq_some_iff {s : String} {i : Identifier} :
    ofChars? s.toList = some i ↔ Canonical s i.toText := by
  unfold Canonical
  rw [toList_toText]
  constructor
  · intro read
    obtain ⟨ds, spelled, value⟩ := spelled_of_ofChars? read
    obtain ⟨-, digits, grouped⟩ := ofDigits_eq_some_iff.1 value
    exact ⟨ds, digits, spelled, grouped⟩
  · rintro ⟨ds, digits, spelled, grouped⟩
    rw [ofChars?_of_spelled spelled digits]
    exact ofDigits_eq_some_iff.2 ⟨grouped.length_eq, digits, grouped⟩

/-- Every canonical text is written for an identifier. -/
lemma Canonical.exists_toText {s c : String} (canonical : Canonical s c) :
    ∃ i : Identifier, i.toText = c := by
  obtain ⟨ds, digits, -, grouped⟩ := canonical
  obtain ⟨i, value⟩ := exists_ofDigits grouped.length_eq digits
  obtain ⟨-, -, same⟩ := ofDigits_eq_some_iff.1 value
  have chars : c.toList = i.chars := grouped.eq_hyphenate.trans same.eq_hyphenate.symm
  exact ⟨i, by rw [toText, ← chars, String.ofList_toList]⟩

end Outbox.Identifier

/-!
## Canonical texts

The canonical text of an identifier stands for it: it is read back, alone and in JSON; whatever else
is read as the identifier has this canonical text; and where records are as old as each other, a
fetch brings them in the order of its bytes (`texts_canonical`).
-/

namespace Outbox.Identifier

/-- The JSON text of an identifier. -/
def toJson (i : Identifier) : String :=
  String.ofList (Form.Kind.identifier.chars i)

/-- Reads an identifier from a JSON text. -/
def ofJson (text : String) : Except Json.Report Identifier :=
  Json.read Form.Kind.identifier.read text

/-- A text is read as an identifier in any role just when it spells it. -/
lemma parseAs_eq_ok_iff {role : Role} {s : String} {i : Identifier} :
    parseAs role s = .ok i ↔ ofChars? s.toList = some i := by
  unfold parseAs parse
  cases ofChars? s.toList with
  | none => exact ⟨fun read => (nomatch read), fun read => (nomatch read)⟩
  | some j => exact ⟨fun read => congrArg some (Except.ok.inj read),
      fun read => congrArg Except.ok (Option.some.inj read)⟩

/-- A JSON string is read as the identifier that it spells, if it spells one. -/
lemma ofJson_eq_ok_iff {cs body : List Char} (spells : Json.Spells cs body) {i : Identifier} :
    ofJson (String.ofList ('"' :: body ++ ['"'])) = .ok i ↔ ofChars? cs = some i := by
  have reads : ∀ j, ofChars? cs = some j →
      Json.Reads Form.Kind.identifier.read ('"' :: body ++ ['"']) Json.Gap.none.chars j := by
    intro j here
    have spelt : Form.spellIdentifier cs = .ok j := by rw [Form.spellIdentifier, here]
    refine .look rfl (.advance ((spells.reads _).settle ?_))
    rw [spelt]
    exact .pure j _
  have refuses (none : ∀ j, ¬ofChars? cs = some j) :
      Json.Refuses Form.Kind.identifier.read ('"' :: body ++ ['"']) Json.Gap.none.chars := by
    have misspelt : ∃ reason, Form.spellIdentifier cs = .error reason := by
      rw [Form.spellIdentifier, Option.eq_none_iff_forall_ne_some.2 none]
      exact ⟨_, rfl⟩
    obtain ⟨reason, misspelt⟩ := misspelt
    refine .look rfl (.advance (.settle (spells.reads _) ?_))
    rw [misspelt]
    exact (Json.fails_failHere _).refuses [] _
  have accepted := Json.read_eq_ok_iff reads refuses (a := i)
  rwa [show Json.Gap.none.chars = [] from rfl, List.append_nil] at accepted

/-- Where records are as old as each other, a fetch brings them in the order of the bytes of their
identifiers' texts. -/
lemma pairwise_bytes_fetch (s : Store) (now : Time.Instant) (limit : Nat) (ceiling : UInt32) :
    (s.fetch now limit ceiling).Pairwise fun a b =>
      a.occurredAt = b.occurredAt → Text.bytes a.id.toText < Text.bytes b.id.toText := by
  refine ((s.pairwise_ready now ceiling).sublist (List.take_sublist ..)).imp fun older same => ?_
  obtain before | ⟨-, less⟩ := older
  · rw [same] at before
    exact absurd (Time.Instant.lt_iff.1 before) (Int.lt_irrefl _)
  · exact bytes_toText_lt_iff.2 less

/-- An identifier is read back from its text, alone and in JSON. Identifiers are ordered as the
bytes of their texts, and so are records that are as old as each other when they are fetched. A text
is read just when it is a spelling of an identifier, whose text is the canonical one, and so is a
JSON string; two spellings stand for one identifier just when they have one canonical text. -/
theorem texts_canonical :
    (∀ (role : Role) (i : Identifier), parseAs role i.toText = .ok i ∧ ofJson i.toJson = .ok i) ∧
    (∀ i j : Identifier,
      i.compare j = compareOfLessAndEq (Text.bytes i.toText) (Text.bytes j.toText)) ∧
    (∀ (s : Store) (now : Time.Instant) (limit : Nat) (ceiling : UInt32),
      (s.fetch now limit ceiling).Pairwise fun a b =>
        a.occurredAt = b.occurredAt → Text.bytes a.id.toText < Text.bytes b.id.toText) ∧
    (∀ (role : Role) (s : String) (i : Identifier),
      parseAs role s = .ok i ↔ Canonical s i.toText) ∧
    (∀ (s : String) (body : List Char) (i : Identifier), Json.Spells s.toList body →
      (ofJson (String.ofList ('"' :: body ++ ['"'])) = .ok i ↔ Canonical s i.toText)) ∧
    (∀ (role : Role) (s c : String), Canonical s c →
      ∃ i, parseAs role s = .ok i ∧ i.toText = c) ∧
    ∀ (role : Role) (s t c d : String), Canonical s c → Canonical t d →
      (parseAs role s = parseAs role t ↔ c = d) := by
  -- All of it comes down to which texts are read.
  have reads {role s i} : parseAs role s = .ok i ↔ Canonical s i.toText :=
    parseAs_eq_ok_iff.trans ofChars?_eq_some_iff
  have named (role s c) (canonical : Canonical s c) :
      ∃ i, parseAs role s = .ok i ∧ i.toText = c := by
    obtain ⟨i, rfl⟩ := canonical.exists_toText
    exact ⟨i, reads.2 canonical, rfl⟩
  refine ⟨fun role i => ⟨?_, ?_⟩, compare_eq_bytes, pairwise_bytes_fetch, fun _ _ _ => reads,
    fun s body i spells => (ofJson_eq_ok_iff spells).trans ofChars?_eq_some_iff,
    named, fun role s t c d first second => ?_⟩
  · exact parseAs_eq_ok_iff.2 (i.toList_toText ▸ i.ofChars?_chars)
  · exact (ofJson_eq_ok_iff (Json.spells_escaped i.chars)).2 i.ofChars?_chars
  · obtain ⟨i, readFirst, rfl⟩ := named role s c first
    obtain ⟨j, readSecond, rfl⟩ := named role t d second
    rw [readFirst, readSecond]
    refine ⟨fun same => congrArg toText (Except.ok.inj same), fun same => ?_⟩
    exact readFirst.symm.trans (reads.2 (same ▸ first))

/-- An identifier whose digits `a` and `b` can be written in either letter case. -/
def mixed : Identifier :=
  ⟨0x0190c6d26f00700080000000000000ab⟩

/-- The identifier after a scheme in mixed letter case. -/
def mixedUrn : String :=
  "URN:uuid:0190C6d2-6F00-7000-8000-0000000000aB"

/-- The identifier in braces. -/
def mixedBraced : String :=
  "\x7b0190C6D2-6F00-7000-8000-0000000000Ab\x7d"

/-- A list of hexadecimal digits is told digit by digit. -/
lemma forall_mem_hexDigits {ds : List Char} (all : (ds.all (· ∈ Text.hexDigits)) = true) :
    ∀ d ∈ ds, d ∈ Text.hexDigits :=
  fun d mem => of_decide_eq_true (List.all_eq_true.1 all d mem)

/-- An URN with letters of both cases has the canonical text of its identifier. -/
lemma canonical_mixedUrn : Canonical mixedUrn mixed.toText := by
  refine ⟨"0190C6d26F00700080000000000000aB".toList, forall_mem_hexDigits (by decide), ?_, ?_⟩
  · have grouped : Grouped groupLengths "0190C6d26F00700080000000000000aB".toList
        "0190C6d2-6F00-7000-8000-0000000000aB".toList := dehyphenate_eq_some_iff.1 (by decide)
    exact @Spelled.urn _ _ "URN:uuid:".toList (by decide) grouped
  · exact dehyphenate_eq_some_iff.1 (by decide)

/-- So has a text in braces. -/
lemma canonical_mixedBraced : Canonical mixedBraced mixed.toText := by
  refine ⟨"0190C6D26F00700080000000000000Ab".toList, forall_mem_hexDigits (by decide), ?_, ?_⟩
  · have grouped : Grouped groupLengths "0190C6D26F00700080000000000000Ab".toList
        "0190C6D2-6F00-7000-8000-0000000000Ab".toList := dehyphenate_eq_some_iff.1 (by decide)
    exact .braced grouped
  · exact dehyphenate_eq_some_iff.1 (by decide)

/-- Two spellings stand for the identifier, and so does a JSON string of one of them; of two records
that are as old as each other, the one whose identifier has the smaller text is fetched first. -/
theorem texts_canonical_mixed :
    Canonical mixedUrn mixed.toText ∧ Canonical mixedBraced mixed.toText ∧
      (∃ i, parseAs .aggregate mixedUrn = .ok i ∧ i.toText = mixed.toText) ∧
      parseAs .record mixedUrn = parseAs .record mixedBraced ∧
      Json.Spells mixedUrn.toList (mixedUrn.toList.flatMap Json.escaped) ∧
      ofJson (String.ofList ('"' :: mixedUrn.toList.flatMap Json.escaped ++ ['"'])) = .ok mixed ∧
      ((Store.twins.fetch .epoch 2 10).Pairwise fun a b =>
        a.occurredAt = b.occurredAt → Text.bytes a.id.toText < Text.bytes b.id.toText) := by
  obtain ⟨-, -, fetched, -, json, named, same⟩ := texts_canonical
  have spells := Json.spells_escaped mixedUrn.toList
  exact ⟨canonical_mixedUrn, canonical_mixedBraced, named .aggregate _ _ canonical_mixedUrn,
    (same .record _ _ _ _ canonical_mixedUrn canonical_mixedBraced).2 rfl, spells,
    (json _ _ _ spells).2 canonical_mixedUrn, fetched .twins .epoch 2 10⟩

end Outbox.Identifier
