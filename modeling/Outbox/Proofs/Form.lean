import Outbox.Proofs.Form.List

/-!
# Entries that are read back

An entry is written as an object of all its fields, in their order (`Entry.object`). What is read
from it has the same text (`parse_write`, `write_proper`), and it is the entry itself just when none
of its instants lies in a leap second that goes on inside a minute (`Entry.proper_eq_self_iff`). No
such instant is ever read (`isProper_of_parse`). An entry is also read from any other object that
says the same, and from the list of its values; a text that lacks a field or repeats one is refused
(`roundTrips`). The only forms that are left out have two fields of one name, or a field that may
hold nothing in two ways.
-/

namespace Outbox.Form

open Json (Gap Item Member ObjectText ListText Valid)
open Text (Yields)

variable {fs : List Field}

/-- A field and its value as they are written. -/
def Field.member (f : Field) (v : f.kind.Carrier) : Member where
  before := .none
  key := f.name.toList.flatMap Json.escaped
  body := (Json.spells_escaped _).body
  between := .none
  item := ⟨.none, f.kind.chars v, .none⟩

/-- A field's member is written like the field. -/
lemma Field.chars_member (f : Field) (v : f.kind.Carrier) : (f.member v).chars = f.chars v := by
  simp [member, Member.chars, Member.tail, Gap.none, chars, Json.textChars]

/-- The fields and values of an entry as they are written. -/
def Entry.told : (fs : List Field) → Entry fs → List Member
  | [], () => []
  | f :: fs, (v, e) => f.member v :: told fs e

/-- The members of an entry are written like its fields. -/
lemma Entry.map_told (e : Entry fs) : (e.told fs).map Member.chars = Entry.members fs e := by
  induction fs with
  | nil => rfl
  | cons f fs ih =>
    obtain ⟨v, e⟩ := e
    rw [told, List.map_cons, ih, Field.chars_member]
    rfl

/-- The values of an entry are JSON values. -/
lemma Entry.valid_told (e : Entry fs) : ∀ m ∈ e.told fs, Valid m.item.value := by
  induction fs with
  | nil => exact List.forall_mem_nil _
  | cons f fs ih => exact List.forall_mem_cons.2 ⟨f.kind.valid_chars e.1, ih e.2⟩

/-- The members of an entry name the fields in their order. -/
lemma Entry.inOrder_told (e : Entry fs) : InOrder fs (e.told fs) := by
  induction fs with
  | nil => exact .nil
  | cons f fs ih => exact .cons (Json.spells_escaped _) (ih e.2)

/-- Every instant in an entry is proper. -/
def Entry.IsProper : (fs : List Field) → Entry fs → Prop
  | [], () => True
  | f :: fs, (v, e) => f.kind.IsProper v ∧ IsProper fs e

/-- The entry that the text of an entry stands for. -/
def Entry.proper : (fs : List Field) → Entry fs → Entry fs
  | [], () => ()
  | f :: fs, (v, e) => (f.kind.proper v, proper fs e)

/-- An entry stands for itself just when its instants are proper. -/
lemma Entry.proper_eq_self_iff {e : Entry fs} : e.proper fs = e ↔ e.IsProper fs := by
  induction fs with
  | nil => exact iff_of_true rfl trivial
  | cons f fs ih =>
    obtain ⟨v, e⟩ := e
    show (f.kind.proper v, e.proper fs) = (v, e) ↔ _
    rw [Prod.mk.injEq]
    exact and_congr Kind.proper_eq_self_iff ih

/-- What a text stands for is proper. -/
lemma Entry.isProper_proper (e : Entry fs) : (e.proper fs).IsProper fs := by
  induction fs with
  | nil => trivial
  | cons f fs ih => exact ⟨f.kind.isProper_proper e.1, ih e.2⟩

/-- An entry has the text of the one it stands for. -/
lemma Entry.members_proper (e : Entry fs) :
    Entry.members fs (e.proper fs) = Entry.members fs e := by
  induction fs with
  | nil => rfl
  | cons f fs ih =>
    obtain ⟨v, e⟩ := e
    show f.chars (f.kind.proper v) :: members fs (e.proper fs) = f.chars v :: members fs e
    rw [ih, Field.chars, Field.chars, Kind.chars_proper]

/-- The written members of an entry tell the values that it stands for. -/
lemma Entry.lists_told (kinds : ∀ f ∈ fs, f.kind.isDistinct = true) (e : Entry fs) :
    Lists fs ((e.told fs).map Member.item) (e.proper fs) := by
  induction fs with
  | nil => exact .nil
  | cons f fs ih =>
    obtain ⟨here, others⟩ := List.forall_mem_cons.1 kinds
    obtain ⟨v, e⟩ := e
    exact .cons (fun rest ends => Kind.reads_chars here v ends) (ih others e)

/-- The object that an entry is written as. -/
def Entry.object (e : Entry fs) : ObjectText :=
  ⟨.none, .none, e.told fs, .none, e.valid_told⟩

/-- The object of an entry has the text of the entry. -/
lemma text_object {form : Form} (e : form.Filled) : (Entry.object e).text = write form e := by
  simp [ObjectText.text, Entry.object, Json.objectChars, Gap.none, write, Entry.map_told]

/-- An entry is written like the one it stands for. -/
lemma write_proper {form : Form} (e : form.Filled) :
    write form (e.proper form.fields) = write form e := by
  rw [write, write, Entry.members_proper]

/-- The text of an entry is read as the entry it stands for. -/
theorem parse_write {form : Form} (regular : Regular form.fields) (e : form.Filled) :
    parse form (write form e) = .ok (e.proper form.fields) := by
  rw [← text_object, parse_object_iff]
  exact (fills_iff_lists regular.names e.inOrder_told).2 (e.lists_told regular.kinds)

/-- An entry is read back from its text just when its instants are proper. -/
theorem parse_write_eq_ok_iff {form : Form} (regular : Regular form.fields) {e : form.Filled} :
    parse form (write form e) = .ok e ↔ e.IsProper form.fields := by
  rw [parse_write regular, Except.ok.injEq, Entry.proper_eq_self_iff]

/-- Every instant in the values that were read so far is proper. -/
def Slots.IsProper : (fs : List Field) → Slots fs → Prop
  | [], () => True
  | f :: fs, (slot, s) => (∀ v ∈ slot, f.kind.IsProper v) ∧ IsProper fs s

/-- As long as no value was read, all of them are proper. -/
lemma Slots.isProper_empty (fs : List Field) : (Slots.empty fs).IsProper fs := by
  induction fs with
  | nil => trivial
  | cons f fs ih => exact ⟨fun v mem => (Option.not_mem_none v mem).elim, ih⟩

/-- A field takes a proper value. -/
lemma Slots.yields_member {s : Slots fs} {name : String} {reader : Json.Reader (Slots fs)}
    (proper : s.IsProper fs) (found : s.member fs name = some reader) :
    Yields (Slots.IsProper fs) reader := by
  induction fs with
  | nil => cases found
  | cons f fs ih =>
    obtain ⟨slot, s⟩ := s
    by_cases here : f.name = name
    · cases (if_pos here).symm.trans found
      have value : Yields (Slots.IsProper (f :: fs))
          (readColon >>= fun _ => f.kind.read >>= fun v => pure (some v, s)) := by
        refine .after fun _ => .bind f.kind.yields_read fun v read => .pure ⟨?_, proper.2⟩
        rintro w ⟨⟩
        exact read
      cases slot with
      | none => exact value
      | some v => exact .after fun _ => .after fun _ => value
    · obtain ⟨reader, later, rfl⟩ := Option.map_eq_some_iff.1 ((if_neg here).symm.trans found)
      exact .bind (ih proper.2 later) fun s' proper' => .pure ⟨proper.1, proper'⟩

/-- Whatever a member tells, the values stay proper. -/
lemma yields_readMember {s : Slots fs} (proper : s.IsProper fs) :
    Yields (Slots.IsProper fs) (readMember fs s) := by
  refine .after fun _ => .after fun cs => ?_
  cases found : s.member fs (String.ofList cs) with
  | some reader =>
    simp only [found]
    exact Slots.yields_member proper found
  | none =>
    simp only [found]
    exact .after fun _ => .after fun _ => .pure proper

/-- Whatever the members of an object tell, the values are proper. -/
lemma yields_readMembers (fuel : Nat) (first : Bool) {s : Slots fs} (proper : s.IsProper fs) :
    Yields (Slots.IsProper fs) (readMembers fs fuel first s) := by
  have here {cause : Json.Cause} : Yields (Slots.IsProper fs) (Json.failHere cause) :=
    .of_error (Json.fails_failHere cause)
  have ahead {cause : Json.Cause} : Yields (Slots.IsProper fs) (Json.failAhead cause) :=
    .of_error (Json.fails_failAhead cause)
  induction fuel generalizing first s with
  | zero => exact here
  | succ fuel ih =>
    refine .after fun next => ?_
    split
    · exact here
    · exact .pure proper
    · split_ifs
      · exact .bind (yields_readMember proper) fun _ proper => ih false proper
      · exact ahead
      · refine .after fun _ => .after fun next => ?_
        split
        · exact .bind (yields_readMember proper) fun _ proper => ih false proper
        · exact ahead
        · exact ahead
        · exact here
      · exact ahead

/-- The values that complete an entry are proper if those are that its fields fall back to. -/
lemma Slots.isProper_of_complete (omitted : ∀ f ∈ fs, ∀ v ∈ f.omitted, f.kind.IsProper v)
    {s : Slots fs} {e : Entry fs} (proper : s.IsProper fs) (complete : s.complete fs = .ok e) :
    e.IsProper fs := by
  induction fs with
  | nil => trivial
  | cons f fs ih =>
    obtain ⟨slot, s⟩ := s
    obtain ⟨v, e⟩ := e
    obtain ⟨fallback, omitted⟩ := List.forall_mem_cons.1 omitted
    obtain ⟨here, later⟩ := Slots.complete_cons_iff.1 complete
    refine ⟨?_, ih omitted proper.2 later⟩
    cases slot with
    | none => exact fallback v here
    | some w => exact proper.1 v here

/-- Every entry that is read from an object is proper. -/
lemma yields_readObject (omitted : ∀ f ∈ fs, ∀ v ∈ f.omitted, f.kind.IsProper v) :
    Yields (Entry.IsProper fs) (readObject fs) := by
  refine .after fun _ => .bind (yields_readMembers _ _ (Slots.isProper_empty fs)) fun s proper => ?_
  refine .after fun _ => ?_
  split
  · next e complete => exact .pure (Slots.isProper_of_complete omitted proper complete)
  · exact .of_error (Json.fails_failHere _)

/-- Every entry that is read from a list is proper. -/
lemma yields_readItems (required : ∀ f ∈ fs, f.unlisted = none) (expected : String) (index : Nat) :
    Yields (Entry.IsProper fs) (readItems expected fs index) := by
  induction fs generalizing index with
  | nil => exact .pure trivial
  | cons f fs ih =>
    obtain ⟨first, required⟩ := List.forall_mem_cons.1 required
    have item : Yields (Entry.IsProper (f :: fs))
        (f.kind.read >>= fun v => readItems expected fs (index + 1) >>= fun e => pure (v, e)) :=
      .bind f.kind.yields_read fun v here =>
        .bind (ih required (index + 1)) fun e later => .pure ⟨here, later⟩
    have short : Yields (Entry.IsProper (f :: fs))
        (passEnd ']' >>= fun _ => Json.failHere (.invalidLength index expected)) :=
      .after fun _ => .of_error (Json.fails_failHere _)
    rw [readItems, first]
    refine .after fun more => ?_
    cases more with
    | true => exact item
    | false => exact short

/-- Every entry that is read is proper. -/
theorem isProper_of_parse {form : Form} (regular : Regular form.fields) {text : String}
    {e : form.Filled} (accepted : parse form text = .ok e) : e.IsProper form.fields := by
  have omitted : ∀ f ∈ form.fields, ∀ v ∈ f.omitted, f.kind.IsProper v := by
    intro f mem v same
    rw [regular.omitted f mem] at same
    exact Kind.isProper_of_blank same
  have yields : Yields (Entry.IsProper form.fields) (reader form) := by
    refine .after fun next => ?_
    split
    · exact .after fun _ => yields_readObject omitted
    · exact .after fun _ => .bind (yields_readItems regular.unlisted _ 0) fun e proper =>
        .after fun _ => .pure proper
    · exact yields_mismatch _ _
  exact Json.of_read yields accepted

/-- Another object that says the same: it may lack members that are null and have members that name
no field, and all others may stand in any order. -/
inductive Variant (fs : List Field) (o o' : ObjectText) : Prop
  | mk (kept nulls strangers : List Member) :
      o.members.Perm (nulls ++ kept) → o'.members.Perm (strangers ++ kept) →
      (∀ m ∈ nulls, IsNull m) → (∀ m ∈ strangers, IsStranger fs m) → Variant fs o o'

/-- Values are written as entries of a form, and read from every text that says the same. The
`proper` ones are read back. -/
structure RoundTrips {α : Type} (form : Form) (write : α → String)
    (parse : String → Except Json.Report α) (proper : α → Prop) : Prop where
  /-- Just the proper values are read back from their texts. -/
  back {a : α} : parse (write a) = .ok a ↔ proper a
  /-- The text of any value is that of a proper one, as which it is read. -/
  accepted (a : α) : ∃ b, parse (write a) = .ok b ∧ proper b ∧ write b = write a
  /-- A value is written as an object of all fields in their order. -/
  written (a : α) : ∃ o : ObjectText, o.text = write a ∧ InOrder form.fields o.members
  /-- The order of the members does not matter, nor do members that name no field; members that are
  null may be left out. -/
  variant {o o' : ObjectText} {a : α} :
    parse o.text = .ok a → Variant form.fields o o' → parse o'.text = .ok a
  /-- The values of an object in the order of the fields may stand in a list. -/
  list {o : ObjectText} {l : ListText} {a : α} : InOrder form.fields o.members →
    l.items = o.members.map Member.item → (parse l.text = .ok a ↔ parse o.text = .ok a)
  /-- What is written for an accepted text stands for the same value. -/
  again {text : String} {a : α} : parse text = .ok a → parse (write a) = .ok a
  /-- An object has to name every field that may not be null. -/
  missing {o : ObjectText} {f : Field} : f ∈ form.fields → f.kind.isPlain = true →
    (∀ m ∈ o.members, ¬ m.Names f.name) → ∃ report, parse o.text = .error report
  /-- A list has to have an item for every field, and no more. -/
  uneven {l : ListText} : l.items.length ≠ form.fields.length →
    ∃ report, parse l.text = .error report
  /-- A text has to be an object or a list. -/
  other {before after : Gap} {cs : List Char} : Valid cs → cs.head? ≠ some '\x7b' →
    cs.head? ≠ some '[' →
    ∃ report, parse (String.ofList (before.chars ++ cs ++ after.chars)) = .error report
  /-- An object may name no field twice. -/
  repeated {o : ObjectText} {f : Field} {m n : Member} : f ∈ form.fields →
    [m, n].Sublist o.members → m.Names f.name → n.Names f.name →
    ∃ report, parse o.text = .error report

/-- A value that is neither an object nor a list is no entry. -/
lemma refuses_reader {form : Form} {cs : List Char} (valid : Valid cs)
    (noObject : cs.head? ≠ some '\x7b') (noList : cs.head? ≠ some '[') (gap : Gap)
    (rest : List Char) : Json.Refuses (reader form) (gap.chars ++ cs) rest := by
  obtain ⟨c, ds, rfl, solid, _⟩ := valid.exists_cons
  refine .past (Json.Patient.look _) gap (.look solid ?_)
  split
  · next opening => exact absurd opening noObject
  · next opening => exact absurd opening noList
  · exact (fails_mismatch _).refuses _ _

/-- What comes out of a change to a result is the change of a result. -/
lemma map_eq_ok_iff {ε α β : Type} {f : α → β} {x : Except ε α} {b : β} :
    x.map f = .ok b ↔ ∃ a, x = .ok a ∧ f a = b := by
  cases x with
  | error fault =>
    constructor
    · rintro ⟨⟩
    · rintro ⟨a, ⟨⟩, _⟩
  | ok a =>
    constructor
    · rintro ⟨⟩
      exact ⟨a, rfl, rfl⟩
    · rintro ⟨a, ⟨⟩, rfl⟩
      rfl

/-- A change to a result that never comes gives a fault. -/
lemma map_error {ε α β : Type} {x : Except ε α} (never : ∀ a, x ≠ .ok a) (f : α → β) :
    ∃ fault, x.map f = .error fault := by
  cases x with
  | error fault => exact ⟨fault, rfl⟩
  | ok a => exact absurd rfl (never a)

section

variable {form : Form} (regular : Regular form.fields)

include regular

/-- What is read from an object is read from every variant of it. -/
lemma parse_variant {o o' : ObjectText} {e : form.Filled} (accepted : parse form o.text = .ok e)
    (same : Variant form.fields o o') : parse form o'.text = .ok e := by
  obtain ⟨kept, nulls, strangers, before, after, null, strange⟩ := same
  rw [parse_object_iff] at accepted ⊢
  have without := (accepted.perm before).of_nulls regular null
  exact (without.strangers strange).perm after.symm

/-- A list says what an object says whose members have its items in the order of the fields. -/
lemma parse_list_eq_iff {o : ObjectText} {l : ListText} {e : form.Filled}
    (ordered : InOrder form.fields o.members) (items : l.items = o.members.map Member.item) :
    parse form l.text = .ok e ↔ parse form o.text = .ok e := by
  rw [parse_list_iff regular.unlisted, parse_object_iff, items,
    fills_iff_lists regular.names ordered]

/-- The values of a type that has the entries of a form are written and read as such. -/
theorem roundTrips {α : Type} {toEntry : α → form.Filled} {ofEntry : form.Filled → α}
    {proper : α → Prop} (inverse : ∀ a, ofEntry (toEntry a) = a)
    (inverse' : ∀ e, toEntry (ofEntry e) = e)
    (same : ∀ a, proper a ↔ (toEntry a).IsProper form.fields) :
    RoundTrips form (fun a => write form (toEntry a))
      (fun text => (parse form text).map ofEntry) proper := by
  -- The type and its entries are the same, so all is said of entries.
  have back : ∀ a, (parse form (write form (toEntry a))).map ofEntry = .ok a ↔ proper a := by
    intro a
    rw [same, ← parse_write_eq_ok_iff regular, map_eq_ok_iff]
    constructor
    · rintro ⟨e, read, rfl⟩
      rwa [inverse'] at read ⊢
    · exact fun read => ⟨toEntry a, read, inverse a⟩
  constructor
  case back => exact back _
  case accepted =>
    refine fun a => ⟨ofEntry ((toEntry a).proper form.fields), ?_, ?_, ?_⟩
    · rw [parse_write regular, Except.map]
    · rw [same, inverse']
      exact Entry.isProper_proper _
    · rw [inverse', write_proper]
  case written => exact fun a => ⟨Entry.object (toEntry a), text_object _, Entry.inOrder_told _⟩
  case variant =>
    intro o o' a accepted same
    obtain ⟨e, accepted, entry⟩ := map_eq_ok_iff.1 accepted
    exact map_eq_ok_iff.2 ⟨e, parse_variant regular accepted same, entry⟩
  case list =>
    intro o l a ordered items
    simp only [map_eq_ok_iff, parse_list_eq_iff regular ordered items]
  case again =>
    intro text a accepted
    obtain ⟨e, read, rfl⟩ := map_eq_ok_iff.1 accepted
    rw [back, same, inverse']
    exact isProper_of_parse regular read
  case missing =>
    intro o f mem plain unnamed
    refine map_error (fun e accepted => ?_) ofEntry
    obtain ⟨m, inside, names⟩ := (parse_object_iff.1 accepted).named regular mem plain
    exact unnamed m inside names
  case uneven =>
    intro l uneven
    refine map_error (fun e accepted => uneven ?_) ofEntry
    exact ((parse_list_iff regular.unlisted).1 accepted).length_eq
  case other =>
    intro before after cs valid noObject noList
    refine map_error (fun e accepted => ?_) ofEntry
    obtain ⟨report, error⟩ :=
      Json.read_of_refuses (refuses_reader valid noObject noList before after.chars)
    cases error.symm.trans accepted
  case repeated =>
    intro o f m n mem twice first second
    refine map_error (fun e accepted => ?_) ofEntry
    exact (parse_object_iff.1 accepted).once mem twice first second

end

end Outbox.Form
