import Outbox.Proofs.Form.Filling

/-!
# What a list says about the fields of a form

A list is read as an entry exactly when its items mean the values of the entry, one after the other
and no more (`parse_list_iff`).
-/

namespace Outbox.Form

open Json (Reads Refuses Fails Ends Patient Valid Gap Item ListText)

variable {fs : List Field} {rest : List Char}

/-- Reads the items of a list and its end. -/
def readList (expected : String) (fs : List Field) (index : Nat) : Json.Reader (Entry fs) := do
  let e ← readItems expected fs index
  readListEnd
  return e

/-- Reads the first of the fields that are left, and then the others. -/
def readEntry (expected : String) (f : Field) (fs : List Field) (index : Nat) :
    Json.Reader (Entry (f :: fs)) := do
  let v ← f.kind.read
  return (v, ← readList expected fs (index + 1))

/-- A list that ends before a field without a value there is refused. -/
lemma exists_readList_cons (fs : List Field) {f : Field} (required : f.unlisted = none)
    (expected : String) (index : Nat) :
    ∃ stop : Json.Reader (Entry (f :: fs)), Fails stop ∧ readList expected (f :: fs) index =
      anotherItem (index = 0) >>= fun more =>
        if more then readEntry expected f fs index else stop := by
  have fails : Fails (Json.failHere (.invalidLength index expected) :
      Json.Reader (f.kind.Carrier × Entry fs)) := Json.fails_failHere _
  refine ⟨passEnd ']' >>= fun _ => Json.failHere (.invalidLength index expected) >>= fun e =>
      readListEnd >>= fun _ => pure e, .bind fun _ => fails.before _, ?_⟩
  rw [readList, readItems, bind_assoc]
  refine bind_congr fun more => ?_
  cases more with
  | true =>
    show ((f.kind.read >>= fun v => readItems expected fs (index + 1) >>= fun e =>
      (pure (v, e) : Json.Reader (f.kind.Carrier × Entry fs))) >>= fun e => readListEnd >>= fun _ =>
      (pure e : Json.Reader (f.kind.Carrier × Entry fs))) = _
    rw [if_pos rfl, readEntry, readList]
    simp only [bind_assoc, pure_bind]
  | false =>
    rw [if_neg Bool.false_ne_true, required]
    exact bind_assoc ..

/-- Whoever waits for a value sees one come. -/
lemma reads_glance {cs : List Char} (valid : Valid cs) {α : Type} {a : α}
    {f : Option Char → Json.Reader α} (gap : Gap) (ds rest : List Char)
    (next : ∀ c, c ≠ ']' → Reads (f (some c)) [] (cs ++ ds ++ rest) a) :
    Reads (Json.peekPastGaps >>= f) gap.chars (cs ++ ds ++ rest) a := by
  obtain ⟨c, es, rfl, solid, other⟩ := valid.exists_cons
  have past := (Patient.look f).reads gap (.glance solid (next c other))
  rwa [List.append_nil] at past

/-- The first item of a list is seen behind blanks. -/
lemma reads_anotherItem_first {cs : List Char} (valid : Valid cs) (gap : Gap)
    (ds rest : List Char) : Reads (anotherItem true) gap.chars (cs ++ ds ++ rest) true := by
  refine reads_glance valid gap ds rest fun c other => ?_
  split
  · next none => cases none
  · next closing => exact absurd (Option.some.inj closing) other
  · exact .pure true _

/-- A later item of a list is seen behind its comma and blanks. -/
lemma reads_anotherItem_later {cs : List Char} (valid : Valid cs) (gap gap' : Gap)
    (ds rest : List Char) :
    Reads (anotherItem false) (gap.chars ++ ',' :: gap'.chars) (cs ++ ds ++ rest) true := by
  refine (Patient.look _).reads gap (.look rfl (.skip ?_))
  refine reads_glance valid gap' ds rest fun c other => ?_
  split
  · next none => cases none
  · next closing => exact absurd (Option.some.inj closing) other
  · exact .pure true _

/-- No item is seen behind blanks where the list ends. -/
lemma reads_anotherItem_end (gap : Gap) (first : Bool) :
    Reads (anotherItem first) gap.chars (']' :: rest) false := by
  have here : Reads (anotherItem first) [] (']' :: rest) false := .glance rfl (.pure false _)
  have past : Reads (anotherItem first) (gap.chars ++ []) (']' :: rest) false :=
    (Patient.look _).reads gap here
  rwa [List.append_nil] at past

/-- A list is read to its end behind blanks. -/
lemma reads_readListEnd (gap : Gap) (rest : List Char) :
    Reads readListEnd (gap.chars ++ [']']) rest () :=
  (Patient.look _).reads gap (.look rfl fun _ => rfl)

/-- A list does not end where anything but its bracket comes next. -/
lemma refuses_readListEnd (gap : Gap) {c : Char} (solid : Json.isGap c = false) (other : c ≠ ']')
    (cs rest : List Char) : Refuses readListEnd (gap.chars ++ c :: cs) rest := by
  have ahead : ∀ cause, Fails (Json.failAhead cause : Json.Reader Unit) := Json.fails_failAhead
  refine .past (Patient.look _) gap (.look solid ?_)
  split
  · next none => cases none
  · next closing => exact absurd (Option.some.inj closing) other
  · refine .skip (Fails.refuses (.bind fun next => ?_) _ _)
    split
    · exact ahead _
    · exact ahead _
  · exact (ahead _).refuses _ _

/-- The text of the items that follow another one, and of the end of the list. -/
def laterItems (is : List Item) : List Char :=
  (is.map Item.chars).flatMap (',' :: ·) ++ [']']

/-- Some items that follow begin with a comma and the first of them. -/
lemma laterItems_cons (i : Item) (is : List Item) :
    laterItems (i :: is) =
      ',' :: (i.before.chars ++ (i.value ++ (i.after.chars ++ laterItems is))) := by
  simp [laterItems, Item.chars]

/-- What follows an item does not go on with its value. -/
lemma ends_item (i : Item) (is : List Item) (rest : List Char) :
    Ends (i.after.chars ++ laterItems is ++ rest) := by
  have later : Ends (laterItems is ++ rest) := by
    cases is with
    | nil => simp [Ends, laterItems]
    | cons i is => simp [Ends, laterItems_cons]
  rw [List.append_assoc]
  exact later.gap i.after

variable {expected : String} {f : Field} {index : Nat} {i : Item} {is : List Item}

/-- An item that means the value of its field is read with the items behind it. -/
lemma reads_readEntry {v : f.kind.Carrier} {e : Entry fs} (means : f.kind.Means i.value v)
    (later : Reads (readList expected fs (index + 1)) (i.after.chars ++ laterItems is) rest e) :
    Reads (readEntry expected f fs index) (i.value ++ (i.after.chars ++ laterItems is)) rest
      (v, e) :=
  (means _ (ends_item i is rest)).bind (later.map fun e => (v, e))

/-- An item is refused if it means nothing for its field or the items behind it are refused. -/
lemma refuses_readEntry (valid : Valid i.value)
    (later : ∀ v, f.kind.Means i.value v →
      Refuses (readList expected fs (index + 1)) (i.after.chars ++ laterItems is) rest) :
    Refuses (readEntry expected f fs index) (i.value ++ (i.after.chars ++ laterItems is)) rest := by
  obtain ⟨v, means⟩ | refuses := f.kind.settled valid
  · exact .after (means _ (ends_item i is rest)) (later v means).bind
  · exact (refuses _ (ends_item i is rest)).early.bind

/-- After an item, the others are read up to the end of the list. -/
lemma Lists.reads_later {e : Entry fs} (lists : Lists fs is e)
    (required : ∀ f ∈ fs, f.unlisted = none) (valid : ∀ i ∈ is, Valid i.value)
    (expected : String) (index : Nat) (gap : Gap) (rest : List Char) :
    Reads (readList expected fs (index + 1)) (gap.chars ++ laterItems is) rest e := by
  induction lists generalizing index gap with
  | nil => exact (reads_readListEnd gap rest).settle (.pure () rest)
  | @cons f fs i is v e means _ ih =>
    obtain ⟨here, others⟩ := List.forall_mem_cons.1 valid
    obtain ⟨first, required⟩ := List.forall_mem_cons.1 required
    have later := ih required others (index + 1) i.after
    obtain ⟨stop, -, same⟩ := exists_readList_cons fs first expected (index + 1)
    have more := reads_anotherItem_later here gap i.before (i.after.chars ++ laterItems is) rest
    have all := more.bind
      (f := fun more => if more then readEntry expected f fs (index + 1) else stop)
      (reads_readEntry means later)
    rw [laterItems_cons, same]
    rwa [List.append_assoc, List.cons_append] at all

/-- Items that mean no values for the fields that are left are refused. -/
lemma refuses_later (never : ∀ e, ¬ Lists fs is e) (required : ∀ f ∈ fs, f.unlisted = none)
    (valid : ∀ i ∈ is, Valid i.value) (expected : String) (index : Nat) (gap : Gap)
    (rest : List Char) :
    Refuses (readList expected fs (index + 1)) (gap.chars ++ laterItems is) rest := by
  induction fs generalizing is index gap with
  | nil =>
    cases is with
    | nil => exact absurd .nil (never ())
    | cons i is =>
      rw [laterItems_cons]
      exact (refuses_readListEnd gap rfl (by decide) _ rest).bind
  | cons f fs ih =>
    obtain ⟨first, required⟩ := List.forall_mem_cons.1 required
    obtain ⟨stop, fails, same⟩ := exists_readList_cons fs first expected (index + 1)
    rw [same]
    cases is with
    | nil =>
      exact .after (reads_anotherItem_end gap _) (fails.refuses _ _)
    | cons i is =>
      obtain ⟨here, others⟩ := List.forall_mem_cons.1 valid
      have more := reads_anotherItem_later here gap i.before (i.after.chars ++ laterItems is) rest
      -- whatever value this item has, the items after it mean none for the other fields
      have later (v : f.kind.Carrier) (means : f.kind.Means i.value v) :
          Refuses (readList expected fs (index + 1 + 1)) (i.after.chars ++ laterItems is) rest :=
        ih (fun e lists => never (v, e) (.cons means lists)) required others (index + 1) i.after
      have all := Refuses.after
        (f := fun more => if more then readEntry expected f fs (index + 1) else stop)
        more (refuses_readEntry here later)
      rw [laterItems_cons]
      rwa [List.append_assoc, List.cons_append] at all

/-- A list after its opening bracket. -/
def itemChars (gap : Gap) (is : List Item) : List Char :=
  gap.chars ++ [','].intercalate (is.map Item.chars) ++ [']']

/-- The items of a list begin with the first of them. -/
lemma itemChars_cons (gap : Gap) (i : Item) (is : List Item) :
    itemChars gap (i :: is) =
      gap.chars ++ (i.before.chars ++ (i.value ++ (i.after.chars ++ laterItems is))) := by
  rw [itemChars, List.map_cons, Json.intercalate_cons]
  simp [laterItems, Item.chars]

/-- A list whose items mean the values of an entry is read as the entry. -/
lemma Lists.reads {e : Entry fs} (lists : Lists fs is e) (required : ∀ f ∈ fs, f.unlisted = none)
    (valid : ∀ i ∈ is, Valid i.value) (expected : String) (gap : Gap) (rest : List Char) :
    Reads (readList expected fs 0) (itemChars gap is) rest e := by
  cases lists with
  | nil =>
    have ended := (reads_readListEnd gap rest).settle (f := fun _ => pure ()) (.pure () rest)
    rwa [itemChars, List.map_nil, List.intercalate_nil, List.append_nil]
  | @cons f fs i is v e means lists =>
    obtain ⟨here, others⟩ := List.forall_mem_cons.1 valid
    obtain ⟨first, required⟩ := List.forall_mem_cons.1 required
    have later := lists.reads_later required others expected 0 i.after rest
    obtain ⟨stop, -, same⟩ := exists_readList_cons fs first expected 0
    have more := reads_anotherItem_first here i.before (i.after.chars ++ laterItems is) rest
    rw [itemChars_cons, same]
    refine ((Patient.look _).bind _).reads gap ?_
    exact more.bind (f := fun more => if more then readEntry expected f fs 0 else stop)
      (reads_readEntry means later)

/-- A list whose items mean no entry is refused. -/
lemma refuses_readList (never : ∀ e, ¬ Lists fs is e) (required : ∀ f ∈ fs, f.unlisted = none)
    (valid : ∀ i ∈ is, Valid i.value) (expected : String) (gap : Gap) (rest : List Char) :
    Refuses (readList expected fs 0) (itemChars gap is) rest := by
  cases fs with
  | nil =>
    cases is with
    | nil => exact absurd .nil (never ())
    | cons i is =>
      obtain ⟨here, -⟩ := List.forall_mem_cons.1 valid
      obtain ⟨c, cs, same, solid, other⟩ := here.exists_cons
      rw [itemChars_cons, same]
      refine .past ((Patient.look _).bind _) gap ?_
      exact (refuses_readListEnd i.before solid other _ rest).bind
  | cons f fs =>
    obtain ⟨first, required⟩ := List.forall_mem_cons.1 required
    obtain ⟨stop, fails, same⟩ := exists_readList_cons fs first expected 0
    rw [same]
    cases is with
    | nil =>
      rw [itemChars, List.map_nil, List.intercalate_nil, List.append_nil]
      exact .after (reads_anotherItem_end gap true) (fails.refuses _ _)
    | cons i is =>
      obtain ⟨here, others⟩ := List.forall_mem_cons.1 valid
      have more := reads_anotherItem_first here i.before (i.after.chars ++ laterItems is) rest
      rw [itemChars_cons]
      refine .past ((Patient.look _).bind _) gap ?_
      exact .after (f := fun more => if more then readEntry expected f fs 0 else stop) more
        (refuses_readEntry here fun v means => refuses_later
          (fun e lists => never (v, e) (.cons means lists)) required others expected 0 i.after rest)

/-- The text of a list is read as an entry exactly when its items mean the values of the entry. -/
theorem parse_list_iff {form : Form} {l : ListText} {e : form.Filled}
    (required : ∀ f ∈ form.fields, f.unlisted = none) :
    parse form l.text = .ok e ↔ Lists form.fields l.items e :=
  Json.read_eq_ok_iff
    (fun _ lists => (Patient.look _).reads l.before <|
      .look rfl <| .skip <| lists.reads required l.valid _ l.inside l.after.chars)
    fun never => .past (Patient.look _) l.before <|
      .look rfl <| .skip <| refuses_readList never required l.valid _ l.inside l.after.chars

end Outbox.Form
