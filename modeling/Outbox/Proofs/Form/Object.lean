import Outbox.Proofs.Form.Value
import Outbox.Proofs.Json.Pass

/-!
# What an object says about the fields of a form

A member of an object tells the value of a field or names no field at all (`Tells`); the members of
an object tell their values one after the other (`Run`). An object is read as an entry exactly when
its members fill the slots of that entry (`parse_object_iff`). Members tell the same in any order
(`Run.perm`).
-/

namespace Outbox.Form

open Json (Reads Refuses Ends Patient Valid Gap Member ObjectText)

variable {fs : List Field}

/-- A value fills the empty slot of the first field of its field's name. -/
inductive Takes (f : Field) (v : f.kind.Carrier) : (fs : List Field) → Slots fs → Slots fs → Prop
  | here {fs : List Field} (slots : Slots fs) : Takes f v (f :: fs) (none, slots) (some v, slots)
  | there {g : Field} {fs : List Field} {slots slots' : Slots fs} (slot : Option g.kind.Carrier) :
      g.name ≠ f.name → Takes f v fs slots slots' → Takes f v (g :: fs) (slot, slots) (slot, slots')

namespace Takes

variable {f g : Field} {v : f.kind.Carrier} {w : g.kind.Carrier} {s s' s'' : Slots fs}

/-- A field whose slot is filled is one of the fields. -/
lemma mem (takes : Takes f v fs s s') : f ∈ fs := by
  induction takes with
  | here => exact List.mem_cons_self
  | there _ _ _ ih => exact List.mem_cons_of_mem _ ih

/-- A slot is filled once. -/
lemma name_ne (first : Takes f v fs s s') (second : Takes g w fs s' s'') : f.name ≠ g.name := by
  induction first with
  | here slots =>
    cases second with
    | there _ other _ => exact other
  | there slot other first ih =>
    cases second with
    | here => exact other.symm
    | there _ _ second => exact ih second

/-- Two values fill their slots in any order. -/
lemma comm (first : Takes f v fs s s') (second : Takes g w fs s' s'') :
    ∃ t, Takes g w fs s t ∧ Takes f v fs t s'' := by
  induction first with
  | here slots =>
    cases second with
    | there _ other second => exact ⟨_, .there _ other second, .here _⟩
  | there slot other first ih =>
    cases second with
    | here => exact ⟨_, .here _, .there _ other first⟩
    | there _ also second =>
      obtain ⟨t, second, first⟩ := ih second
      exact ⟨_, .there _ also second, .there _ other first⟩

/-- What fills a slot is read as a member of its field. -/
lemma reads_member {colon cs : List Char} (takes : Takes f v fs s s')
    (reads : ∀ rest, Reads readColon colon rest ()) (means : f.kind.Means cs v) :
    ∃ reader, s.member fs f.name = some reader ∧
      ∀ rest, Ends rest → Reads reader (colon ++ cs) rest s' := by
  induction takes with
  | here slots =>
    refine ⟨_, if_pos rfl, fun rest ends => ?_⟩
    have value := (means rest ends).map fun v => (some v, slots)
    exact (reads _).before value
  | there slot other _ ih =>
    obtain ⟨reader, found, reads⟩ := ih
    refine ⟨_, (if_neg other).trans (congrArg _ found), fun rest ends => ?_⟩
    exact (reads rest ends).map fun slots => (slot, slots)

end Takes

/-- A colon is read behind blanks. -/
lemma reads_readColon (gap : Gap) (rest : List Char) :
    Reads readColon (gap.chars ++ [':']) rest () :=
  (Patient.look _).reads gap (.look rfl fun _ => rfl)

/-- A closing bracket is passed over. -/
lemma reads_passEnd {bracket : Char} (solid : Json.isGap bracket = false) (rest : List Char) :
    Reads (passEnd bracket) [bracket] rest () := by
  refine .look solid ?_
  rw [if_pos rfl]
  exact fun _ => rfl

/-- No field has a name just when there is no reader for it. -/
lemma Slots.member_eq_none_iff {s : Slots fs} {name : String} :
    s.member fs name = none ↔ ∀ f ∈ fs, f.name ≠ name := by
  induction fs with
  | nil => exact ⟨fun _ => List.forall_mem_nil _, fun _ => rfl⟩
  | cons f fs ih =>
    obtain ⟨slot, slots⟩ := s
    rw [List.forall_mem_cons, ← ih (s := slots), Slots.member]
    split_ifs with here
    · simp [here]
    · exact Option.map_eq_none_iff.trans (by simp [here])

/-- A field whose value cannot be taken refuses it. -/
lemma Slots.refuses_member {s : Slots fs} {name : String} {reader : Json.Reader (Slots fs)}
    {colon cs rest : List Char} (found : s.member fs name = some reader)
    (reads : ∀ rest, Reads readColon colon rest ()) (valid : Valid cs) (gap : Gap)
    (never : ∀ f v s', f.name = name → f.kind.Means cs v → ¬ Takes f v fs s s')
    (ends : Ends rest) : Refuses reader (colon ++ (gap.chars ++ cs)) rest := by
  induction fs with
  | nil => cases found
  | cons f fs ih =>
    obtain ⟨slot, slots⟩ := s
    by_cases here : f.name = name
    · cases (if_pos here).symm.trans found
      cases slot with
      | some v =>
        -- The slot is full, so that the name alone is a fault.
        have fails : Json.Fails (Json.failHere (.duplicateField f.name) : Json.Reader Unit) :=
          Json.fails_failHere _
        have closed : Json.Fails (passEnd '\x7d' >>= fun _ =>
            (Json.failHere (.duplicateField f.name) : Json.Reader Unit) >>= fun _ =>
              readColon >>= fun _ => f.kind.read >>= fun v => pure (some v, slots)) := by
          refine Json.Fails.bind fun _ => ?_
          exact fails.before _
        exact closed.refuses _ rest
      | none =>
        have reader : Refuses (readColon >>= fun _ => f.kind.read >>= fun v => pure (some v, slots))
            (colon ++ (gap.chars ++ cs)) rest := by
          refine .after (reads _) (Refuses.bind ?_)
          obtain ⟨v, means⟩ | refuses := f.kind.settled valid
          · exact absurd (Takes.here slots) (never f v _ here means)
          · exact .past f.kind.patient_read gap (refuses rest ends)
        exact reader
    · obtain ⟨reader, later, rfl⟩ := Option.map_eq_some_iff.1 ((if_neg here).symm.trans found)
      refine Refuses.bind (ih later fun g w s' name means takes => ?_)
      exact never g w _ name means (.there slot (fun same => here (same.trans name)) takes)

/-- A member tells the value of a field, which fills its slot, or it names no field. -/
inductive Tells (m : Member) (fs : List Field) : Slots fs → Slots fs → Prop
  | known {f : Field} {v : f.kind.Carrier} {s s' : Slots fs} :
      m.Names f.name → f.kind.Means m.item.value v → Takes f v fs s s' → Tells m fs s s'
  | unknown {name : String} (s : Slots fs) :
      m.Names name → (∀ f ∈ fs, f.name ≠ name) → Tells m fs s s

namespace Tells

variable {m n : Member} {s s' s'' : Slots fs}

/-- What a member tells is a value of the field that it names, or nothing. -/
lemma inv (tells : Tells m fs s s') :
    (∃ (f : Field) (v : f.kind.Carrier),
      m.Names f.name ∧ f.kind.Means m.item.value v ∧ Takes f v fs s s') ∨
    (∃ name, m.Names name ∧ (∀ f ∈ fs, f.name ≠ name)) ∧ s' = s := by
  cases tells with
  | known names means takes => exact .inl ⟨_, _, names, means, takes⟩
  | unknown _ names unknown => exact .inr ⟨⟨_, names, unknown⟩, rfl⟩

/-- What a member tells is read. -/
lemma reads (tells : Tells m fs s s') (valid : Valid m.item.value) {rest : List Char}
    (ends : Ends rest) : Reads (readMember fs s) ('"' :: m.tail) rest s' := by
  refine .advance ?_
  cases tells with
  | @known f v s s' names means takes =>
    obtain ⟨reader, found, reads⟩ :=
      takes.reads_member (reads_readColon m.between) (means.past m.item.before)
    refine (names.reads _).bind ?_
    simp only [String.ofList_toList, found]
    exact reads rest ends
  | @unknown name s names unknown =>
    refine (names.reads _).bind ?_
    simp only [String.ofList_toList, Slots.member_eq_none_iff.2 unknown]
    exact (reads_readColon m.between _).before
      ((valid.reads_passValue m.item.before ends).settle (.pure s rest))

/-- A member that tells nothing is refused. -/
lemma refuses (never : ∀ s', ¬ Tells m fs s s') (valid : Valid m.item.value) {rest : List Char}
    (ends : Ends rest) : Refuses (readMember fs s) ('"' :: m.tail) rest := by
  refine .advance ?_
  by_cases spelt : ∃ cs, Json.Spells cs m.key
  · obtain ⟨cs, spells⟩ := spelt
    have names : m.Names (String.ofList cs) := by rwa [Member.Names, String.toList_ofList]
    refine .after (spells.reads _) ?_
    cases found : s.member fs (String.ofList cs) with
    | none =>
      have unknown := Slots.member_eq_none_iff.1 found
      exact absurd (.unknown s names unknown) (never s)
    | some reader =>
      simp only [found]
      refine Slots.refuses_member found (reads_readColon m.between) valid m.item.before ?_ ends
      rintro f v s' same means takes
      exact never s' (.known (same ▸ names) means takes)
  · exact (m.body.refuses spelt _).early.bind

/-- Two members tell their values in any order. -/
lemma comm (first : Tells m fs s s') (second : Tells n fs s' s'') :
    ∃ t, Tells n fs s t ∧ Tells m fs t s'' := by
  cases first with
  | unknown _ names unknown => exact ⟨s'', second, .unknown _ names unknown⟩
  | known names means takes =>
    cases second with
    | unknown _ others unknown => exact ⟨s, .unknown _ others unknown, .known names means takes⟩
    | known others also second =>
      obtain ⟨t, second, first⟩ := takes.comm second
      exact ⟨t, .known others also second, .known names means first⟩

end Tells

/-- Members tell their values one after the other. -/
inductive Run (fs : List Field) : Slots fs → List Member → Slots fs → Prop
  | nil (s : Slots fs) : Run fs s [] s
  | cons {s s' s'' : Slots fs} {m : Member} {ms : List Member} :
      Tells m fs s s' → Run fs s' ms s'' → Run fs s (m :: ms) s''

/-- Members tell the same in any order. -/
lemma Run.perm {s t : Slots fs} {ms ns : List Member} (perm : ms.Perm ns) (run : Run fs s ms t) :
    Run fs s ns t := by
  induction perm generalizing s with
  | nil => exact run
  | cons m _ ih =>
    cases run with
    | cons tells run => exact .cons tells (ih run)
  | swap m n ms =>
    obtain _ | ⟨first, _ | ⟨second, run⟩⟩ := run
    obtain ⟨t, second, first⟩ := first.comm second
    exact .cons second (.cons first run)
  | trans _ _ ih ih' => exact ih' (ih run)

/-- The text of the members that follow another one. -/
def laterChars (ms : List Member) : List Char :=
  (ms.map Member.chars).flatMap (',' :: ·)

/-- Some members that follow begin with a comma and the first of them. -/
lemma laterChars_cons (m : Member) (ms : List Member) :
    laterChars (m :: ms) =
      ',' :: (m.before.chars ++ '"' :: (m.tail ++ (m.item.after.chars ++ laterChars ms))) := by
  simp [laterChars, Member.chars]

/-- The members of an object begin with the first of them. -/
lemma intercalate_chars (m : Member) (ms : List Member) :
    [','].intercalate ((m :: ms).map Member.chars) =
      m.before.chars ++ '"' :: (m.tail ++ (m.item.after.chars ++ laterChars ms)) := by
  rw [List.map_cons, Json.intercalate_cons]
  simp [laterChars, Member.chars]

/-- Neither a comma nor a closing bracket goes on with a value. -/
lemma ends_laterChars (ms : List Member) (rest : List Char) :
    Ends (laterChars ms ++ '\x7d' :: rest) := by
  cases ms with
  | nil => simp [Ends, laterChars]
  | cons m ms => simp [Ends, laterChars_cons]

/-- What follows a member does not go on with its value. -/
lemma ends_member (m : Member) (ms : List Member) (rest : List Char) :
    Ends (m.item.after.chars ++ laterChars ms ++ '\x7d' :: rest) := by
  rw [List.append_assoc]
  exact (ends_laterChars ms rest).gap m.item.after

namespace Run

variable {s t : Slots fs} {ms : List Member}

/-- The members that follow another one are read up to the end of the object. -/
lemma reads_later (run : Run fs s ms t) (valid : ∀ m ∈ ms, Valid m.item.value) {fuel : Nat}
    (enough : ms.length < fuel) (gap : Gap) (rest : List Char) :
    Reads (readMembers fs fuel false s) (gap.chars ++ laterChars ms) ('\x7d' :: rest) t := by
  -- Every member uses up one unit of the fuel.
  induction run generalizing fuel gap with
  | nil s =>
    obtain _ | fuel := fuel
    · cases enough
    · have none : Reads (readMembers fs (fuel + 1) false s) [] ('\x7d' :: rest) s := fun _ => rfl
      exact (Patient.look _).reads gap none
  | @cons s s' t m ms tells _ ih =>
    obtain _ | fuel := fuel
    · cases enough
    · obtain ⟨here, others⟩ := List.forall_mem_cons.1 valid
      have later := ih others (Nat.lt_of_succ_lt_succ enough) m.item.after
      have member := tells.reads here (ends_member m ms rest)
      rw [laterChars_cons]
      refine (Patient.look _).reads gap (.look rfl (.skip ?_))
      exact (Patient.look _).reads m.before (.look rfl (member.bind later))

/-- Members that tell no values for their fields are refused behind another one. -/
lemma refuses_later (never : ∀ t, ¬ Run fs s ms t) (valid : ∀ m ∈ ms, Valid m.item.value)
    (fuel : Nat) (gap : Gap) (rest : List Char) :
    Refuses (readMembers fs fuel false s) (gap.chars ++ laterChars ms) ('\x7d' :: rest) := by
  induction ms generalizing s fuel gap with
  | nil => exact absurd (.nil s) (never s)
  | cons m ms ih =>
    obtain _ | fuel := fuel
    · exact (Json.fails_failHere _).refuses _ _
    · obtain ⟨here, others⟩ := List.forall_mem_cons.1 valid
      have ends := ends_member m ms rest
      rw [laterChars_cons]
      refine .past (Patient.look _) gap (.look rfl (.skip ?_))
      refine .past (Patient.look _) m.before (.look rfl ?_)
      by_cases told : ∃ s', Tells m fs s s'
      · obtain ⟨s', tells⟩ := told
        exact .after (tells.reads here ends)
          (ih (fun t run => never t (.cons tells run)) others fuel m.item.after)
      · exact (Tells.refuses (fun s' tells => told ⟨s', tells⟩) here ends).early.bind

/-- The members of an object are read up to its closing bracket. -/
lemma reads (run : Run fs s ms t) (valid : ∀ m ∈ ms, Valid m.item.value) {fuel : Nat}
    (enough : ms.length < fuel) (gap : Gap) (rest : List Char) :
    Reads (readMembers fs fuel true s) (gap.chars ++ [','].intercalate (ms.map Member.chars))
      ('\x7d' :: rest) t := by
  obtain _ | fuel := fuel
  · cases enough
  refine (Patient.look _).reads gap ?_
  cases run with
  | nil => exact fun _ => rfl
  | @cons s s' t m ms tells run =>
    obtain ⟨here, others⟩ := List.forall_mem_cons.1 valid
    have later := run.reads_later others (Nat.lt_of_succ_lt_succ enough) m.item.after rest
    have member := tells.reads here (ends_member m ms rest)
    rw [intercalate_chars]
    exact (Patient.look _).reads m.before (.look rfl (member.bind later))

/-- Members that tell no values for their fields are refused. -/
lemma refuses (never : ∀ t, ¬ Run fs s ms t) (valid : ∀ m ∈ ms, Valid m.item.value) (fuel : Nat)
    (gap : Gap) (rest : List Char) :
    Refuses (readMembers fs fuel true s) (gap.chars ++ [','].intercalate (ms.map Member.chars))
      ('\x7d' :: rest) := by
  obtain _ | fuel := fuel
  · exact (Json.fails_failHere _).refuses _ _
  refine .past (Patient.look _) gap ?_
  cases ms with
  | nil => exact absurd (.nil s) (never s)
  | cons m ms =>
    obtain ⟨here, others⟩ := List.forall_mem_cons.1 valid
    have ends := ends_member m ms rest
    rw [intercalate_chars]
    refine .past (Patient.look _) m.before (.look rfl ?_)
    by_cases told : ∃ s', Tells m fs s s'
    · obtain ⟨s', tells⟩ := told
      exact .after (tells.reads here ends) (refuses_later
        (fun t run => never t (.cons tells run)) others fuel m.item.after rest)
    · exact (Tells.refuses (fun s' tells => told ⟨s', tells⟩) here ends).early.bind

end Run

/-- There are at least as many commas between some parts as parts but one. -/
lemma length_le_intercalate (parts : List (List Char)) :
    parts.length ≤ ([','].intercalate parts).length + 1 := by
  have commas : ∀ ps : List (List Char), ps.length ≤ (ps.flatMap (',' :: ·)).length := by
    intro ps
    induction ps with
    | nil => exact Nat.le_refl 0
    | cons p ps ih =>
      simp only [List.flatMap_cons, List.length_append, List.length_cons]
      omega
  cases parts with
  | nil => exact Nat.zero_le _
  | cons part parts =>
    have more := commas parts
    rw [Json.intercalate_cons, List.length_append, List.length_cons]
    omega

/-- Members fill the slots of an entry. -/
def Fills (fs : List Field) (ms : List Member) (e : Entry fs) : Prop :=
  ∃ s, Run fs (Slots.empty fs) ms s ∧ s.complete fs = .ok e

/-- An object after its opening bracket. -/
def bodyChars (gap : Gap) (ms : List Member) : List Char :=
  gap.chars ++ [','].intercalate (ms.map Member.chars) ++ ['\x7d']

/-- An object has more characters than members. -/
lemma length_lt_bodyChars (gap : Gap) (ms : List Member) (rest : List Char) :
    ms.length < (bodyChars gap ms ++ rest).length + 1 := by
  have short := length_le_intercalate (ms.map Member.chars)
  rw [List.length_map] at short
  simp only [bodyChars, List.length_append, List.length_cons]
  omega

variable {ms : List Member}

/-- An object whose members fill the slots of an entry is read as the entry. -/
lemma Fills.reads {e : Entry fs} (fills : Fills fs ms e) (valid : ∀ m ∈ ms, Valid m.item.value)
    (gap : Gap) (rest : List Char) : Reads (readObject fs) (bodyChars gap ms) rest e := by
  intro n
  obtain ⟨s, run, complete⟩ := fills
  rw [readObject, Text.bind_of_ok (show (get : Json.Reader _) _ = .ok (_, _) from rfl)]
  have inside : Reads _ _ (['\x7d'] ++ rest) s :=
    run.reads valid (length_lt_bodyChars gap ms rest) gap rest
  have closed : Reads (passEnd '\x7d') ['\x7d'] rest () := reads_passEnd rfl rest
  refine inside.bind (closed.settle ?_) n
  rw [complete]
  exact .pure e rest

/-- An object whose members fill the slots of no entry is refused. -/
lemma refuses_readObject (never : ∀ e, ¬ Fills fs ms e) (valid : ∀ m ∈ ms, Valid m.item.value)
    (gap : Gap) (rest : List Char) : Refuses (readObject fs) (bodyChars gap ms) rest := by
  intro n
  rw [readObject, Text.bind_of_ok (show (get : Json.Reader _) _ = .ok (_, _) from rfl)]
  by_cases runs : ∃ s, Run fs (Slots.empty fs) ms s
  · obtain ⟨s, run⟩ := runs
    have inside : Reads _ _ (['\x7d'] ++ rest) s :=
      run.reads valid (length_lt_bodyChars gap ms rest) gap rest
    have closed : Reads (passEnd '\x7d') ['\x7d'] rest () := reads_passEnd rfl rest
    refine Refuses.after inside (.settle closed ?_) n
    cases complete : s.complete fs with
    | ok e => exact absurd ⟨s, run, complete⟩ (never e)
    | error name => exact (Json.fails_failHere _).refuses [] rest
  · exact (Run.refuses (fun s run => runs ⟨s, run⟩) valid _ gap rest).early.bind n

/-- The text of an object is read as an entry exactly when its members fill the slots of it. -/
theorem parse_object_iff {form : Form} {o : ObjectText} {e : form.Filled} :
    parse form o.text = .ok e ↔ Fills form.fields o.members e :=
  Json.read_eq_ok_iff
    (fun _ fills => (Patient.look _).reads o.before <|
      .look rfl <| .skip <| fills.reads o.valid o.inside o.after.chars)
    fun never => .past (Patient.look _) o.before <|
      .look rfl <| .skip <| refuses_readObject never o.valid o.inside o.after.chars

end Outbox.Form
