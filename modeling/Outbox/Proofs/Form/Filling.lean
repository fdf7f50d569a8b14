import Outbox.Proofs.Form.Object

/-!
# Objects that say the same

Which members of an object matter to an entry: not the ones that name no field
(`Fills.strangers`), nor the ones that are nothing (`Fills.of_nulls`), nor the order of the others.
Every field that may not be left out is named (`Fills.named`), and no field is named twice
(`Fills.once`). Members in the order of the fields mean the values of the entry one by one
(`fills_iff_lists`).
-/

namespace Outbox.Form

open Json (Item Member)

variable {fs : List Field} {ms : List Member}

/-- A member that names no field. -/
def IsStranger (fs : List Field) (m : Member) : Prop :=
  ∃ name, m.Names name ∧ ∀ f ∈ fs, f.name ≠ name

/-- A member that is nothing. -/
def IsNull (m : Member) : Prop :=
  m.item.value = ['n', 'u', 'l', 'l']

/-- No two fields have one name, and what may be nothing may be left out of an object, but not of a
list. -/
structure Regular (fs : List Field) : Prop where
  names : (fs.map Field.name).Nodup
  kinds : ∀ f ∈ fs, f.kind.isDistinct = true
  omitted : ∀ f ∈ fs, f.omitted = f.kind.blank
  unlisted : ∀ f ∈ fs, f.unlisted = none

/-- Slots complete an entry when the first one or its field has the first value, and the others
complete the rest. -/
lemma Slots.complete_cons_iff {f : Field} {slot : Option f.kind.Carrier} {s : Slots fs}
    {v : f.kind.Carrier} {e : Entry fs} :
    Slots.complete (f :: fs) (slot, s) = .ok (v, e) ↔
      (slot <|> f.omitted) = some v ∧ s.complete fs = .ok e := by
  rw [complete]
  cases (slot <|> f.omitted) with
  | none =>
    constructor
    · rintro ⟨⟩
    · rintro ⟨⟨⟩, _⟩
  | some w =>
    show (s.complete fs >>= fun e => Except.ok (w, e)) = _ ↔ _
    cases s.complete fs with
    | error name =>
      constructor
      · rintro ⟨⟩
      · rintro ⟨_, ⟨⟩⟩
    | ok e' =>
      constructor
      · rintro ⟨⟩
        exact ⟨rfl, rfl⟩
      · rintro ⟨⟨⟩, ⟨⟩⟩
        rfl

/-- A slot may stay empty when it would be filled with what its field falls back to. -/
lemma Takes.complete_eq {f : Field} {v : f.kind.Carrier} {s t : Slots fs} (takes : Takes f v fs s t)
    (same : f.omitted = some v) : t.complete fs = s.complete fs := by
  induction takes with
  | here slots =>
    show Slots.complete (f :: _) (some v, slots) = Slots.complete (f :: _) (none, slots)
    rw [Slots.complete, Slots.complete, same]
    rfl
  | @there g fs s t slot _ _ ih =>
    show Slots.complete (g :: fs) (slot, t) = Slots.complete (g :: fs) (slot, s)
    rw [Slots.complete, Slots.complete, ih]

/-- What a member spells is one name. -/
lemma Names.unique {m : Member} {a b : String} (names : m.Names a) (also : m.Names b) : a = b :=
  String.toList_injective (Json.Spells.unique names also)

/-- A member that names a field fills its slot. -/
lemma Tells.takes {m : Member} {s t : Slots fs} (tells : Tells m fs s t) {f : Field} (mem : f ∈ fs)
    (names : m.Names f.name) :
    ∃ (g : Field) (v : g.kind.Carrier),
      g.name = f.name ∧ g.kind.Means m.item.value v ∧ Takes g v fs s t := by
  cases tells with
  | @known g v _ _ also means takes => exact ⟨g, v, Names.unique also names, means, takes⟩
  | unknown _ also unknown => exact absurd (Names.unique names also) (unknown f mem)

/-- What the last of some members tells comes after what the others tell. -/
lemma Run.of_append {m : Member} {s t : Slots fs} (run : Run fs s (ms ++ [m]) t) :
    ∃ s', Run fs s ms s' ∧ Tells m fs s' t := by
  induction ms generalizing s with
  | nil =>
    obtain _ | ⟨tells, _ | _⟩ := run
    exact ⟨s, .nil s, tells⟩
  | cons n ms ih =>
    obtain _ | ⟨first, run⟩ := run
    obtain ⟨s', run, tells⟩ := ih run
    exact ⟨s', .cons first run, tells⟩

/-- The slots of the fields of a name are empty. -/
def Slots.Vacant (name : String) : (fs : List Field) → Slots fs → Prop
  | [], () => True
  | f :: fs, (slot, s) => (f.name = name → slot = none) ∧ Vacant name fs s

/-- Empty slots are vacant for every name. -/
lemma Slots.vacant_empty {name : String} (fs : List Field) : Vacant name fs (Slots.empty fs) := by
  induction fs with
  | nil => trivial
  | cons f fs ih => exact ⟨fun _ => rfl, ih⟩

/-- A slot that is filled leaves those of other names vacant. -/
lemma Takes.vacant {f : Field} {v : f.kind.Carrier} {name : String} {s t : Slots fs}
    (takes : Takes f v fs s t) (other : f.name ≠ name) (vacant : s.Vacant name fs) :
    t.Vacant name fs := by
  induction takes with
  | here => exact ⟨fun same => absurd same other, vacant.2⟩
  | there _ _ _ ih => exact ⟨vacant.1, ih vacant.2⟩

/-- A slot stays empty when no member names its field. -/
lemma Run.vacant {name : String} {s t : Slots fs} (run : Run fs s ms t)
    (unnamed : ∀ m ∈ ms, ¬ m.Names name) (vacant : s.Vacant name fs) : t.Vacant name fs := by
  induction run with
  | nil => exact vacant
  | cons tells _ ih =>
    obtain ⟨here, others⟩ := List.forall_mem_cons.1 unnamed
    refine ih others ?_
    cases tells with
    | unknown => exact vacant
    | known names _ takes => exact takes.vacant (fun same => here (same ▸ names)) vacant

/-- A field whose slot is vacant in a complete entry may be left out. -/
lemma Slots.Vacant.omitted {f : Field} {s : Slots fs} {e : Entry fs} (vacant : s.Vacant f.name fs)
    (mem : f ∈ fs) (complete : s.complete fs = .ok e) : f.omitted ≠ none := by
  induction fs with
  | nil => cases mem
  | cons g fs ih =>
    obtain ⟨slot, s⟩ := s
    obtain ⟨v, e⟩ := e
    obtain ⟨here, later⟩ := Slots.complete_cons_iff.1 complete
    obtain rfl | mem := List.mem_cons.1 mem
    · obtain rfl := vacant.1 rfl
      intro required
      rw [required] at here
      cases here
    · exact ih vacant.2 mem later

namespace Fills

/-- Members fill the slots of an entry in any order. -/
lemma perm {ns : List Member} {e : Entry fs} (fills : Fills fs ms e) (perm : ms.Perm ns) :
    Fills fs ns e := by
  obtain ⟨s, run, complete⟩ := fills
  exact ⟨s, run.perm perm, complete⟩

/-- Members that name no field may be added. -/
lemma strangers {e : Entry fs} (fills : Fills fs ms e) {others : List Member}
    (strangers : ∀ m ∈ others, IsStranger fs m) : Fills fs (others ++ ms) e := by
  obtain ⟨s, run, complete⟩ := fills
  refine ⟨s, ?_, complete⟩
  induction others with
  | nil => exact run
  | cons m others ih =>
    obtain ⟨⟨name, names, unknown⟩, others⟩ := List.forall_mem_cons.1 strangers
    exact .cons (.unknown _ names unknown) (ih others)

/-- A member that is nothing may be left out. -/
lemma of_null (regular : Regular fs) {m : Member} {e : Entry fs} (fills : Fills fs (m :: ms) e)
    (null : IsNull m) : Fills fs ms e := by
  obtain ⟨t, run, complete⟩ := fills
  obtain ⟨s, run, tells⟩ := (run.perm (List.perm_append_singleton m ms).symm).of_append
  refine ⟨s, run, ?_⟩
  cases tells with
  | unknown => exact complete
  | @known f v _ _ names means takes =>
    rw [null] at means
    have same := (regular.omitted f takes.mem).trans (Kind.blank_of_means_null means)
    rwa [takes.complete_eq same] at complete

/-- Members that are nothing may be left out. -/
lemma of_nulls (regular : Regular fs) {nulls : List Member} {e : Entry fs}
    (fills : Fills fs (nulls ++ ms) e) (all : ∀ m ∈ nulls, IsNull m) : Fills fs ms e := by
  induction nulls with
  | nil => exact fills
  | cons m nulls ih =>
    obtain ⟨here, others⟩ := List.forall_mem_cons.1 all
    exact ih (fills.of_null regular here) others

/-- No field is named twice. -/
lemma once {e : Entry fs} (fills : Fills fs ms e) {f : Field} (mem : f ∈ fs) {m n : Member}
    (twice : [m, n].Sublist ms) (first : m.Names f.name) : ¬ n.Names f.name := by
  intro second
  obtain ⟨others, perm⟩ := twice.exists_perm_append
  obtain ⟨s, run, -⟩ := fills.perm perm
  obtain _ | ⟨here, _ | ⟨there, _⟩⟩ := run
  obtain ⟨g, _, name, -, takes⟩ := here.takes mem first
  obtain ⟨h, _, also, -, again⟩ := there.takes mem second
  exact takes.name_ne again (name.trans also.symm)

/-- Every field that may not be left out is named. -/
lemma named (regular : Regular fs) {e : Entry fs} (fills : Fills fs ms e) {f : Field}
    (mem : f ∈ fs) (plain : f.kind.isPlain = true) : ∃ m ∈ ms, m.Names f.name := by
  by_contra unnamed
  obtain ⟨s, run, complete⟩ := fills
  have unnamed : ∀ m ∈ ms, ¬ m.Names f.name := fun m inside names => unnamed ⟨m, inside, names⟩
  have vacant := run.vacant unnamed (Slots.vacant_empty fs)
  refine vacant.omitted mem complete ((regular.omitted f mem).trans ?_)
  exact Kind.blank_of_isPlain plain

end Fills

/-- Items mean the values of an entry, one after the other. -/
inductive Lists : (fs : List Field) → List Item → Entry fs → Prop
  | nil : Lists [] [] ()
  | cons {f : Field} {fs : List Field} {i : Item} {is : List Item} {v : f.kind.Carrier}
      {e : Entry fs} : f.kind.Means i.value v → Lists fs is e → Lists (f :: fs) (i :: is) (v, e)

/-- Members name the fields of a form in their order. -/
def InOrder (fs : List Field) (ms : List Member) : Prop :=
  List.Forall₂ (fun f m => m.Names f.name) fs ms

/-- A list has an item for every field. -/
lemma Lists.length_eq {is : List Item} {e : Entry fs} (lists : Lists fs is e) :
    is.length = fs.length := by
  induction lists with
  | nil => rfl
  | cons _ _ ih => rw [List.length_cons, List.length_cons, ih]

/-- A member of another field leaves the first slot as it is. -/
lemma Tells.cons_iff {f : Field} {m : Member} {slot : Option f.kind.Carrier} {s : Slots fs}
    {t : Slots (f :: fs)} (other : ¬ m.Names f.name) :
    Tells m (f :: fs) (slot, s) t ↔ ∃ t', t = (slot, t') ∧ Tells m fs s t' := by
  constructor
  · intro tells
    obtain ⟨g, v, names, means, takes⟩ | ⟨⟨name, names, unknown⟩, rfl⟩ := tells.inv
    · cases takes with
      | here => exact absurd names other
      | there _ _ takes => exact ⟨_, rfl, .known names means takes⟩
    · exact ⟨s, rfl, .unknown s names (List.forall_mem_cons.1 unknown).2⟩
  · rintro ⟨t', rfl, tells⟩
    cases tells with
    | unknown _ names unknown =>
      have first : f.name ≠ _ := fun same => other (same ▸ names)
      exact .unknown _ names (List.forall_mem_cons.2 ⟨first, unknown⟩)
    | @known g v _ _ names means takes =>
      have first : f.name ≠ g.name := fun same => other (same ▸ names)
      have later := Takes.there slot first takes
      exact .known names means later

/-- Members of other fields leave the first slot as it is. -/
lemma Run.cons_iff {f : Field} {slot : Option f.kind.Carrier} {s : Slots fs} {t : Slots (f :: fs)}
    (others : ∀ m ∈ ms, ¬ m.Names f.name) :
    Run (f :: fs) (slot, s) ms t ↔ ∃ t', t = (slot, t') ∧ Run fs s ms t' := by
  induction ms generalizing s with
  | nil =>
    constructor
    · rintro ⟨⟩
      exact ⟨s, rfl, .nil s⟩
    · rintro ⟨t', rfl, ⟨⟩⟩
      exact .nil _
  | cons m ms ih =>
    obtain ⟨here, others⟩ := List.forall_mem_cons.1 others
    constructor
    · rintro (_ | ⟨tells, run⟩)
      obtain ⟨s', rfl, later⟩ := (Tells.cons_iff here).1 tells
      obtain ⟨t', rfl, rest⟩ := (ih others).1 run
      exact ⟨t', rfl, .cons later rest⟩
    · rintro ⟨t', rfl, _ | ⟨tells, run⟩⟩
      exact .cons ((Tells.cons_iff here).2 ⟨_, rfl, tells⟩) ((ih others).2 ⟨_, rfl, run⟩)

/-- The first field is told by the member that names it, and the others by the others. -/
lemma fills_cons_iff {f : Field} {m : Member} {v : f.kind.Carrier} {e : Entry fs}
    (names : m.Names f.name) (others : ∀ n ∈ ms, ¬ n.Names f.name) :
    Fills (f :: fs) (m :: ms) (v, e) ↔ f.kind.Means m.item.value v ∧ Fills fs ms e := by
  constructor
  · rintro ⟨s, _ | ⟨tells, run⟩, complete⟩
    obtain ⟨g, w, name, means, takes⟩ := tells.takes List.mem_cons_self names
    cases takes with
    | here =>
      obtain ⟨s, rfl, rest⟩ := (Run.cons_iff others).1 run
      obtain ⟨⟨⟩, full⟩ := Slots.complete_cons_iff.1 complete
      exact ⟨means, s, rest, full⟩
    | there _ other _ => exact absurd name.symm other
  · rintro ⟨means, s, run, complete⟩
    refine ⟨(some v, s), .cons (.known names means (.here _)) ((Run.cons_iff others).2 ⟨s, rfl, run⟩),
      ?_⟩
    exact Slots.complete_cons_iff.2 ⟨rfl, complete⟩

/-- A member among ordered ones names one of the fields. -/
lemma InOrder.exists_names (ordered : InOrder fs ms) {m : Member} (mem : m ∈ ms) :
    ∃ f ∈ fs, m.Names f.name := by
  induction ordered with
  | nil => cases mem
  | cons names _ ih =>
    obtain rfl | mem := List.mem_cons.1 mem
    · exact ⟨_, List.mem_cons_self, names⟩
    · obtain ⟨f, inside, names⟩ := ih mem
      exact ⟨f, List.mem_cons_of_mem _ inside, names⟩

/-- In the order of the fields, members fill the slots of an entry when they mean its values. -/
lemma fills_iff_lists (names : (fs.map Field.name).Nodup) (ordered : InOrder fs ms) {e : Entry fs} :
    Fills fs ms e ↔ Lists fs (ms.map Member.item) e := by
  induction ordered with
  | nil =>
    exact ⟨fun _ => .nil, fun _ => ⟨(), .nil _, rfl⟩⟩
  | @cons f m fs ms here ordered ih =>
    obtain ⟨v, e⟩ := e
    obtain ⟨other, names⟩ := List.nodup_cons.1 names
    have others : ∀ n ∈ ms, ¬ n.Names f.name := by
      intro n mem also
      obtain ⟨g, inside, names⟩ := InOrder.exists_names ordered mem
      rw [Names.unique also names] at other
      exact other (List.mem_map_of_mem inside)
    rw [fills_cons_iff here others, ih names]
    constructor
    · exact fun both => .cons both.1 both.2
    · rintro (_ | ⟨means, lists⟩)
      exact ⟨means, lists⟩

end Outbox.Form
