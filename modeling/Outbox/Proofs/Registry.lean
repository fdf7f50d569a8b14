import Outbox.Message
import Outbox.Proofs.Text

/-!
# The registry as a map

Whatever was registered, and in which of the three ways, is a list of entries that were put into the
registry one after the other (`run_eq`). A tag resolves to the shape of its last entry, and a listing
shows just what resolves, in the order of the bytes of the tags (`run_resolves`).
-/

namespace Outbox.Registry

/-- A shape with the tag under which it is registered. -/
abbrev Entry := String × Shape

/-- What can be done to a registry. -/
inductive Act
  | register (tag : String) (s : Shape)
  | registerOwn (s : Shape)
  | registerMatching (catalog : List Shape) (accepts : Shape → Bool)

/-- The shapes that an act registers, in order. -/
def Act.entries : Act → List Entry
  | .register tag s => [(tag, s)]
  | .registerOwn s => [(s.tag, s)]
  | .registerMatching catalog accepts => (catalog.filter accepts).map fun s => (s.tag, s)

/-- The registry after an act. -/
def step (r : Registry) : Act → Registry
  | .register tag s => r.register tag s
  | .registerOwn s => r.registerOwn s
  | .registerMatching catalog accepts => (r.registerMatching catalog accepts).1

/-- The registry after some acts. -/
def run (r : Registry) (acts : List Act) : Registry :=
  acts.foldl step r

/-- The registry with some more entries, one after the other. -/
def registerAll (r : Registry) (es : List Entry) : Registry :=
  es.foldl (fun r e => r.register e.1 e.2) r

/-- The shape of the last entry under a tag. -/
def lastOf (es : List Entry) (tag : String) : Option Shape :=
  (es.reverse.find? (·.1 = tag)).map Prod.snd

/-- The table of a registry after some entries has these in it, one after the other. -/
lemma table_registerAll (r : Registry) (es : List Entry) :
    (r.registerAll es).table = es.foldl Keyed.put r.table := by
  induction es generalizing r with
  | nil => rfl
  | cons e es ih => exact ih (r.register e.1 e.2)

/-- Shapes that are registered together are entered under their own tags, in the order of the
catalog. -/
lemma registerMatching_fst (r : Registry) (catalog : List Shape) (accepts : Shape → Bool) :
    (r.registerMatching catalog accepts).1 =
      r.registerAll ((catalog.filter accepts).map fun s => (s.tag, s)) := by
  rw [registerAll, List.foldl_map]
  rfl

/-- An act registers its entries. -/
lemma step_eq (r : Registry) (a : Act) : r.step a = r.registerAll a.entries := by
  cases a with
  | register tag s => rfl
  | registerOwn s => rfl
  | registerMatching catalog accepts => exact r.registerMatching_fst catalog accepts

/-- Some acts register their entries, one after the other. -/
lemma run_eq (r : Registry) (acts : List Act) :
    r.run acts = r.registerAll (acts.flatMap Act.entries) := by
  induction acts generalizing r with
  | nil => rfl
  | cons a acts ih =>
    rw [run, List.foldl_cons, ← run, ih, step_eq, List.flatMap_cons]
    exact List.foldl_append.symm

/-- The last entry under a tag counts, or else what the tag resolved to before. -/
lemma resolve_registerAll (r : Registry) (es : List Entry) (tag : String) :
    (r.registerAll es).resolve tag = (lastOf es tag).or (r.resolve tag) := by
  rw [resolve, table_registerAll, Keyed.find?_foldl_put, Option.map_or]
  rfl

/-- A tag without entries resolves as before. -/
lemma lastOf_eq_none {es : List Entry} {tag : String} (absent : ∀ e ∈ es, e.1 ≠ tag) :
    lastOf es tag = none := by
  rw [lastOf, Option.map_eq_none_iff, List.find?_eq_none]
  intro e mem
  simpa using absent e (List.mem_reverse.1 mem)

/-- Shapes that are registered together are registered under their own tags one by one. -/
lemma registerMatching_eq_run (r : Registry) (catalog : List Shape) (accepts : Shape → Bool) :
    (r.registerMatching catalog accepts).1 =
      r.run ((catalog.filter accepts).map .registerOwn) := by
  rw [run, List.foldl_map]
  rfl

/-- A catalog touches no tag but those of the shapes that pass its test. -/
lemma resolve_registerMatching (r : Registry) {catalog : List Shape} {accepts : Shape → Bool}
    {tag : String} (other : ∀ s ∈ catalog, accepts s = true → s.tag ≠ tag) :
    (r.registerMatching catalog accepts).1.resolve tag = r.resolve tag := by
  rw [registerMatching_fst, resolve_registerAll, lastOf_eq_none, Option.none_or]
  intro e mem
  obtain ⟨s, passed, rfl⟩ := List.mem_map.1 mem
  obtain ⟨here, accepted⟩ := List.mem_filter.1 passed
  exact other s here accepted

/-- A listing has the entries of the table in another order. -/
lemma perm_shapes (r : Registry) : r.shapes.Perm r.table.items :=
  List.mergeSort_perm ..

/-- A listing shows what resolves. -/
lemma mem_shapes_iff (r : Registry) (tag : String) (s : Shape) :
    (tag, s) ∈ r.shapes ↔ r.resolve tag = some s := by
  rw [r.perm_shapes.mem_iff, resolve, Option.map_eq_some_iff]
  constructor
  · intro mem
    exact ⟨(tag, s), Keyed.find?_key mem, rfl⟩
  · rintro ⟨e, found, rfl⟩
    obtain ⟨mem, rfl⟩ := Keyed.find?_eq_some_iff.1 found
    exact mem

/-- A listing is in the order of the bytes of the tags, none of which it shows twice. -/
lemma pairwise_shapes (r : Registry) :
    r.shapes.Pairwise fun a b => Text.bytes a.1 < Text.bytes b.1 := by
  have sorted : r.shapes.Pairwise fun a b => a.1 ≤ b.1 := by
    apply (List.pairwise_mergeSort _ _ r.table.items).imp
    · exact fun le => of_decide_eq_true le
    · intro a b c ab bc
      rw [decide_eq_true_eq] at ab bc ⊢
      exact String.le_trans ab bc
    · intro a b
      simpa using String.le_total a.1 b.1
  have distinct : (r.shapes.map Prod.fst).Nodup :=
    (r.perm_shapes.map Prod.fst).nodup_iff.2 r.table.distinct
  apply (sorted.and (List.pairwise_map.1 distinct)).imp
  intro a b ⟨le, ne⟩
  exact Text.lt_iff_bytes_lt.1 (Std.lt_of_le_of_ne le ne)

/-- Whatever was registered: a tag resolves to the shape that was registered last under it, and a
listing shows just what resolves, in the order of the bytes of the tags. The tags and their number
are those of the listing. A catalog registers the shapes that pass its test one by one under their
own tags, touches no other tag, and tells how many these are. -/
theorem run_resolves (acts : List Act) :
    let r := empty.run acts
    (∀ tag, r.resolve tag = lastOf (acts.flatMap Act.entries) tag) ∧
    (r.shapes.Pairwise fun a b => Text.bytes a.1 < Text.bytes b.1) ∧
    (∀ tag s, (tag, s) ∈ r.shapes ↔ r.resolve tag = some s) ∧
    r.tags = r.shapes.map Prod.fst ∧
    r.size = r.shapes.length ∧
    (r.isEmpty = true ↔ r.shapes = []) ∧
    ∀ catalog accepts,
      let (r', count) := r.registerMatching catalog accepts
      r' = r.run ((catalog.filter accepts).map .registerOwn) ∧
      (∀ tag, (∀ s ∈ catalog, accepts s = true → s.tag ≠ tag) →
        r'.resolve tag = r.resolve tag) ∧
      count = catalog.countP accepts := by
  intro r
  have size : r.size = r.shapes.length := r.perm_shapes.length_eq.symm
  refine ⟨fun tag => ?_, r.pairwise_shapes, r.mem_shapes_iff, rfl, size, ?_, ?_⟩
  · rw [show r = _ from run_eq empty acts, resolve_registerAll, resolve_empty, Option.or_none]
  · rw [isEmpty, size, decide_eq_true_eq, List.length_eq_zero_iff]
  · intro catalog accepts
    refine ⟨r.registerMatching_eq_run catalog accepts, ?_, List.countP_eq_length_filter.symm⟩
    exact fun tag other => r.resolve_registerMatching other

end Outbox.Registry
