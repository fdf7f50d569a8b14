/-!
# Keyed tables

Items of which no two have the same key, in the order in which their keys came. Each operation is
described by what it does to look-ups: `find?_put`, `find?_remove`, `find?_adjust`.
-/

namespace Outbox

/-- Items of which no two have the same key. -/
structure Keyed {α κ : Type} (key : α → κ) where
  items : List α
  distinct : (items.map key).Nodup

namespace Keyed

variable {α κ : Type} {key : α → κ}

/-- A table is nothing but its items. -/
theorem ext {t u : Keyed key} (h : t.items = u.items) : t = u := by
  cases t; cases u; simp_all

/-- The table without items. -/
def empty : Keyed key :=
  ⟨[], .nil⟩

instance : Inhabited (Keyed key) := ⟨empty⟩

/-- The number of items. -/
def size (t : Keyed key) : Nat :=
  t.items.length

/-- The keys of the items. -/
def keys (t : Keyed key) : List κ :=
  t.items.map key

/-- Distinct keys in front of a new one at the end. -/
theorem nodup_map_concat {l : List α} {a : α} (h : (l.map key).Nodup) (ha : key a ∉ l.map key) :
    ((l ++ [a]).map key).Nodup := by
  rw [List.map_append, List.nodup_append]
  refine ⟨h, by simp, ?_⟩
  intro x hx y hy e
  simp only [List.map_cons, List.map_nil, List.mem_singleton] at hy
  exact ha (hy ▸ e ▸ hx)

/-- Replacing items by others with the same keys keeps the keys. -/
theorem map_key_map {l : List α} {f : α → α} (hf : ∀ a, key (f a) = key a) :
    (l.map f).map key = l.map key := by
  simp [hf]

variable [DecidableEq κ]

/-- The item with a key. -/
def find? (t : Keyed key) (k : κ) : Option α :=
  t.items.find? (key · = k)

/-- Whether an item has a key. -/
def contains (t : Keyed key) (k : κ) : Bool :=
  (t.find? k).isSome

/-- Nothing is found at a key that no item has. -/
theorem find?_eq_none_iff {t : Keyed key} {k : κ} : t.find? k = none ↔ k ∉ t.items.map key := by
  simp [find?]

/-- A table does not contain the keys that no item has. -/
theorem contains_eq_false_iff {t : Keyed key} {k : κ} :
    t.contains k = false ↔ k ∉ t.items.map key := by
  rw [contains, Option.isSome_eq_false_iff, Option.isNone_iff_eq_none, find?_eq_none_iff]

/-- The table with another item at the end, unless its key is there already. -/
def add? (t : Keyed key) (a : α) : Option (Keyed key) :=
  if h : t.contains (key a) then none
  else some ⟨t.items ++ [a], nodup_map_concat t.distinct (contains_eq_false_iff.1 (by simpa using h))⟩

/-- The table with a change to the item of one key, if it is there. -/
def adjust (t : Keyed key) (k : κ) (f : α → α) (hf : ∀ a, key (f a) = key a) : Keyed key :=
  ⟨t.items.map fun a => if key a = k then f a else a, by
    rw [map_key_map fun a => by split <;> simp [hf]]
    exact t.distinct⟩

/-- The table with an item in the place of the one with its key, or at the end. -/
def put (t : Keyed key) (a : α) : Keyed key :=
  if h : t.contains (key a) then
    ⟨t.items.map fun b => if key b = key a then a else b, by
      have : (t.items.map fun b => if key b = key a then a else b).map key = t.items.map key := by
        rw [List.map_map]
        refine List.map_congr_left fun b _ => ?_
        simp only [Function.comp]
        split <;> simp_all
      rw [this]
      exact t.distinct⟩
  else
    ⟨t.items ++ [a], nodup_map_concat t.distinct (contains_eq_false_iff.1 (by simpa using h))⟩

/-- The table with only the items that pass a test. -/
def filter (t : Keyed key) (p : α → Bool) : Keyed key :=
  ⟨t.items.filter p, t.distinct.sublist (List.filter_sublist.map key)⟩

/-- The table without the item of a key. -/
def remove (t : Keyed key) (k : κ) : Keyed key :=
  t.filter (key · ≠ k)

/-- An item is what its key finds. -/
theorem find?_key {t : Keyed key} {a : α} (h : a ∈ t.items) : t.find? (key a) = some a := by
  obtain ⟨l, hl⟩ := t
  simp only [find?] at *
  induction l with
  | nil => simp at h
  | cons b l ih =>
    simp only [List.map_cons, List.nodup_cons, List.mem_map, not_exists, not_and] at hl
    rw [List.find?_cons]
    rcases List.mem_cons.1 h with rfl | h
    · simp
    · have hne : key b ≠ key a := fun e => hl.1 a h e.symm
      simp [hne, ih hl.2 h]

/-- What is found at a key is the item with this key. -/
theorem find?_eq_some_iff {t : Keyed key} {k : κ} {a : α} :
    t.find? k = some a ↔ a ∈ t.items ∧ key a = k := by
  constructor
  · intro h
    exact ⟨List.mem_of_find?_eq_some h, by simpa using List.find?_some h⟩
  · rintro ⟨h, rfl⟩
    exact find?_key h

/-- An adjustment changes what is found at its key, and nothing else. -/
theorem find?_adjust {t : Keyed key} {k j : κ} {f : α → α} {hf : ∀ a, key (f a) = key a} :
    (t.adjust k f hf).find? j = if j = k then (t.find? k).map f else t.find? j := by
  simp only [find?, adjust, List.find?_map]
  have hp : (fun a => decide (key a = j)) ∘ (fun a => if key a = k then f a else a) =
      fun a => decide (key a = j) := by
    funext a
    simp only [Function.comp]
    split <;> simp [hf]
  rw [hp]
  split
  · next h =>
    subst h
    cases hfind : t.items.find? fun a => decide (key a = j) with
    | none => rfl
    | some a => simpa using fun h => absurd (by simpa using List.find?_some hfind) h
  · next h =>
    cases hfind : t.items.find? fun a => decide (key a = j) with
    | none => rfl
    | some a =>
      have hk : key a = j := by simpa using List.find?_some hfind
      simp [hk, h]

/-- An item that was put in is found at its key, and at other keys what was found before. -/
theorem find?_put {t : Keyed key} {a : α} {j : κ} :
    (t.put a).find? j = if j = key a then some a else t.find? j := by
  unfold put
  split
  -- the key is taken: an item is replaced where it stands
  · next h =>
    simp only [find?, List.find?_map]
    have hp : (fun b => decide (key b = j)) ∘ (fun b => if key b = key a then a else b) =
        fun b => decide (key b = j) := by
      funext b
      simp only [Function.comp]
      split
      · next e => rw [e]
      · rfl
    rw [hp]
    split
    · next e =>
      subst e
      obtain ⟨b, hb⟩ := Option.isSome_iff_exists.1 h
      have hk := (find?_eq_some_iff.1 hb).2
      rw [find?] at hb
      simp [hb, hk]
    · next e =>
      cases hfind : t.items.find? fun b => decide (key b = j) with
      | none => rfl
      | some b =>
        have hk : key b = j := by simpa using List.find?_some hfind
        simp [hk, e]
  · next h =>
    by_cases e : j = key a
    · subst e
      have hn : t.items.find? (fun b => decide (key b = key a)) = none := by
        simpa [contains, find?] using h
      simp [find?, hn]
    · have hne : key a ≠ j := fun h => e h.symm
      simp [find?, e, hne]

/-- A filter drops the items that do not pass, and the others are still found. -/
theorem find?_filter {t : Keyed key} {p : α → Bool} {j : κ} :
    (t.filter p).find? j = (t.find? j).filter p := by
  cases h : t.find? j with
  | none =>
    rw [Option.filter_none, find?_eq_none_iff]
    rw [find?_eq_none_iff] at h
    exact fun hj => h ((List.filter_sublist.map key).subset hj)
  | some a =>
    obtain ⟨ha, hk⟩ := find?_eq_some_iff.1 h
    by_cases hp : p a = true
    · rw [Option.filter_some, if_pos hp, find?_eq_some_iff]
      exact ⟨List.mem_filter.2 ⟨ha, hp⟩, hk⟩
    · rw [Option.filter_some, if_neg hp, find?_eq_none_iff]
      simp only [filter, List.mem_map, List.mem_filter, not_exists, not_and, and_imp]
      intro b hb hpb hbj
      have := find?_eq_some_iff.2 ⟨hb, hbj⟩
      rw [h] at this
      exact hp (Option.some.inj this ▸ hpb)

/-- Nothing is found at a removed key, and at other keys what was found before. -/
theorem find?_remove {t : Keyed key} {k j : κ} :
    (t.remove k).find? j = if j = k then none else t.find? j := by
  rw [remove, find?_filter]
  cases h : t.find? j with
  | none => simp
  | some a =>
    obtain ⟨-, hk⟩ := find?_eq_some_iff.1 h
    subst hk
    by_cases e : key a = k <;> simp [e]

end Keyed

end Outbox

/-!
## Many items into a keyed table

What a table holds after a list of items was put into it one after another: of two items with one
key the later one (`find?_foldl_put`), and all of them in order when every key is new
(`items_foldl_put`). A table is what its keys find, in their order (`items_eq_filterMap`), and what
they find does not depend on that order (`find?_eq_of_perm`).
-/

namespace Outbox.Keyed

variable {α κ : Type} {key : α → κ} [DecidableEq κ]

/-- An item with a new key comes last. -/
theorem items_put {t : Keyed key} {a : α} (new : key a ∉ t.keys) :
    (t.put a).items = t.items ++ [a] := by
  have absent : t.contains (key a) = false := contains_eq_false_iff.2 new
  simp [put, absent]

/-- Items with new keys come last, in the order in which they were put. -/
theorem items_foldl_put {t : Keyed key} {as : List α} (nodup : (as.map key).Nodup)
    (new : ∀ a ∈ as, key a ∉ t.keys) : (as.foldl put t).items = t.items ++ as := by
  induction as generalizing t with
  | nil => simp
  | cons a as ih =>
    have here := items_put (new a List.mem_cons_self)
    obtain ⟨other, nodup⟩ := List.nodup_cons.1 nodup
    rw [List.foldl_cons, ih nodup, here, List.append_assoc, List.singleton_append]
    intro b mem
    rw [keys, here, List.map_append, List.mem_append]
    rintro (old | same)
    · exact new b (List.mem_cons_of_mem a mem) old
    · rw [List.map_singleton, List.mem_singleton] at same
      exact other (same ▸ List.mem_map_of_mem mem)

/-- A key finds the last item that was put with it, or else what it found before. -/
theorem find?_foldl_put (t : Keyed key) (as : List α) (k : κ) :
    (as.foldl put t).find? k = (as.reverse.find? (key · = k)).or (t.find? k) := by
  induction as generalizing t with
  | nil => rfl
  | cons a as ih =>
    rw [List.foldl_cons, ih, find?_put, List.reverse_cons, List.find?_append, Option.or_assoc]
    congr 1
    by_cases same : key a = k
    · simp [same]
    · simp [same, Ne.symm same]

/-- The items of a table are what its keys find. -/
theorem items_eq_filterMap (t : Keyed key) : t.items = t.keys.filterMap t.find? := by
  have all : ∀ as : List α, (∀ a ∈ as, t.find? (key a) = some a) →
      as = (as.map key).filterMap t.find? := by
    intro as found
    induction as with
    | nil => rfl
    | cons a as ih =>
      obtain ⟨here, others⟩ := List.forall_mem_cons.1 found
      rw [List.map_cons, List.filterMap_cons_some here, ← ih others]
  exact all t.items fun _ mem => find?_key mem

/-- What a key finds does not depend on the order of the items. -/
theorem find?_eq_of_perm {t u : Keyed key} (perm : t.items.Perm u.items) (k : κ) :
    t.find? k = u.find? k := by
  refine Option.ext fun a => ?_
  rw [find?_eq_some_iff, find?_eq_some_iff, perm.mem_iff]

/-- Two tables with the same keys that find the same are the same. -/
theorem ext_find? {t u : Keyed key} (keys : t.keys = u.keys) (same : ∀ k, t.find? k = u.find? k) :
    t = u := by
  refine ext ?_
  rw [items_eq_filterMap, items_eq_filterMap, keys, funext same]

end Outbox.Keyed
