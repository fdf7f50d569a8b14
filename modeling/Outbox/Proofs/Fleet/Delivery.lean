import Outbox.Proofs.Fleet
import Outbox.Proofs.Publisher
import Outbox.Proofs.Window

/-!
# Delivery by a fleet

Wherever a worker of a fleet or a window holds that a record was published, the broker took its
message from the same publisher. This is `Fleet.Sound`; it holds of a fleet without publishers, and
`Sound.step` carries it along. The main statement `run_delivers` says what follows for whole runs:
no record is lost or changes its message, no retry is lost, and what becomes processed was
delivered.
-/

namespace Outbox.Fleet
open Publisher (Worker Stage route)

/-- The broker took the message of a record from a publisher, as the registry of that publisher has
it. -/
def Taken (g : Ground) (j : Nat) (registry : Registry) (r : Record) : Prop :=
  ∃ m s, registry.resolve r.typeTag = some s ∧ s.decode r.payload = .ok m ∧ (j, m, s) ∈ g.taken

/-- What was taken stays taken, whatever else happens to the record. -/
lemma Taken.mono {g g' : Ground} {new j registry r r'} (tk : Taken g j registry r)
    (d : g.Descends new g') (same : Notice.ofRecord r' = Notice.ofRecord r) :
    Taken g' j registry r' := by
  obtain ⟨m, s, found, decoded, mem⟩ := tk
  obtain ⟨-, tag, payload, -⟩ := Notice.ofRecord_eq_iff.1 same
  exact ⟨m, s, tag ▸ found, payload ▸ decoded, d.taken mem⟩

/-- The store has the record of which a copy was taken. -/
def Holds (g : Ground) (copy : Record) : Prop :=
  ∃ r, g.store.get? copy.id = some r ∧ Notice.ofRecord r = Notice.ofRecord copy

/-- A record that the store has stays there. -/
lemma Holds.mono {g g' : Ground} {new copy} (hd : Holds g copy) (d : g.Descends new g') :
    Holds g' copy := by
  obtain ⟨r, found, same⟩ := hd
  obtain ⟨r', found', dr⟩ := d.store found
  exact ⟨r', found', dr.notice.trans same⟩

/-- What a worker of a publisher relies on at a stage. -/
inductive Justified (g : Ground) (j : Nat) (registry : Registry) (r : Record) : Stage → Prop where
  | looking :
    Justified g j registry r .looking
  | publishing {m s} :
    registry.resolve r.typeTag = some s →
    s.decode r.payload = .ok m →
    Justified g j registry r (.publishing m s)
  | remembering :
    Taken g j registry r →
    Justified g j registry r .remembering
  | processed {published} :
    Taken g j registry r →
    Justified g j registry r (.writing .processed published)
  | failed {reason published} :
    Justified g j registry r (.writing (.failed reason) published)
  | retry {reason published} :
    Justified g j registry r (.writing (.retry reason) published)
  | finished {result} :
    Justified g j registry r (.finished result)

/-- What a worker relies on stays true. -/
lemma Justified.mono {g g' : Ground} {new j registry r stage} (js : Justified g j registry r stage)
    (d : g.Descends new g') : Justified g' j registry r stage := by
  cases js with
  | looking => exact .looking
  | publishing found decoded => exact .publishing found decoded
  | remembering tk => exact .remembering (tk.mono d rfl)
  | processed tk => exact .processed (tk.mono d rfl)
  | failed => exact .failed
  | retry => exact .retry
  | finished => exact .finished

/-- The next stage of a record that was not published lately relies on its message alone. -/
lemma justified_route {g : Ground} {j} {registry : Registry} {r} :
    Justified g j registry r (route registry.resolve r) := by
  obtain ⟨reason, e⟩ | ⟨m, s, found, decoded, e⟩ := Publisher.route_inv registry.resolve r
  · rw [e]
    exact .failed
  · rw [e]
    exact .publishing found decoded

/-- The broker took the message of every record that a window of a publisher remembers. -/
def Vouches (g : Ground) (j : Nat) (registry : Registry) (window : Option Window) : Prop :=
  ∀ ⦃win⦄, window = some win → ∀ ⦃id e⦄, win.seen.find? id = some e →
    ∃ r, g.store.get? id = some r ∧ Taken g j registry r

/-- What a window vouches for stays true. -/
lemma Vouches.mono {g g' : Ground} {new j registry window} (vs : Vouches g j registry window)
    (d : g.Descends new g') : Vouches g' j registry window := by
  intro win here id e found
  obtain ⟨r, stored, tk⟩ := vs here found
  obtain ⟨r', stored', dr⟩ := d.store stored
  exact ⟨r', stored', tk.mono d dr.notice⟩

/-- A window that has only entries of another one vouches for no more. -/
lemma Vouches.of_le {g : Ground} {j registry win win'} (vs : Vouches g j registry (some win))
    (le : ∀ id e, win'.seen.find? id = some e → win.seen.find? id = some e) :
    Vouches g j registry (some win') := by
  intro _ here id e found
  cases here
  exact vs rfl (le id e found)

/-- A step of a worker leaves the worker and the window of its publisher justified. -/
lemma Justified.step {g g' : Ground} {j registry c delay r stage stage' win win'}
    (js : Justified g j registry r stage) (hd : Holds g r) (vs : Vouches g j registry win)
    (st : Worker.Step (surroundings j registry c) delay r stage win g stage' win' g') :
    Justified g' j registry r stage' ∧ Vouches g' j registry win' := by
  obtain ⟨new, d⟩ := descends_of_step st
  cases st with
  | skipped => exact ⟨justified_route, vs⟩
  | known clock look =>
    cases clock
    obtain ⟨rfl, e, found, -⟩ := Window.lookUp_true look
    -- The window vouches for the record in the store, and the worker has a copy of that one.
    obtain ⟨r', stored, tk⟩ := vs rfl found
    obtain ⟨r'', stored', same⟩ := hd
    cases stored.symm.trans stored'
    exact ⟨.processed (tk.mono (.refl g) same.symm), vs⟩
  | unknown clock look =>
    cases clock
    obtain ⟨-, -, gone⟩ := Window.lookUp_false look
    refine ⟨justified_route, ?_⟩
    apply vs.of_le
    intro id e found
    rw [gone] at found
    split at found
    · cases found
    · exact found
  | taken answer =>
    obtain ⟨-, rfl⟩ | ⟨refused, -⟩ := publish_inv answer
    · cases js with | publishing found decoded =>
      exact ⟨.remembering ⟨_, _, found, decoded, by simp⟩, vs.mono d⟩
    · exact absurd rfl refused
  | refused _ => exact ⟨.retry, vs.mono d⟩
  | crashed _ => exact ⟨.finished, vs.mono d⟩
  | forgotten =>
    cases js with | remembering tk =>
    exact ⟨.processed tk, vs⟩
  | remembered clock =>
    cases clock
    cases js with | remembering tk =>
    refine ⟨.processed tk, ?_⟩
    intro _ here id e found
    cases here
    rw [Window.find?_remember] at found
    split at found
    · next same =>
      obtain ⟨r', stored, notice⟩ := hd
      exact ⟨r', same ▸ stored, tk.mono (.refl g) notice⟩
    · exact vs rfl found
  | written _ => exact ⟨.finished, vs.mono d⟩
  | rested => exact ⟨js, vs⟩

/-- What a publisher of a fleet relies on. -/
structure Member.Sound (g : Ground) (j : Nat) (m : Member) : Prop where
  workers : ∀ k ∈ m.workers, Holds g k.record ∧ Justified g j m.registry k.record k.stage
  window : Vouches g j m.registry m.publisher.window

/-- What a publisher relies on stays true while others do something. -/
lemma Member.Sound.mono {g g' : Ground} {new j m} (snd : Sound g j m) (d : g.Descends new g') :
    Sound g' j m where
  workers k mem := ⟨(snd.workers k mem).1.mono d, (snd.workers k mem).2.mono d⟩
  window := snd.window.mono d

/-- A publisher that was just built relies on nothing. -/
lemma Member.sound_of_build {g : Ground} {j settings registry m}
    (built : Member.build settings registry = some m) : m.Sound g j := by
  obtain ⟨q, ok, rfl⟩ := Option.map_eq_some_iff.1 built
  constructor
  · intro k mem
    exact absurd mem List.not_mem_nil
  · intro win here id e found
    have none := Publisher.find?_window_build (Answer.ok?_eq_some_iff.1 ok) here id
    exact absurd (none.symm.trans found) nofun

/-- From one ground to another only records become processed whose message the broker took before
from a publisher. -/
def Delivers (j : Nat) (registry : Registry) (g g' : Ground) : Prop :=
  ∀ ⦃id r r'⦄, g.store.get? id = some r → r.processed = false →
    g'.store.get? id = some r' → r'.processed = true → Taken g j registry r

/-- No record becomes processed in a store that does not change. -/
lemma Delivers.of_eq {g g' : Ground} {j registry} (same : g'.store = g.store) :
    Delivers j registry g g' := by
  intro id r r' found un found' done
  rw [same, found] at found'
  cases found'
  exact absurd (un.symm.trans done) nofun

/-- A worker makes no record processed but its own, and only when it holds that it was published. -/
lemma Justified.delivers {g g' : Ground} {j registry c delay r stage stage' win win'}
    (js : Justified g j registry r stage) (hd : Holds g r)
    (st : Worker.Step (surroundings j registry c) delay r stage win g stage' win' g') :
    Delivers j registry g g' := by
  cases st with
  | skipped | forgotten | rested => exact .of_eq rfl
  | known clock _ | unknown clock _ | remembered clock =>
    cases clock
    exact .of_eq rfl
  | taken answer | refused answer | crashed answer =>
    obtain ⟨-, rfl⟩ | ⟨-, rfl⟩ := publish_inv answer <;> exact .of_eq rfl
  | written wr =>
    intro id a a' found un found' done
    obtain ⟨rfl, rfl⟩ := (write_inv wr).processed_inv found un found' done
    cases js with | processed tk =>
    obtain ⟨r', stored, same⟩ := hd
    cases found.symm.trans stored
    exact tk.mono (.refl g) same

/-- What every deed of a sound publisher comes to: no record is lost, the publisher stays sound, and
what became processed was delivered. -/
structure Kept (j : Nat) (m : Member) (g : Ground) (next : Member × Ground) : Prop where
  descends : ∃ new, g.Descends new next.2
  sound : next.1.Sound next.2 j
  delivers : Delivers j m.registry g next.2

/-- A publisher that changes nothing on its ground has only to stay sound. -/
lemma Kept.of_sound {g : Ground} {j m m'} (snd : Member.Sound g j m') : Kept j m g (m', g) :=
  ⟨⟨[], .refl g⟩, snd, .of_eq rfl⟩

/-- A purge only takes entries out of the window. -/
lemma Member.Sound.purge {g : Ground} {j m} (snd : Sound g j m) (c : Chance) :
    Kept j m g (m.purge j c g) := by
  unfold Member.purge
  generalize st : m.publisher.purge (surroundings j m.registry c) g = next
  obtain ⟨q, g'⟩ := next
  obtain ⟨-, rfl, rfl⟩ | ⟨win, now, here, clock, rfl⟩ := Publisher.purge_inv st
  · exact .of_sound snd
  · cases clock
    have vs := snd.window
    rw [here] at vs
    apply Kept.of_sound
    refine ⟨snd.workers, ?_⟩
    apply vs.of_le
    intro id e found
    rw [Window.find?_purge, Option.filter_eq_some_iff] at found
    exact found.1

/-- A fetch starts workers on records of the store. -/
lemma Member.Sound.fetch {g : Ground} {j m} (snd : Sound g j m) (c : Chance) :
    Kept j m g (m.fetch j c g) := by
  unfold Member.fetch Publisher.fetch surroundings
  cases c.fault with
  | some e => exact .of_sound snd
  | none =>
    apply Kept.of_sound
    refine ⟨?_, snd.window⟩
    intro k mem
    rcases List.mem_append.1 mem with old | started
    · exact snd.workers k old
    · obtain ⟨r, fetched, rfl⟩ := List.mem_map.1 started
      exact ⟨⟨r, Store.get?_of_mem_fetch fetched, rfl⟩, .looking⟩

/-- A step of a worker takes nothing from what the other workers rely on. -/
lemma Member.Sound.advance {g : Ground} {j m} (snd : Sound g j m) (i : Nat) (c : Chance) :
    Kept j m g (m.advance j i c g) := by
  unfold Member.advance
  split
  · exact .of_sound snd
  · next k here =>
    obtain ⟨hd, js⟩ := snd.workers k (List.mem_of_getElem? here)
    generalize st : k.step (surroundings j m.registry c) m.publisher.retryDelay
      m.publisher.window g = next
    obtain ⟨k', win', g'⟩ := next
    obtain ⟨same, st⟩ := Worker.step_inv st
    obtain ⟨new, d⟩ := descends_of_step st
    obtain ⟨js', vs'⟩ := js.step hd snd.window st
    refine ⟨⟨new, d⟩, ⟨?_, vs'⟩, js.delivers hd st⟩
    intro k'' mem
    rcases List.mem_or_eq_of_mem_set mem with old | rfl
    · exact (snd.mono d).workers k'' old
    · exact same ▸ ⟨hd.mono d, js'⟩

/-- A worker that crashed relies on nothing. -/
lemma Member.Sound.lose {g : Ground} {j m} (snd : Sound g j m) (i : Nat) :
    Kept j m g (m.lose i g) := by
  apply Kept.of_sound
  refine ⟨?_, snd.window⟩
  intro k mem
  exact snd.workers k (List.mem_of_mem_eraseIdx mem)

/-- Every publisher of the fleet is sound. -/
def Sound (f : Fleet) : Prop :=
  ∀ ⦃j⦄ ⦃m : Member⦄, f.members[j]? = some m → m.Sound f.ground j

/-- A fleet with a sound member in the place of another one is sound. -/
lemma Sound.set {f : Fleet} {g : Ground} {new j} {m : Member} (snd : f.Sound)
    (d : f.ground.Descends new g) (mem : m.Sound g j) :
    Sound { ground := g, members := f.members.set j m } := by
  intro j' m' found
  rw [List.getElem?_set] at found
  split at found
  · next same =>
    split at found <;> cases found
    exact same ▸ mem
  · exact (snd found).mono d

/-- What every event comes to for a fleet: no record is lost, every publisher stays sound, and what
became processed in a step of a publisher was delivered by it. -/
structure Continues (f : Fleet) (actor : Option Nat) (f' : Fleet) : Prop where
  descends : ∃ new, f.ground.Descends new f'.ground
  sound : f'.Sound
  delivers : ∀ ⦃id r r'⦄, f.ground.store.get? id = some r → r.processed = false →
    f'.ground.store.get? id = some r' → r'.processed = true →
      ∃ j m, actor = some j ∧ f.members[j]? = some m ∧ Taken f.ground j m.registry r

/-- A fleet on the same ground has only to be sound. -/
lemma Continues.of_sound {f : Fleet} {actor ms}
    (snd : Sound { ground := f.ground, members := ms }) :
    Continues f actor { ground := f.ground, members := ms } where
  descends := ⟨[], .refl _⟩
  sound := snd
  delivers id r r' found un found' done := by
    cases found.symm.trans found'
    exact absurd (un.symm.trans done) nofun

/-- A deed of a publisher comes to for the fleet what it comes to for the publisher. -/
lemma Sound.act {f : Fleet} {j deed} (snd : f.Sound)
    (kp : ∀ m : Member, m.Sound f.ground j → Kept j m f.ground (deed m f.ground)) :
    Continues f (some j) (f.act j deed) := by
  unfold Fleet.act
  split
  · exact .of_sound snd
  · next m found =>
    obtain ⟨⟨new, d⟩, mem, dl⟩ := kp m (snd found)
    refine ⟨⟨new, d⟩, snd.set d mem, ?_⟩
    intro id r r' found' un found'' done
    exact ⟨j, m, rfl, found, dl found' un found'' done⟩

/-- Every event continues a sound fleet. -/
lemma Sound.step {f : Fleet} (snd : f.Sound) (e : Event) : Continues f e.actor (f.step e) := by
  cases e with
  | join settings registry =>
    apply Continues.of_sound
    intro j m found
    rw [List.getElem?_append] at found
    split at found
    · exact snd found
    · exact Member.sound_of_build (Option.mem_toList.1 (List.mem_of_getElem? found))
  | rebuild j settings registry =>
    simp only [Fleet.step]
    split
    · exact .of_sound snd
    · next m built =>
      have fresh := Member.sound_of_build (j := j) (g := f.ground) built
      exact .of_sound (snd.set (.refl _) fresh)
  | purge j c => exact snd.act fun _ mem => mem.purge c
  | fetch j c => exact snd.act fun _ mem => mem.fetch c
  | advance j i c => exact snd.act fun _ mem => mem.advance i c
  | lose j i => exact snd.act fun _ mem => mem.lose i
  | commit t =>
    simp only [Fleet.step]
    split
    · next s done =>
      have d : f.ground.Descends [] { f.ground with store := s } :=
        .of_store (Store.Transaction.descends_commit done)
      refine ⟨⟨[], d⟩, fun j m found => (snd found).mono d, ?_⟩
      -- What the store had before is there unchanged, so nothing of it became processed.
      intro id r r' found un found' fin
      have same := Store.Transaction.get?_commit done found
      cases same.symm.trans found'
      exact absurd (un.symm.trans fin) nofun
    · exact .of_sound snd

/-- No run loses a record, and every publisher stays sound. -/
lemma Sound.run {f : Fleet} (snd : f.Sound) (es : List Event) :
    ∃ new, f.ground.Descends new (f.run es).ground ∧ (f.run es).Sound := by
  induction es generalizing f with
  | nil => exact ⟨[], .refl _, snd⟩
  | cons e es ih =>
    obtain ⟨⟨new, d⟩, snd, -⟩ := snd.step e
    obtain ⟨new', d', snd⟩ := ih snd
    exact ⟨new ++ new', d.trans d', snd⟩

/-- A fleet without publishers is sound. -/
lemma sound_on (s : Store) : (on s).Sound := by
  intro j m found
  cases found

/-- Whatever happens to a fleet, and however its publishers interleave: a record that the store once
had stays there with its message, and as long as it is not processed its retries are those that it
had and those that were counted since. If a step makes it processed, this is a step of a publisher
from which the broker had taken its message before, as the registry of that publisher has it. -/
theorem run_delivers (s : Store) (before after : List Event) :
    let f := (on s).run before
    (∃ new, (f.run after).ground.counted = f.ground.counted ++ new ∧
      ∀ id r, f.ground.store.get? id = some r →
        ∃ r', (f.run after).ground.store.get? id = some r' ∧
          r'.id = r.id ∧ r'.typeTag = r.typeTag ∧ r'.payload = r.payload ∧
          r'.occurredAt = r.occurredAt ∧
          (r'.processed = false →
            r'.retryCount.toNat = min 4294967295 (r.retryCount.toNat + new.count id))) ∧
    ∀ e id r r', f.ground.store.get? id = some r → r.processed = false →
      (f.step e).ground.store.get? id = some r' → r'.processed = true →
        ∃ j member m shape, e.actor = some j ∧ f.members[j]? = some member ∧
          member.registry.resolve r.typeTag = some shape ∧ shape.decode r.payload = .ok m ∧
          (j, m, shape) ∈ f.ground.taken := by
  intro f
  obtain ⟨-, -, snd⟩ := (sound_on s).run before
  constructor
  · obtain ⟨new, d, -⟩ := snd.run after
    refine ⟨new, d.counted, ?_⟩
    intro id r found
    obtain ⟨r', found', dr⟩ := d.store found
    obtain ⟨sameId, tag, payload, occurred⟩ := Notice.ofRecord_eq_iff.1 dr.notice
    exact ⟨r', found', sameId, tag, payload, occurred, dr.retries⟩
  · intro e id r r' found un found' done
    obtain ⟨j, member, actor, here, m, shape, known, decoded, mem⟩ :=
      (snd.step e).delivers found un found' done
    exact ⟨j, member, m, shape, actor, here, known, decoded, mem⟩

end Outbox.Fleet
