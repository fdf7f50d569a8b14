import Outbox.Proofs.Drill
import Outbox.Proofs.Window

/-!
# What becomes of one record

A worker reads and writes only what belongs to its record: the record's entry in the publisher's
window and its row in the store. `Lot` lists all that can become of a record, by its entry, its row,
its tag, its payload and what the broker answers. Every step of the record's worker goes on with its
lot (`Lot.step`) and leaves everything else alone (`Worker.Step.spares`). If nothing is left to
chance, there is only one way for it to end (`Lot.unique`).
-/

namespace Outbox

namespace Publisher

/-- What a store comes to that writes a fate to a row: the row after that, or why there is none. -/
def Fate.rewrite (delay : Time.Span) (now : Time.Instant) (id : Identifier) (row : Option Record) :
    Fate → Answer Store.Error Record
  | .processed => changed (·.markProcessed now)
  | .failed reason => changed (·.markFailed reason now)
  | .retry reason =>
    match now.add? delay with
    | none => .crash
    | some next => changed (·.countRetry reason next)
where
  changed (f : Record → Record) : Answer Store.Error Record :=
    match row with
    | none => .error (.notFound id)
    | some r => .ok (f r)

end Publisher

namespace Store
open Publisher (Fate)

/-- The store after a fate was written. -/
def settle (s : Store) (delay : Time.Span) (now : Time.Instant) (id : Identifier) :
    Fate → Answer Error Store
  | .processed => .ofExcept (s.markProcessed now id)
  | .failed reason => .ofExcept (s.markFailed now id reason)
  | .retry reason => s.countRetry now id reason delay

/-- All of a store that no worker changes. -/
def frame (s : Store) : List Identifier × Keyed Entity.key × List String :=
  (s.records.keys, s.entities, s.refused)

/-- A store differs from another one at most in the row with an identifier. -/
structure Rewritten (s : Store) (id : Identifier) (row : Option Record) (s' : Store) : Prop where
  here : s'.get? id = row
  others : ∀ j, j ≠ id → s'.get? j = s.get? j
  frame : s'.frame = s.frame

/-- A store is itself with the row rewritten that it has. -/
lemma Rewritten.refl (s : Store) (id : Identifier) : s.Rewritten id (s.get? id) s :=
  ⟨rfl, fun _ _ => rfl, rfl⟩

/-- An update rewrites the row with its identifier, if there is one. -/
lemma update_inv (s : Store) (id : Identifier) (f : Record → Record) (hf : ∀ r, (f r).id = r.id) :
    (∃ r s', s.get? id = some r ∧ s.update id f hf = .ok s' ∧ s.Rewritten id (some (f r)) s') ∨
      s.get? id = none ∧ s.update id f hf = .error (.notFound id) := by
  cases found : s.get? id with
  | none =>
    have absent : s.records.contains id = false := by
      rw [Keyed.contains, show s.records.find? id = none from found]
      rfl
    exact .inr ⟨rfl, by simp [update, absent]⟩
  | some r =>
    have there : s.records.contains id = true := by
      rw [Keyed.contains, show s.records.find? id = some r from found]
      rfl
    have upd : s.update id f hf = .ok { s with records := s.records.adjust id f hf } :=
      if_pos there
    refine .inl ⟨r, _, rfl, upd, ?_, fun j other => ?_, ?_⟩
    · rw [get?_update upd, if_pos rfl, found]
      rfl
    · rw [get?_update upd, if_neg other]
    · have keys : (s.records.adjust id f hf).keys = s.records.keys :=
        Keyed.map_key_map fun r => by split <;> simp [hf]
      simp only [frame, keys]

/-- A fate is written to the row with its identifier, if there is one. -/
lemma settle_inv (s : Store) (delay : Time.Span) (now : Time.Instant) (id : Identifier)
    (fate : Fate) :
    (∃ r s', fate.rewrite delay now id (s.get? id) = .ok r ∧ s.settle delay now id fate = .ok s' ∧
        s.Rewritten id (some r) s') ∨
      (∃ e, fate.rewrite delay now id (s.get? id) = .error e ∧
        s.settle delay now id fate = .error e) ∨
      fate.rewrite delay now id (s.get? id) = .crash ∧ s.settle delay now id fate = .crash := by
  have updated (f : Record → Record) (hf : ∀ r, (f r).id = r.id) :
      (∃ r s', Fate.rewrite.changed id (s.get? id) f = .ok r ∧
          .ofExcept (s.update id f hf) = Answer.ok s' ∧ s.Rewritten id (some r) s') ∨
        ∃ e, Fate.rewrite.changed id (s.get? id) f = .error e ∧
          .ofExcept (s.update id f hf) = (Answer.error e : Answer Error Store) := by
    obtain ⟨r, s', found, upd, rw'⟩ | ⟨none, upd⟩ := s.update_inv id f hf
    · exact .inl ⟨_, s', by rw [found, Fate.rewrite.changed], by rw [upd, Answer.ofExcept], rw'⟩
    · exact .inr ⟨_, by rw [none, Fate.rewrite.changed], by rw [upd, Answer.ofExcept]⟩
  cases fate with
  | processed => exact (updated (·.markProcessed now) _).imp_right .inl
  | failed reason => exact (updated (·.markFailed reason now) _).imp_right .inl
  | retry reason =>
    simp only [Fate.rewrite, settle, countRetry]
    cases later : now.add? delay with
    | none => exact .inr (.inr ⟨rfl, rfl⟩)
    | some next => exact (updated (·.countRetry reason next) _).imp_right .inl

end Store

namespace Drill
open Publisher (Fate Outcome Stage Worker)

variable {resolve : String → Option Shape} {delay : Time.Span} {win win' : Option Window}
  {d d' : Drill}

/-- The entry of a record in a window, if there is one. -/
def seen? (win : Option Window) (id : Identifier) : Option (Identifier × Time.Instant) :=
  win.bind (·.seen.find? id)

/-- Nothing changed but what belongs to one record, and what counts the calls. -/
structure Spares (id : Identifier) (win : Option Window) (d : Drill) (win' : Option Window)
    (d' : Drill) : Prop where
  script : d'.script = d.script
  now : d'.now = d.now
  store : d'.store.frame = d.store.frame
  length : win'.map Window.length = win.map Window.length
  rows : ∀ j, j ≠ id → d'.store.get? j = d.store.get? j
  entries : ∀ j, j ≠ id → seen? win' j = seen? win j

/-- A fate is written in one call to the store. -/
lemma write_eq (resolve : String → Option Shape) (delay : Time.Span) (id : Identifier) (fate : Fate)
    (d : Drill) :
    (surroundings resolve).write delay id fate d =
      d.call (d.store.settle delay d.now id fate) := by
  cases fate <;> rfl

/-- A fate is written to the row with its identifier, unless that is made to fail. -/
lemma write_inv {fate : Fate} {id answer}
    (wr : (surroundings resolve).write delay id fate d = (answer, d')) :
    ∃ store, d' = { d with calls := d.calls + 1, store } ∧
      ((∃ e, d.script.fault d.calls = some e ∧ answer = .error e ∧ store = d.store) ∨
        d.script.fault d.calls = none ∧
          answer = (fate.rewrite delay d.now id (d.store.get? id)).map (fun _ => ()) ∧
          d.store.Rewritten id
            ((fate.rewrite delay d.now id (d.store.get? id)).ok?.or (d.store.get? id)) store) := by
  have called : d.call (d.store.settle delay d.now id fate) = (answer, d') :=
    (write_eq resolve ..).symm.trans wr
  unfold call at called
  cases fault : d.script.fault d.calls with
  | some e =>
    simp only [fault] at called
    cases called
    exact ⟨_, rfl, .inl ⟨e, rfl, rfl, rfl⟩⟩
  | none =>
    simp only [fault] at called
    obtain ⟨r, s', rw', written, rewritten⟩ | ⟨e, rw', written⟩ | ⟨rw', written⟩ :=
      d.store.settle_inv delay d.now id fate <;>
      rw [written] at called <;> cases called <;> rw [rw']
    · exact ⟨_, rfl, .inr ⟨rfl, rfl, rewritten⟩⟩
    · exact ⟨_, rfl, .inr ⟨rfl, rfl, .refl ..⟩⟩
    · exact ⟨_, rfl, .inr ⟨rfl, rfl, .refl ..⟩⟩

/-- A worker changes nothing but what belongs to its record. -/
lemma spares_of_step {r : Record} {stage stage' : Stage}
    (st : Worker.Step (surroundings resolve) delay r stage win d stage' win' d') :
    Spares r.id win d win' d' := by
  cases st with
  | skipped | forgotten | rested => exact ⟨rfl, rfl, rfl, rfl, fun _ _ => rfl, fun _ _ => rfl⟩
  | known clock look =>
    cases clock
    obtain ⟨rfl, -⟩ := Window.lookUp_true look
    exact ⟨rfl, rfl, rfl, rfl, fun _ _ => rfl, fun _ _ => rfl⟩
  | unknown clock look =>
    cases clock
    obtain ⟨length, -, found⟩ := Window.lookUp_false look
    refine ⟨rfl, rfl, rfl, congrArg some length, fun _ _ => rfl, fun j other => ?_⟩
    exact (found j).trans (if_neg other)
  | remembered clock =>
    cases clock
    refine ⟨rfl, rfl, rfl, rfl, fun _ _ => rfl, fun j other => ?_⟩
    exact (Window.find?_remember ..).trans (if_neg other)
  | taken pub | refused pub | crashed pub =>
    cases (Prod.mk.inj pub).2
    exact ⟨rfl, rfl, rfl, rfl, fun _ _ => rfl, fun _ _ => rfl⟩
  | written wr =>
    obtain ⟨store, rfl, ⟨_, -, -, rfl⟩ | ⟨-, -, rw'⟩⟩ := write_inv wr
    · exact ⟨rfl, rfl, rfl, rfl, fun _ _ => rfl, fun _ _ => rfl⟩
    · exact ⟨rfl, rfl, rw'.frame, rfl, rw'.others, fun _ _ => rfl⟩

/-- What may happen in a batch. -/
structure Chances where
  /-- What the publisher's clock may show. -/
  watch : Time.Instant → Prop
  /-- What the store's clock may show. -/
  now : Time.Instant → Prop
  /-- What the broker may answer. -/
  answer : Message → Shape → Answer Broker.Error Unit → Prop
  /-- Whether a call to the store may be made to fail, or not to fail. -/
  fault : Option Store.Error → Prop

namespace Chances

/-- What happens in a drill is among the chances. -/
structure Cover (x : Chances) (d : Drill) : Prop where
  watch : ∀ n, x.watch (d.script.watch n)
  now : x.now d.now
  answer : ∀ n m s, x.answer m s (d.script.answer n m s)
  fault : ∀ n, x.fault (d.script.fault n)

/-- A worker on one record leaves what may happen as it is. -/
lemma Cover.of_spares {x : Chances} {id : Identifier} (cover : x.Cover d)
    (sp : Spares id win d win' d') : x.Cover d' where
  watch := sp.script ▸ cover.watch
  now := sp.now ▸ cover.now
  answer := sp.script ▸ cover.answer
  fault := sp.script ▸ cover.fault

/-- Nothing is left to chance. -/
structure Sure (x : Chances) : Prop where
  watch : ∀ ⦃t t'⦄, x.watch t → x.watch t' → t = t'
  now : ∀ ⦃t t'⦄, x.now t → x.now t' → t = t'
  answer : ∀ ⦃m s a a'⦄, x.answer m s a → x.answer m s a' → a = a'
  fault : ∀ ⦃f f'⦄, x.fault f → x.fault f' → f = f'

end Chances

/-- Whether a publisher with a window of some length takes a record with an entry for published. -/
def knows (length : Option Time.Span) (entry : Option (Identifier × Time.Instant))
    (now : Time.Instant) : Bool :=
  match length, entry with
  | some length, some (_, at_) => now.elapsed at_ < length
  | _, _ => false

/-- What is to be written of a record after the broker answered, and whether the record was
published then. After a crash nothing is. -/
def heard : Answer Broker.Error Unit → Option (Fate × Bool)
  | .ok () => some (.processed, true)
  | .error e => some (.retry e.message, false)
  | .crash => none

/-- What is to be written of a record, by its entry in the window, its tag, its payload and what the
broker answers. What becomes of the entry, and what the broker is asked. -/
inductive Settles (x : Chances) (resolve : String → Option Shape) (length : Option Time.Span)
    (r : Record) (entry : Option (Identifier × Time.Instant)) :
    Option (Fate × Bool) → Option (Identifier × Time.Instant) → List Publish → Prop where
  | known {now} :
    x.watch now →
    knows length entry now = true →
    Settles x resolve length r entry (some (.processed, false)) entry []
  | doomed {now reason} :
    x.watch now →
    knows length entry now = false →
    Publisher.route resolve r = .writing (.failed reason) false →
    Settles x resolve length r entry (some (.failed reason, false)) none []
  | asked {now m s answer now'} :
    x.watch now →
    knows length entry now = false →
    Publisher.route resolve r = .publishing m s →
    x.answer m s answer →
    x.watch now' →
    Settles x resolve length r entry (heard answer)
      (answer.ok?.bind fun () => length.map fun _ => (r.id, now')) [(m, s, answer)]

/-- How far a worker has come with a record that had some entry in the window and some row in the
store: its stage, the entry and the row now, and what the broker was asked. -/
inductive Lot (x : Chances) (resolve : String → Option Shape) (delay : Time.Span)
    (length : Option Time.Span) (r : Record) (entry : Option (Identifier × Time.Instant))
    (row : Option Record) :
    Stage → Option (Identifier × Time.Instant) → Option Record → List Publish → Prop where
  | looking :
    Lot x resolve delay length r entry row .looking entry row []
  | publishing {now m s} :
    x.watch now →
    knows length entry now = false →
    Publisher.route resolve r = .publishing m s →
    Lot x resolve delay length r entry row (.publishing m s) none row []
  | remembering {now m s} :
    x.watch now →
    knows length entry now = false →
    Publisher.route resolve r = .publishing m s →
    x.answer m s (.ok ()) →
    Lot x resolve delay length r entry row .remembering none row [(m, s, .ok ())]
  | writing {fate published entry' sent} :
    Settles x resolve length r entry (some (fate, published)) entry' sent →
    Lot x resolve delay length r entry row (.writing fate published) entry' row sent
  /-- The broker crashed. -/
  | crashed {entry' sent} :
    Settles x resolve length r entry none entry' sent →
    Lot x resolve delay length r entry row (.finished .crash) entry' row sent
  /-- The store was made to fail. -/
  | failed {fate published entry' sent e} :
    Settles x resolve length r entry (some (fate, published)) entry' sent →
    x.fault (some e) →
    Lot x resolve delay length r entry row (.finished (.error e)) entry' row sent
  /-- The fate was written, if that was possible. -/
  | written {fate published entry' sent now} :
    Settles x resolve length r entry (some (fate, published)) entry' sent →
    x.fault none →
    x.now now →
    Lot x resolve delay length r entry row
      (.finished ((fate.rewrite delay now r.id row).map fun _ => fate.outcome published)) entry'
      ((fate.rewrite delay now r.id row).ok?.or row) sent

variable {x : Chances} {length : Option Time.Span} {r : Record}
  {entry entry' entry'' : Option (Identifier × Time.Instant)} {row row' row'' : Option Record}
  {stage stage' : Stage} {sent sent' : List Publish}

/-- What a worker at some stage asks the broker in its next step. -/
def asks (stage : Stage) (d : Drill) : List Publish :=
  match stage with
  | .publishing m s => [(m, s, d.script.answer d.asked.length m s)]
  | _ => []

/-- The broker is asked what the worker asks that takes a step. -/
lemma asked_of_step
    (st : Worker.Step (surroundings resolve) delay r stage win d stage' win' d') :
    d'.asked = d.asked ++ asks stage d := by
  cases st with
  | taken pub | refused pub | crashed pub =>
    cases (Prod.mk.inj pub).2
    rfl
  | known clock | unknown clock | remembered clock =>
    cases clock
    exact (List.append_nil _).symm
  | written wr =>
    obtain ⟨store, rfl, -⟩ := write_inv wr
    exact (List.append_nil _).symm
  | skipped | forgotten | rested => exact (List.append_nil _).symm

/-- The broker is asked once in a publish, and answers as it may. -/
lemma Chances.Cover.publish (cover : x.Cover d) {m s answer}
    (pub : (surroundings resolve).publish m s d = (answer, d')) :
    asks (.publishing m s) d = [(m, s, answer)] ∧ x.answer m s answer ∧
      d' = { d with asked := d.asked ++ [(m, s, answer)] } := by
  cases pub
  exact ⟨rfl, cover.answer d.asked.length m s, rfl⟩

namespace Lot

/-- A record that is not known goes where its tag and its payload lead. -/
lemma route {now} (watch : x.watch now) (unknown : knows length entry now = false) :
    Lot x resolve delay length r entry row (Publisher.route resolve r) none row [] := by
  obtain ⟨reason, routed⟩ | ⟨m, s, -, -, routed⟩ := Publisher.route_inv resolve r
  · rw [routed]
    exact .writing (.doomed watch unknown routed)
  · rw [routed]
    exact .publishing watch unknown routed

/-- A step of a worker goes on with the lot of its record. -/
lemma step (cover : x.Cover d) (entry_eq : seen? win r.id = entry')
    (row_eq : d.store.get? r.id = row')
    (lot : Lot x resolve delay (win.map Window.length) r entry row stage entry' row' sent)
    (st : Worker.Step (surroundings resolve) delay r stage win d stage' win' d') :
    Lot x resolve delay (win.map Window.length) r entry row stage' (seen? win' r.id)
      (d'.store.get? r.id) (sent ++ asks stage d) := by
  -- A step shows one more reading, answer or fault, each of which the chances allow.
  cases st with
  | skipped =>
    cases lot with | looking =>
    rw [row_eq]
    exact route (cover.watch d.readings) rfl
  | @known now win win' _ _ clock look =>
    cases lot with | looking =>
    cases clock
    obtain ⟨rfl, e, found, fresh⟩ := Window.lookUp_true look
    have found : entry = some e := entry_eq.symm.trans found
    rw [row_eq, entry_eq]
    refine .writing (.known (cover.watch d.readings) ?_)
    rw [found]
    exact fresh
  | @unknown now win win' _ _ clock look =>
    cases lot with | looking =>
    cases clock
    obtain ⟨-, stale, found⟩ := Window.lookUp_false look
    have gone : seen? (some win') r.id = none := (found r.id).trans (if_pos rfl)
    rw [row_eq, gone]
    refine route (cover.watch d.readings) ?_
    -- An entry that the look-up threw out did not count any more.
    cases found : entry with
    | none => rfl
    | some e => exact stale e (entry_eq.trans found)
  | taken pub =>
    cases lot with | publishing watch unknown routed =>
    obtain ⟨asked, answer, rfl⟩ := cover.publish pub
    rw [row_eq, entry_eq, asked]
    exact .remembering watch unknown routed answer
  | refused pub =>
    cases lot with | publishing watch unknown routed =>
    obtain ⟨asked, answer, rfl⟩ := cover.publish pub
    rw [row_eq, entry_eq, asked]
    exact .writing (.asked watch unknown routed answer watch)
  | crashed pub =>
    cases lot with | publishing watch unknown routed =>
    obtain ⟨asked, answer, rfl⟩ := cover.publish pub
    rw [row_eq, entry_eq, asked]
    exact .crashed (.asked watch unknown routed answer watch)
  | forgotten =>
    cases lot with | remembering watch unknown routed answered =>
    rw [row_eq]
    exact .writing (.asked watch unknown routed answered watch)
  | @remembered now win _ _ clock =>
    cases lot with | remembering watch unknown routed answered =>
    cases clock
    have here : seen? (some (win.remember (d.script.watch d.readings) r.id)) r.id =
        some (r.id, _) :=
      (Window.find?_remember ..).trans (if_pos rfl)
    rw [row_eq, here]
    exact .writing (.asked watch unknown routed answered (cover.watch d.readings))
  | @written fate published _ _ _ _ wr =>
    cases lot with | writing settles =>
    have silent : sent ++ asks (.writing fate published) d = sent := List.append_nil _
    obtain ⟨store, rfl, ⟨e, fault, rfl, rfl⟩ | ⟨fault, rfl, rw'⟩⟩ := write_inv wr
    · rw [row_eq, entry_eq, silent]
      exact .failed settles (fault ▸ cover.fault d.calls)
    · have here := rw'.here
      rw [row_eq] at here ⊢
      rw [here, entry_eq, silent, Answer.map_map]
      exact .written settles (fault ▸ cover.fault d.calls) cover.now
  | @rested result =>
    have silent : sent ++ asks (.finished result) d = sent := List.append_nil _
    rw [row_eq, entry_eq, silent]
    exact lot

end Lot

/-- If nothing is left to chance, there is one thing to be written of a record. -/
lemma Settles.unique {todo todo' : Option (Fate × Bool)} (sure : x.Sure)
    (st : Settles x resolve length r entry todo entry' sent)
    (st' : Settles x resolve length r entry todo' entry'' sent') :
    todo = todo' ∧ entry' = entry'' ∧ sent = sent' := by
  -- Both look the record up at the same time.
  have same {now now' b b'} (watch : x.watch now) (known : knows length entry now = b)
      (watch' : x.watch now') (known' : knows length entry now' = b') : b = b' := by
    cases sure.watch watch watch'
    exact known.symm.trans known'
  cases st with
  | known watch known =>
    cases st' with
    | known => exact ⟨rfl, rfl, rfl⟩
    | doomed watch' unknown | asked watch' unknown => cases same watch known watch' unknown
  | doomed watch unknown routed =>
    cases st' with
    | known watch' known => cases same watch unknown watch' known
    | doomed _ _ routed' =>
      cases routed.symm.trans routed'
      exact ⟨rfl, rfl, rfl⟩
    | asked _ _ routed' => cases routed.symm.trans routed'
  | asked watch unknown routed answer read =>
    cases st' with
    | known watch' known => cases same watch unknown watch' known
    | doomed _ _ routed' => cases routed.symm.trans routed'
    | asked _ _ routed' answer' read' =>
      cases routed.symm.trans routed'
      cases sure.answer answer answer'
      cases sure.watch read read'
      exact ⟨rfl, rfl, rfl⟩

/-- If nothing is left to chance, there is one way for a record to end. -/
lemma Lot.unique {result result' : Answer Store.Error Outcome} (sure : x.Sure)
    (lot : Lot x resolve delay length r entry row (.finished result) entry' row' sent)
    (lot' : Lot x resolve delay length r entry row (.finished result') entry'' row'' sent') :
    result = result' ∧ entry' = entry'' ∧ row' = row'' ∧ sent = sent' := by
  -- Only three ways lead to an end. Two that differ would have to write something different.
  generalize fin : Stage.finished result = stage at lot
  generalize fin' : Stage.finished result' = stage' at lot'
  cases lot with
  | looking | publishing | remembering | writing => cases fin
  | crashed settles =>
    cases fin
    cases lot' with
    | looking | publishing | remembering | writing => cases fin'
    | crashed settles' =>
      cases fin'
      obtain ⟨-, rfl, rfl⟩ := settles.unique sure settles'
      exact ⟨rfl, rfl, rfl, rfl⟩
    | failed settles' | written settles' => cases (settles.unique sure settles').1
  | failed settles fault =>
    cases fin
    cases lot' with
    | looking | publishing | remembering | writing => cases fin'
    | crashed settles' => cases (settles.unique sure settles').1
    | failed settles' fault' =>
      cases fin'
      obtain ⟨-, rfl, rfl⟩ := settles.unique sure settles'
      cases sure.fault fault fault'
      exact ⟨rfl, rfl, rfl, rfl⟩
    | written _ none => cases sure.fault fault none
  | written settles none now =>
    cases fin
    cases lot' with
    | looking | publishing | remembering | writing => cases fin'
    | crashed settles' => cases (settles.unique sure settles').1
    | failed _ fault => cases sure.fault none fault
    | written settles' _ now' =>
      cases fin'
      obtain ⟨same, rfl, rfl⟩ := settles.unique sure settles'
      cases same
      cases sure.now now now'
      exact ⟨rfl, rfl, rfl, rfl⟩

end Drill

end Outbox
