import Outbox.Proofs.Publisher
import Outbox.Proofs.Window
import Outbox.Proofs.Workshop.Order

/-!
# Relays

A workshop whose outbox one publisher relays to a broker that takes everything. The publisher works
on the store of the workshop, which never fails it and goes by the same clock; its own clock shows
whatever it likes. The program may go on raising and committing while the publisher is in the middle
of a tick.
-/

namespace Outbox
open Publisher (Batch Course Surroundings)

/-- A workshop with a broker, and with the clock of a publisher. -/
structure Relay (β : Type) where
  workshop : Workshop β
  /-- What the broker took, in order. -/
  accepted : List (Message × Shape) := []
  /-- What the publisher's clock shows, one reading after another. -/
  watch : Nat → Time.Instant
  /-- How often the publisher has read its clock. -/
  readings : Nat := 0

namespace Relay

variable {β ε : Type}

/-- The store of the workshop. -/
def store (l : Relay β) : Store :=
  l.workshop.ground.store

/-- The relay with another store. -/
def setStore (l : Relay β) (store : Store) : Relay β :=
  { l with workshop := { l.workshop with ground := { l.workshop.ground with store } } }

/-- A call to the store. -/
def call (l : Relay β) : Answer Store.Error Store → Answer Store.Error Unit × Relay β
  | .ok store => (.ok (), l.setStore store)
  | .error e => (.error e, l)
  | .crash => (.crash, l)

/-- What the publisher works with. -/
def surroundings (resolve : String → Option Shape) : Surroundings (Relay β) where
  clock l := (l.watch l.readings, { l with readings := l.readings + 1 })
  resolve
  fetch limit ceiling l := (.ok (l.store.fetch l.workshop.ground.now limit.toNat ceiling), l)
  markProcessed id l := l.call (.ofExcept (l.store.markProcessed l.workshop.ground.now id))
  markFailed id reason l := l.call (.ofExcept (l.store.markFailed l.workshop.ground.now id reason))
  countRetry id reason delay l := l.call (l.store.countRetry l.workshop.ground.now id reason delay)
  publish m s l := (.ok (), { l with accepted := l.accepted ++ [(m, s)] })

/-- What can happen on a relay. -/
inductive Event
  /-- Something happens in the workshop. -/
  | work (e : Workshop.Event)
  /-- The publisher begins a tick. -/
  | tick
  /-- A move in the batch of the tick. -/
  | move (m : Batch.Move)
  /-- The tick ends if its batch is done. -/
  | conclude

/-- What an event is in the course of the publisher. -/
def Event.toCourse (send : Notice → β → Except ε Unit × β) : Event → Course.Event (Relay β)
  | .work e => .elsewhere fun l => { l with workshop := l.workshop.step send e }
  | .tick => .tick
  | .move m => .move m
  | .conclude => .conclude

/-- The instant to which an event moves the clock of the workshop, if it does. -/
def Event.now? : Event → Option Time.Instant
  | .work (.meet now _) => some now
  | _ => none

/-- The course of the publisher after an event. -/
def step (send : Notice → β → Except ε Unit × β) (resolve : String → Option Shape)
    (c : Course (Relay β)) (e : Event) : Course (Relay β) :=
  c.step (surroundings resolve) (e.toCourse send)

/-- The course of the publisher after some events. -/
def run (send : Notice → β → Except ε Unit × β) (resolve : String → Option Shape)
    (c : Course (Relay β)) (es : List Event) : Course (Relay β) :=
  es.foldl (step send resolve) c

/-- What the broker gets for a message that was committed, if its shape is found and decodes it. -/
def relayed? (resolve : String → Option Shape) (n : Notice) : Option (Message × Shape) :=
  (resolve n.typeTag).bind fun s => (s.decode n.payload).toOption.map (·, s)

end Relay

end Outbox

/-!
## How far a relay has come

What was committed falls into what was relayed, in front, and what was not. `Flow` says so of the
store, the broker and the window of the publisher, of which the broker may be one message ahead.
What happens in the workshop only adds to the end (`Flow.work`), and every step of a worker on the
first record that was not relayed yet either leaves the parts as they are or moves that record over
(`Flow.step`).
-/

namespace Outbox.Relay
open Publisher (Stage Worker)
open Workshop (Adds Ordered)

variable {β ε : Type} {resolve : String → Option Shape} {s : Settings} {first : Nat}

/-- All of a workshop on a relay, but of its records only their messages. -/
def ledger (l : Relay β) : Workshop β × List Notice :=
  ((l.setStore .empty).workshop, l.store.records.items.map Notice.ofRecord)

/-- A call to the store leaves the ledger alone if it leaves the messages. -/
lemma ledger_call {l : Relay β} {called : Answer Store.Error Store}
    (kept : ∀ store, called = .ok store →
      store.records.items.map Notice.ofRecord = l.store.records.items.map Notice.ofRecord) :
    (l.call called).2.ledger = l.ledger := by
  cases called with
  | ok store => exact congrArg ((l.setStore .empty).workshop, ·) (kept store rfl)
  | error e => rfl
  | crash => rfl

/-- The publisher leaves the ledger alone. -/
lemma keeps_ledger (resolve : String → Option Shape) :
    (surroundings resolve).Keeps fun l l' : Relay β => l'.ledger = l.ledger where
  refl _ := rfl
  trans _ _ _ same same' := same'.trans same
  clock _ := rfl
  fetch _ _ _ := rfl
  markProcessed id l := ledger_call fun store marked =>
    Store.notices_update (Answer.ofExcept_eq_ok_iff.1 marked) fun r =>
      (Record.descends_markProcessed r _).notice
  markFailed id reason l := ledger_call fun store marked =>
    Store.notices_update (Answer.ofExcept_eq_ok_iff.1 marked) fun r =>
      (Record.descends_markFailed r reason _).notice
  countRetry id reason delay l := ledger_call fun store counted => by
    obtain ⟨next, -, updated⟩ := Store.countRetry_inv counted
    exact Store.notices_update updated fun r => (Record.descends_countRetry r reason next).notice
  publish _ _ _ := rfl

/-- Identifiers go up in the order in which they are made, and the publisher can decode whatever was
committed. -/
structure Fair (resolve : String → Option Shape) (first : Nat) (d : Workshop β) : Prop where
  ascending : (d.ground.mint.since first).Pairwise fun a b => a.number < b.number
  decodes : ∀ n ∈ d.committed, (relayed? resolve n).isSome = true

/-- What is fair in the end was fair before. -/
lemma Fair.of_adds {rs} {d d' : Workshop β} (fair : Fair resolve first d')
    (adds : Adds first rs d d') : Fair resolve first d where
  ascending := fair.ascending.sublist adds.since.sublist
  decodes n mem := by
    apply fair.decodes
    rw [adds.committed]
    exact List.mem_append_left _ mem

/-- What the ledger says of a relay: all of the workshop that the publisher leaves alone. -/
lemma ledger_inv {l l' : Relay β} (same : l'.ledger = l.ledger) :
    l'.workshop.unit = l.workshop.unit ∧
      l'.workshop.ground.mint = l.workshop.ground.mint ∧
      l'.workshop.ground.now = l.workshop.ground.now ∧
      l'.workshop.committed = l.workshop.committed ∧
      l'.store.records.items.map Notice.ofRecord = l.store.records.items.map Notice.ofRecord := by
  obtain ⟨workshop, notices⟩ := Prod.mk.inj same
  have committed : (l'.setStore .empty).workshop.committed =
      (l.setStore .empty).workshop.committed := congrArg Workshop.committed workshop
  exact ⟨congrArg (fun d => d.unit) workshop, congrArg (fun d => d.ground.mint) workshop,
    congrArg (fun d => d.ground.now) workshop, committed, notices⟩

/-- A workshop is as ordered as any other with the same ledger. -/
lemma ordered_of_ledger {l l' : Relay β} (same : l'.ledger = l.ledger)
    (od : l.workshop.Ordered first) : l'.workshop.Ordered first := by
  obtain ⟨unit, mint, now, committed, notices⟩ := ledger_inv same
  refine ⟨unit ▸ od.unstaged, mint ▸ od.begun, ?_, ?_, ?_, ?_⟩
  · rw [committed]
    exact notices.trans od.stored
  · rw [committed, mint]
    exact od.numbered
  · rw [committed]
    exact od.dated
  · rw [committed, now]
    exact od.past

/-- A workshop is as fair as any other with the same ledger. -/
lemma fair_of_ledger {l l' : Relay β} (same : l'.ledger = l.ledger)
    (fair : Fair resolve first l'.workshop) : Fair resolve first l.workshop := by
  obtain ⟨-, mint, -, committed, -⟩ := ledger_inv same
  exact ⟨mint ▸ fair.ascending, committed ▸ fair.decodes⟩

/-- The records of a workshop are in order of their dates and identifiers. -/
lemma precedes_of_ordered {d : Workshop β} (od : Ordered first d) (fair : Fair resolve first d) :
    d.ground.store.records.items.Pairwise Record.Precedes := by
  have numbers := List.pairwise_map.1 (fair.ascending.sublist od.numbered)
  have both := od.dated.and numbers
  rw [← od.stored, List.pairwise_map] at both
  exact both

/-- A publisher and a relay have come so far: some records are processed and nobody has touched the
rest, of which the broker may have taken the first one or two ahead. The publisher knows no record
that the broker did not take, and nothing has failed it so far. -/
structure Flow (resolve : String → Option Shape) (s : Settings) (first : Nat)
    (done rest : List Record) (ahead : Nat) (q : Publisher) (l : Relay β) : Prop where
  ordered : l.workshop.Ordered first
  items : l.store.records.items = done ++ rest
  processed : ∀ r ∈ done, r.processed = true
  untouched : ∀ r ∈ rest, r.Untouched
  ahead_le : ahead ≤ rest.length
  accepted : l.accepted.map some =
    (l.workshop.committed.take (done.length + ahead)).map (relayed? resolve)
  settings : q.settings = s
  closed : q.breaker.opened = false
  known : ∀ win, q.window = some win → ∀ id x, win.seen.find? id = some x →
    id ∈ (l.workshop.committed.take (done.length + ahead)).map Notice.recordId

namespace Flow

variable {done rest : List Record} {ahead : Nat} {q q' : Publisher} {l l' : Relay β}

/-- What was committed falls into what was relayed and what was not. -/
lemma committed (fl : Flow resolve s first done rest ahead q l) :
    l.workshop.committed = done.map Notice.ofRecord ++ rest.map Notice.ofRecord := by
  rw [← List.map_append, ← fl.items]
  exact fl.ordered.stored.symm

/-- The broker took as many messages as there are processed records, and those ahead. -/
lemma length_accepted (fl : Flow resolve s first done rest ahead q l) :
    l.accepted.length = done.length + ahead := by
  have le := fl.ahead_le
  have length := congrArg List.length fl.accepted
  rw [fl.committed] at length
  simp only [List.length_map, List.length_take, List.length_append] at length
  omega

/-- A publisher that is no worse off goes on wherever the same was committed and taken. -/
lemma of_same (fl : Flow resolve s first done rest ahead q l) (workshop : l'.workshop = l.workshop)
    (accepted : l'.accepted = l.accepted) (settings : q'.settings = q.settings)
    (breaker : q'.breaker.opened = q.breaker.opened)
    (window : ∀ win', q'.window = some win' → ∃ win, q.window = some win ∧
      ∀ id x, win'.seen.find? id = some x → ∃ x, win.seen.find? id = some x) :
    Flow resolve s first done rest ahead q' l' := by
  obtain ⟨_, _, _, _⟩ := l'
  cases workshop
  cases accepted
  refine ⟨fl.ordered, fl.items, fl.processed, fl.untouched, fl.ahead_le, fl.accepted,
    settings.trans fl.settings, breaker.trans fl.closed, ?_⟩
  intro win' here id x found
  obtain ⟨win, here', seen⟩ := window win' here
  obtain ⟨x', found'⟩ := seen id x found
  exact fl.known win here' id x' found'

/-- What happens in the workshop adds to what was not relayed. -/
lemma work {send : Notice → β → Except ε Unit × β} (fl : Flow resolve s first done rest ahead q l)
    (e : Workshop.Event)
    (clock : ∀ now verdicts, e = .meet now verdicts → l.workshop.ground.now ≤ now) :
    ∃ rs, Adds first rs l.workshop (l.workshop.step send e) ∧
      Flow resolve s first done (rest ++ rs) ahead q
        { l with workshop := l.workshop.step send e } := by
  obtain ⟨ordered, rs, adds⟩ : Ordered first (l.workshop.step send e) ∧
    ∃ rs, Adds first rs l.workshop (l.workshop.step send e) := fl.ordered.step e clock
  have le := fl.ahead_le
  have take : (l.workshop.step send e).committed.take (done.length + ahead) =
      l.workshop.committed.take (done.length + ahead) := by
    rw [adds.committed, fl.committed]
    apply List.take_append_of_le_length
    simp only [List.length_append, List.length_map]
    omega
  refine ⟨rs, adds, ordered, ?_, fl.processed, ?_, ?_, ?_, fl.settings, fl.closed, ?_⟩
  · refine adds.items.trans ?_
    rw [← List.append_assoc, ← fl.items]
    rfl
  · exact List.forall_mem_append.2 ⟨fl.untouched, adds.untouched⟩
  · rw [List.length_append]
    omega
  · exact take.symm ▸ fl.accepted
  · exact take.symm ▸ fl.known

/-- The first of the messages that were committed are those of the processed records. -/
lemma take_done (fl : Flow resolve s first done rest ahead q l) :
    l.workshop.committed.take done.length = done.map Notice.ofRecord := by
  rw [fl.committed]
  exact List.take_left' (List.length_map _)

variable {r : Record}

/-- The message after these is the one of the first record that is not processed yet. -/
lemma take_succ (fl : Flow resolve s first done (r :: rest) ahead q l) :
    l.workshop.committed.take (done.length + 1) =
      done.map Notice.ofRecord ++ [Notice.ofRecord r] := by
  rw [fl.committed, List.map_cons, List.append_cons]
  exact List.take_left' (by simp)

/-- The first record that is not processed yet is none of the processed ones. -/
lemma not_mem_done (fl : Flow resolve s first done (r :: rest) ahead q l) :
    r.id ∉ done.map Record.id := by
  have distinct := l.store.records.distinct
  rw [fl.items, List.map_append, List.map_cons] at distinct
  intro mem
  exact (List.nodup_append.1 distinct).2.2 _ mem _ List.mem_cons_self rfl

/-- The publisher does not know a record that the broker did not take. -/
lemma unknown (fl : Flow resolve s first done (r :: rest) 0 q l) {win}
    (here : q.window = some win) : win.seen.find? r.id = none := by
  cases found : win.seen.find? r.id with
  | none => rfl
  | some x =>
    have mem := fl.known win here r.id x found
    rw [Nat.add_zero, fl.take_done, List.map_map] at mem
    exact absurd mem fl.not_mem_done

/-- The broker gets the message of a record that was not relayed yet. -/
lemma route {r : Record} {rest} (fl : Flow resolve s first done (r :: rest) ahead q l)
    (fair : Fair resolve first l.workshop) :
    ∃ m sh, Publisher.route resolve r = .publishing m sh ∧
      relayed? resolve (.ofRecord r) = some (m, sh) := by
  have mem : Notice.ofRecord r ∈ l.workshop.committed := by
    rw [fl.committed]
    simp
  have decodes := fair.decodes _ mem
  unfold relayed? at decodes ⊢
  unfold Publisher.route
  simp only [Notice.ofRecord] at decodes ⊢
  cases found : resolve r.typeTag with
  | none => simp [found] at decodes
  | some sh =>
    cases decoded : sh.decode r.payload with
    | error e => simp [found, decoded, Except.toOption] at decodes
    | ok m => exact ⟨m, sh, by simp [decoded], by simp [decoded, Except.toOption]⟩

/-- The broker takes the message of the first record that was not relayed yet. -/
lemma take (fl : Flow resolve s first done (r :: rest) 0 q l) {m sh}
    (routed : relayed? resolve (.ofRecord r) = some (m, sh)) :
    Flow resolve s first done (r :: rest) 1 q { l with accepted := l.accepted ++ [(m, sh)] } := by
  refine ⟨fl.ordered, fl.items, fl.processed, fl.untouched, Nat.le_add_left .., ?_, fl.settings,
    fl.closed, ?_⟩
  · have accepted := fl.accepted
    rw [Nat.add_zero, fl.take_done] at accepted
    rw [fl.take_succ, List.map_append, List.map_append, accepted, List.map_singleton,
      List.map_singleton, routed]
  · intro win here id x found
    have mem := fl.known win here id x found
    rw [Nat.add_zero, fl.take_done] at mem
    rw [fl.take_succ, List.map_append]
    exact List.mem_append_left _ mem

/-- The publisher knows the record whose message the broker took. -/
lemma remember (fl : Flow resolve s first done (r :: rest) 1 q l) {win} (here : q.window = some win)
    (now : Time.Instant) :
    Flow resolve s first done (r :: rest) 1 { q with window := some (win.remember now r.id) }
      l := by
  refine ⟨fl.ordered, fl.items, fl.processed, fl.untouched, fl.ahead_le, fl.accepted, fl.settings,
    fl.closed, ?_⟩
  rintro _ ⟨⟩ id x found
  rw [Window.find?_remember] at found
  split at found
  · next same =>
    rw [fl.take_succ, List.map_append, same]
    exact List.mem_append_right _ List.mem_cons_self
  · exact fl.known win here id x found

/-- The record whose message the broker took is processed now. -/
lemma mark (fl : Flow resolve s first done (r :: rest) 1 q l) :
    ∃ store, l.store.markProcessed l.workshop.ground.now r.id = .ok store ∧
      Flow resolve s first (done ++ [r.markProcessed l.workshop.ground.now]) rest 0 q
        (l.setStore store) := by
  obtain ⟨store, marked, items⟩ := Store.markProcessed_queue fl.items l.workshop.ground.now
  have kept : (l.call (.ofExcept (l.store.markProcessed l.workshop.ground.now r.id))).2.ledger =
      l.ledger := (keeps_ledger resolve).markProcessed r.id l
  rw [marked] at kept
  refine ⟨store, marked, ordered_of_ledger kept fl.ordered, ?_, ?_, ?_, Nat.zero_le _, ?_,
    fl.settings, fl.closed, ?_⟩
  · exact items.trans (List.append_cons ..)
  · refine List.forall_mem_append.2 ⟨fl.processed, List.forall_mem_singleton.2 ?_⟩
    exact Record.processed_markProcessed r _
  · exact fun x mem => fl.untouched x (List.mem_cons_of_mem _ mem)
  · rw [List.length_append, List.length_singleton, Nat.add_zero]
    exact fl.accepted
  · rw [List.length_append, List.length_singleton, Nat.add_zero]
    exact fl.known

end Flow

/-- Where a worker stands with the first record that was not relayed, and how far the broker is
ahead then. -/
inductive Fits (resolve : String → Option Shape) (r : Record) : Stage → Nat → Prop where
  | looking :
    Fits resolve r .looking 0
  | publishing {m sh} :
    relayed? resolve (.ofRecord r) = some (m, sh) →
    Fits resolve r (.publishing m sh) 0
  | remembering :
    Fits resolve r .remembering 1
  | writing :
    Fits resolve r (.writing .processed true) 1

/-- A step of a worker on the first record that was not relayed leaves it there, or it ends well and
the record was relayed. -/
lemma Flow.step {done rest : List Record} {r : Record} {ahead delay} {q : Publisher}
    {l l' : Relay β} {stage stage'} {window'}
    (fl : Flow resolve s first done (r :: rest) ahead q l) (fair : Fair resolve first l.workshop)
    (fits : Fits resolve r stage ahead)
    (st : Worker.Step (surroundings resolve) delay r stage q.window l stage' window' l') :
    (∃ ahead', Fits resolve r stage' ahead' ∧
      Flow resolve s first done (r :: rest) ahead' { q with window := window' } l') ∨
    stage' = .finished (.ok .published) ∧ ∃ r',
      Flow resolve s first (done ++ [r']) rest 0 { q with window := window' } l' := by
  -- The broker is ahead from when it takes the message until the record is marked as processed.
  generalize window : q.window = win at st
  have self : { q with window := win } = q := window ▸ rfl
  cases fits with
  | looking =>
    obtain ⟨m, sh, routed, relayed⟩ := fl.route fair
    cases st with
    | skipped =>
      left
      exact ⟨0, routed ▸ .publishing relayed, self.symm ▸ fl⟩
    | known clock look =>
      obtain ⟨-, _, found, -⟩ := Window.lookUp_true look
      cases (fl.unknown window).symm.trans found
    | unknown clock look =>
      obtain ⟨-, -, gone⟩ := Window.lookUp_false look
      cases clock
      left
      refine ⟨0, routed ▸ .publishing relayed, fl.of_same rfl rfl rfl rfl ?_⟩
      rintro _ ⟨⟩
      refine ⟨_, window, fun id x found => ⟨x, ?_⟩⟩
      rw [gone] at found
      split at found
      · cases found
      · exact found
  | publishing relayed =>
    cases st with
    | taken pub =>
      cases pub
      exact .inl ⟨1, .remembering, self.symm ▸ fl.take relayed⟩
    | refused pub | crashed pub => cases pub
  | remembering =>
    cases st with
    | forgotten => exact .inl ⟨1, .writing, self.symm ▸ fl⟩
    | remembered clock =>
      cases clock
      have fl' := fl.remember window (l.watch l.readings)
      refine .inl ⟨1, .writing, fl'.of_same rfl rfl rfl rfl fun win here => ?_⟩
      exact ⟨win, here, fun _ x found => ⟨x, found⟩⟩
  | writing =>
    cases st with
    | written wr =>
      obtain ⟨store, marked, fl'⟩ := fl.mark
      have called : l.call (.ofExcept (l.store.markProcessed l.workshop.ground.now r.id)) = _ := wr
      rw [marked] at called
      cases called
      exact .inr ⟨rfl, _, self.symm ▸ fl'⟩

end Outbox.Relay
