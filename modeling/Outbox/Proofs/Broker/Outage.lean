import Mathlib.Data.List.Induction
import Mathlib.Tactic.Lemma
import Outbox.Broker.Stream

/-!
# Outages of a stream server

A stream broker through publishes at any moments, while its server refuses connections, accepts
them, replies with entries or with errors, and drops connections. Connections that were refused and
replies that were errors leave no trace. A connection that was dropped does: the broker keeps it,
and no publish reaches the server again. `publish_after` says so of every history.
-/

namespace Outbox.Broker.Stream

/-- What happens to a broker. -/
inductive Event
  /-- A message is published under a shape while the server behaves in some way. -/
  | publish (m : Message) (s : Shape) (c : Conditions)
  /-- The server drops the connection, if there is one. -/
  | hangUp

namespace Event

/-- Whether the broker is connected to the server by this, unless it had a connection before. -/
def connects : Event → Bool
  | publish m s c => (Parcel.ofShape m s).isOk && c.refusal.isNone
  | hangUp => false

/-- Whether the server drops the connection of the broker, if there is one or will be by this. -/
def cuts : Event → Bool
  | publish m s c => (Parcel.ofShape m s).isOk && c.reply.isNone
  | hangUp => true

end Event

/-- The broker after something happened. -/
def step (b : Stream) : Event → Stream
  | .publish m s c => (b.publish c m s).2.2
  | .hangUp => b.hangUp

/-- The broker after some events. -/
def after (b : Stream) (es : List Event) : Stream :=
  es.foldl step b

/-- Whether there was a connection. -/
def Connected (es : List Event) : Prop :=
  ∃ e ∈ es, e.connects = true

/-- Whether the server dropped a connection. -/
def Severed (es : List Event) : Prop :=
  ∃ before e behind, es = before ++ e :: behind ∧ e.cuts = true ∧ Connected (before ++ [e])

/-- The last event connects what was not connected before. -/
lemma connected_concat_iff {es : List Event} {e : Event} :
    Connected (es ++ [e]) ↔ Connected es ∨ e.connects = true := by
  simp [Connected, or_and_right, exists_or]

/-- The last event severs what was not severed before. -/
lemma severed_concat_iff {es : List Event} {e : Event} :
    Severed (es ++ [e]) ↔ Severed es ∨ e.cuts = true ∧ Connected (es ++ [e]) := by
  constructor
  · rintro ⟨before, a, behind, split, cuts, connected⟩
    obtain rfl | ⟨behind, z, rfl⟩ := behind.eq_nil_or_concat
    · obtain ⟨rfl, rfl⟩ := List.concat_inj.1 (by simpa using split)
      exact .inr ⟨cuts, connected⟩
    · rw [List.concat_eq_append, ← List.cons_append, ← List.append_assoc] at split
      exact .inl ⟨before, a, behind, (List.append_inj' split rfl).1, cuts, connected⟩
  · rintro (⟨before, a, behind, rfl, cuts, connected⟩ | ⟨cuts, connected⟩)
    · exact ⟨before, a, behind ++ [e], by simp, cuts, connected⟩
    · exact ⟨es, e, [], rfl, cuts, connected⟩

/-- What an event makes of a connection. -/
def Link.next (l : Link) (e : Event) : Link :=
  if l = .dropped then .dropped
  else if l = .established || e.connects then if e.cuts then .dropped else .established
  else .absent

/-- The link after an event follows from the link before it. -/
lemma link_step (b : Stream) (e : Event) : (b.step e).link = b.link.next e := by
  obtain ⟨key, cap, link⟩ := b
  cases e with
  | hangUp => cases link <;> rfl
  | publish m s c =>
    obtain ⟨refusal, reply⟩ := c
    cases written : Parcel.ofShape m s with
    | error e =>
      simp only [step, publish, Link.next, Event.connects, Event.cuts, written]
      cases link <;> rfl
    | ok p =>
      simp only [step, publish, send, Link.next, Event.connects, Event.cuts, written]
      cases link <;> cases refusal <;> cases reply <;> rfl

/-- The link of a broker that was not connected at first, by what happened to it since. -/
lemma link_after {b : Stream} (new : b.link = .absent) (es : List Event) :
    ((b.after es).link = .dropped ↔ Severed es) ∧
      ((b.after es).link = .absent ↔ ¬ Connected es) := by
  induction es using List.reverseRecOn with
  | nil => simp [after, new, Severed, Connected]
  | append_singleton es e ih =>
    have last : (b.after (es ++ [e])).link = (b.after es).link.next e := by
      rw [after, List.foldl_append]
      exact link_step _ e
    rw [severed_concat_iff, connected_concat_iff, last, ← ih.1]
    have connected : Connected es ↔ (b.after es).link ≠ .absent := by
      rw [Ne, ih.2, Classical.not_not]
    rw [connected]
    unfold Link.next
    cases (b.after es).link <;> cases e.connects <;> cases e.cuts <;> simp

/-- No event changes how a parcel is written as a command. -/
lemma command_step (b : Stream) (e : Event) (p : Parcel) : (b.step e).command p = b.command p := by
  cases e with
  | hangUp => rfl
  | publish m s c =>
    simp only [step, publish, send]
    cases Parcel.ofShape m s with
    | error e => rfl
    | ok p => cases b.link <;> cases c.refusal <;> cases c.reply <;> rfl

/-- The words of a command do not depend on what happened before. -/
lemma command_after (b : Stream) (es : List Event) (p : Parcel) :
    (b.after es).command p = b.command p := by
  induction es generalizing b with
  | nil => rfl
  | cons e es ih => exact (ih _).trans (command_step b e p)

/-- A broker that was just opened has no connection yet. -/
lemma link_ofAddress {address key cap b} (opened : ofAddress address key cap = .ok b) :
    b.link = .absent := by
  unfold ofAddress at opened
  split at opened <;> cases opened
  rfl

/-- On a connection that is there, or that the server accepts, a message is appended if the server
replies with an entry. -/
lemma publish_of_ne_dropped {b : Stream} (intact : b.link ≠ .dropped) {m s p}
    (written : Parcel.ofShape m s = .ok p) {c : Conditions} {id} (accepts : c.refusal = none)
    (appends : c.reply = some (.text id)) :
    b.publish c m s = (.ok (), some (b.command p), { b with link := .established }) := by
  simp only [publish, send, written, accepts, appends]
  cases link : b.link with
  | dropped => exact absurd link intact
  | _ => rfl

/-- A broker whose connection was dropped sends nothing. -/
lemma publish_of_dropped {b : Stream} (dropped : b.link = .dropped) {m s p}
    (written : Parcel.ofShape m s = .ok p) (c : Conditions) :
    b.publish c m s = (.error broken, none, b) := by
  simp only [publish, written, dropped]

/-- After any history of a broker, a message that can be written is published while the server
accepts connections and replies with an entry. As long as the server has dropped no connection of
the broker this goes well, whatever connections it refused and whatever errors it replied. Once it
has dropped one, this fails, and no command reaches the server. -/
theorem publish_after {address key cap b} (opened : ofAddress address key cap = .ok b)
    (es : List Event) {m s p} (written : Parcel.ofShape m s = .ok p) {c : Conditions} {id}
    (accepts : c.refusal = none) (appends : c.reply = some (.text id)) :
    let (result, command, later) := (b.after es).publish c m s
    (¬ Severed es → result = .ok () ∧ command = some (b.command p) ∧ later.link = .established) ∧
      (Severed es → result = .error broken ∧ command = none ∧ later.link = .dropped) := by
  obtain ⟨dropped_iff, -⟩ := link_after (link_ofAddress opened) es
  by_cases severed : Severed es
  · have dropped := dropped_iff.2 severed
    rw [publish_of_dropped dropped written]
    exact ⟨fun intact => absurd severed intact, fun _ => ⟨rfl, rfl, dropped⟩⟩
  · rw [publish_of_ne_dropped (mt dropped_iff.1 severed) written accepts appends, command_after]
    exact ⟨fun _ => ⟨rfl, rfl, rfl⟩, fun cut => absurd cut severed⟩

/-- A message that a product was taken out of the catalog. -/
def withdrawal : Message :=
  ⟨Contract.productDeleted, (⟨7⟩, ())⟩

/-- A publish of this message. -/
def Event.withdraw (c : Conditions) : Event :=
  .publish withdrawal Contract.productDeleted c

/-- Two publishes to a server that is not there at first and then is short of memory. -/
def shaky : List Event :=
  [.withdraw { refusal := some "No such file or directory" },
    .withdraw { reply := some (.error "OOM" (some "command not allowed")) }]

/-- A server that has dropped no connection severs none. -/
lemma not_severed {es : List Event} (keeps : ∀ e ∈ es, e.cuts = false) : ¬ Severed es := by
  rintro ⟨before, e, behind, rfl, cuts, -⟩
  cases cuts.symm.trans (keeps e (by simp))

/-- Afterwards the message is published. -/
theorem publish_after_shaky :
    ∃ b, ofAddress "unix:///run/queue.sock" none none = .ok b ∧ ¬ Severed shaky ∧
      ((b.after shaky).publish {} withdrawal Contract.productDeleted).1 = .ok () := by
  have opened : ofAddress "unix:///run/queue.sock" none none = .ok {} := by rfl
  have written : Parcel.ofShape withdrawal Contract.productDeleted = .ok _ := rfl
  have intact : ¬ Severed shaky := not_severed (by decide)
  have after := publish_after opened shaky written (c := {}) rfl rfl
  exact ⟨{}, opened, intact, (after.1 intact).1⟩

/-- The server takes a message and drops the connection at the next one. From then on it accepts
connections and would reply with entries, and yet the message is not published. -/
theorem unavailable_after_drop :
    ∃ b, ofAddress "unix:///run/queue.sock" none none = .ok b ∧
      let es := [.withdraw {}, .withdraw { reply := none }]
      (b.publish {} withdrawal Contract.productDeleted).1 = .ok () ∧
      ((b.after es).publish {} withdrawal Contract.productDeleted).1 = .error broken :=
  ⟨{}, rfl, rfl, rfl⟩

end Outbox.Broker.Stream
