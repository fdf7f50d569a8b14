import Outbox.Proofs.Broker.Outage
import Outbox.Proofs.Drill
import Outbox.Proofs.Publisher.Match

/-!
# Two brokers that agree

A publisher with the broker that keeps its parcels, and the same publisher with the one that appends
them to a stream, whose server takes everything. The commands that the server got spell the parcels
that the other broker kept (`Agree`), whatever the key of the stream and however long it may grow.
`brokers_agree` says of whole runs that the publisher cannot tell which of the brokers it has.
-/

namespace Outbox

namespace Broker
open Publisher (Same)

/-- Words that are read back as a parcel whatever stands in front of them. -/
lemma Parcel.ofWords?_append (ws : List String) (p : Parcel) :
    Parcel.ofWords? (ws ++ ["*", "type_tag", p.typeTag, "type_name", p.typeName, "payload",
      p.payload]) = some p := by
  induction ws with
  | nil => rfl
  | cons w ws ih =>
    rw [List.cons_append, ofWords?]
    · exact ih
    -- No words are left over behind the words of a parcel.
    · intro typeTag typeName payload star same
      have length := congrArg List.length same
      simp at length

/-- A command spells its parcel. -/
lemma Stream.ofWords?_command (b : Stream) (p : Parcel) : Parcel.ofWords? (b.command p) = some p :=
  Parcel.ofWords?_append _ p

/-- A parcel goes to a stream as it goes to any other broker if its message has the shape under
which it is published. -/
lemma Parcel.ofShape_eq_of {m : Message} {s : Shape} (own : m.shape = s) :
    Parcel.ofShape m s = Parcel.of m s := by
  subst own
  unfold Parcel.ofShape Parcel.of
  cases m.payload <;> rfl

/-- A server that accepts connections and replies to every command with an entry. -/
def Stream.Conditions.Accepting (c : Conditions) : Prop :=
  c.refusal = none ∧ ∃ id, c.reply = some (.text id)

/-- A stream broker and the commands that its server got, in order. -/
structure Stream.Line where
  broker : Stream
  sent : List (List String) := []

/-- Publishes a message while the server behaves in a way that may depend on what it got so far. -/
def Stream.Line.publish (serves : List (List String) → Conditions) (l : Line) (m : Message)
    (s : Shape) : Except Error Unit × Line :=
  let (result, command, broker) := l.broker.publish (serves l.sent) m s
  (result, { broker, sent := l.sent ++ command.toList })

/-- What was sent over a line that is intact spells what a broker kept that is not out of order. -/
structure Agree (b : Stream) (kept : Memory) (l : Stream.Line) : Prop where
  calm : ∀ tag, kept.failure? tag = none
  intact : l.broker.link ≠ .dropped
  command : l.broker.command = b.command
  sent : l.sent = kept.parcels.map b.command

namespace Agree

variable {b : Stream} {kept : Memory} {l : Stream.Line}
  {serves : List (List String) → Stream.Conditions}

/-- A message that is published under its own shape has the same fate with both brokers. -/
lemma publish (ag : Agree b kept l) (accepts : ∀ sent, (serves sent).Accepting) {m s}
    (own : m.shape = s) : Same (Agree b) (kept.publish m s) (l.publish serves m s) := by
  obtain ⟨calm, intact, command, sent⟩ := ag
  obtain ⟨open_, id, entry⟩ := accepts l.sent
  have calm' : { kept with attempts := kept.attempts + 1 }.failure? s.tag = none := calm s.tag
  simp only [Memory.publish, calm', Stream.Line.publish]
  cases written : Parcel.of m s with
  | error e =>
    simp only [Stream.publish, Parcel.ofShape_eq_of own, written]
    exact ⟨_, calm, intact, command, sent ▸ List.append_nil _⟩
  | ok p =>
    have written' := (Parcel.ofShape_eq_of own).trans written
    rw [Stream.publish_of_ne_dropped intact written' open_ entry]
    refine ⟨_, calm, by simp, command, ?_⟩
    rw [sent, command, List.map_append]
    rfl

/-- A message that cannot be written reaches neither of the brokers. -/
lemma publish_unwritable (ag : Agree b kept l) {m : Message} {e} (unwritable : m.payload = .error e)
    (s : Shape) :
    (kept.publish m s).1 = .error (.encoding e.message) ∧
      (kept.publish m s).2.parcels = kept.parcels ∧
      l.publish serves m s = (.error (.encoding e.message), l) := by
  have calm : { kept with attempts := kept.attempts + 1 }.failure? s.tag = none := ag.calm s.tag
  have parcel : Parcel.of m s = .error (.encoding e.message) := by
    simp only [Parcel.of, unwritable]
  simp [Memory.publish, calm, Stream.Line.publish, Stream.publish, Parcel.ofShape, parcel,
    Except.map]

end Agree

end Broker

namespace Publisher

variable {ω β β' : Type}

/-- The same clock and the same store, with another broker beside them. -/
def Surroundings.beside (p : Surroundings ω)
    (publish : β → Message → Shape → Except Broker.Error Unit × β) : Surroundings (ω × β) where
  clock w := (p.clock w.1).map id (·, w.2)
  resolve := p.resolve
  fetch limit ceiling w := (p.fetch limit ceiling w.1).map id (·, w.2)
  markProcessed id_ w := (p.markProcessed id_ w.1).map id (·, w.2)
  markFailed id_ reason w := (p.markFailed id_ reason w.1).map id (·, w.2)
  countRetry id_ reason delay w := (p.countRetry id_ reason delay w.1).map id (·, w.2)
  publish m s w := (publish w.2 m s).map .ofExcept (w.1, ·)

/-- What happens elsewhere does not reach the broker. -/
def Course.Event.beside (β : Type) : Event ω → Event (ω × β)
  | .tick => .tick
  | .process => .process
  | .move m => .move m
  | .conclude => .conclude
  | .elsewhere change => .elsewhere (Prod.map change id)

/-- Worlds match if they are the same but for their brokers and these have the same answers. -/
lemma Surroundings.matches_beside (p : Surroundings ω) {r : β → β' → Prop}
    {publish : β → Message → Shape → Except Broker.Error Unit × β}
    {publish' : β' → Message → Shape → Except Broker.Error Unit × β'}
    (agree : ∀ ⦃m s⦄, m.shape = s → ∀ ⦃x y⦄, r x y → Same r (publish x m s) (publish' y m s)) :
    (p.beside publish).Matches (p.beside publish') fun x y => y.1 = x.1 ∧ r x.2 y.2 where
  resolve := rfl
  clock := by
    rintro ⟨w, x⟩ ⟨_, y⟩ ⟨rfl, rel⟩
    exact ⟨_, rfl, rel⟩
  fetch limit ceiling := by
    rintro ⟨w, x⟩ ⟨_, y⟩ ⟨rfl, rel⟩
    exact ⟨_, rfl, rel⟩
  markProcessed id := by
    rintro ⟨w, x⟩ ⟨_, y⟩ ⟨rfl, rel⟩
    exact ⟨_, rfl, rel⟩
  markFailed id reason := by
    rintro ⟨w, x⟩ ⟨_, y⟩ ⟨rfl, rel⟩
    exact ⟨_, rfl, rel⟩
  countRetry id reason delay := by
    rintro ⟨w, x⟩ ⟨_, y⟩ ⟨rfl, rel⟩
    exact ⟨_, rfl, rel⟩
  publish m s own := by
    rintro ⟨w, x⟩ ⟨_, y⟩ ⟨rfl, rel⟩
    have published := agree own rel
    simp only [beside]
    generalize publish x m s = answer, publish' y m s = answer' at published
    obtain ⟨_, rel'⟩ := published
    exact ⟨_, rfl, rel'⟩

/-- What happens beside two brokers is alike for both, whatever relation they are in. -/
lemma Course.Event.alike_beside {r : β → β' → Prop} (e : Event ω) :
    Event.Alike (fun x y => y.1 = x.1 ∧ r x.2 y.2) (e.beside β) (e.beside β') := by
  cases e with
  | elsewhere change =>
    refine .elsewhere ?_
    rintro ⟨w, x⟩ ⟨_, y⟩ ⟨rfl, rel⟩
    exact ⟨rfl, rel⟩
  | _ => constructor

end Publisher

namespace Broker
open Publisher (Course Surroundings)

variable {ω : Type}

/-- A publisher with a broker that keeps its parcels and never failed, and the same publisher with
one that appends them to a stream, whatever its key and its cap, whose server takes everything: over
any run, and whatever shapes are found for the tags of the records, all ticks come to the same, and
so do the publisher with its stats and everything but the brokers. The commands that the server got
are those of the parcels that were kept, in the same order, and are read back as these. A message
that cannot be written is refused by both for the same reason; no parcel is kept, and nothing is
sent. -/
theorem brokers_agree (p : Surroundings ω) (q : Publisher) (w : ω) {b : Stream}
    (intact : b.link ≠ .dropped) (serves : List (List String) → Stream.Conditions)
    (accepts : ∀ sent, (serves sent).Accepting) (es : List (Course.Event ω)) :
    let begun : Course (ω × Memory) := { publisher := q, world := (w, {}) }
    let begun' : Course (ω × Stream.Line) := { publisher := q, world := (w, { broker := b }) }
    let p₁ := p.beside Memory.publish
    let p₂ := p.beside (Stream.Line.publish serves)
    let es₁ := es.map (·.beside Memory)
    let es₂ := es.map (·.beside Stream.Line)
    let c := begun.run p₁ es₁
    let c' := begun'.run p₂ es₂
    begun'.ticks p₂ es₂ = begun.ticks p₁ es₁ ∧ c'.publisher = c.publisher ∧
      c'.world.1 = c.world.1 ∧ c'.world.2.sent = c.world.2.parcels.map b.command ∧
      c'.world.2.sent.filterMap Parcel.ofWords? = c.world.2.parcels ∧
      ∀ m e, m.payload = .error e → ∀ s,
        (c.world.2.publish m s).1 = .error (.encoding e.message) ∧
          (c.world.2.publish m s).2.parcels = c.world.2.parcels ∧
          c'.world.2.publish serves m s = (.error (.encoding e.message), c'.world.2) := by
  intro begun begun' p₁ p₂ es₁ es₂ c c'
  -- The two worlds agree on everything beside the broker, and on what the brokers took.
  let Beside : ω × Memory → ω × Stream.Line → Prop := fun x y => y.1 = x.1 ∧ Agree b x.2 y.2
  have mt : p₁.Matches p₂ Beside :=
    p.matches_beside fun _ _ own _ _ ag => ag.publish accepts own
  have evs : List.Forall₂ (Course.Event.Alike Beside) es₁ es₂ := by
    rw [List.forall₂_map_left_iff, List.forall₂_map_right_iff, List.forall₂_same]
    exact fun e _ => e.alike_beside
  have alike : Course.Alike Beside begun begun' := ⟨rfl, fun _ => rfl, intact, rfl, rfl⟩
  obtain ⟨al, ticks⟩ := alike.run mt (Course.faithful_of_none rfl) evs
  obtain ⟨store, ag⟩ := al.world
  refine ⟨ticks, al.publisher, store, ag.sent, ?_, fun m e un s => ag.publish_unwritable un s⟩
  have spelled : Parcel.ofWords? ∘ b.command = some := funext b.ofWords?_command
  rw [ag.sent, List.filterMap_map, spelled, List.filterMap_some]

/-- A drill with a record under a tag that its shape does not have any more. -/
def renamed : Drill where
  script := { watch := fun _ => .epoch, answer := fun _ _ _ => .ok (), fault := fun _ => none }
  store :=
    { records := ⟨[{ Drill.gone ⟨1⟩ with typeTag := "old" }], by decide⟩, entities := .empty }
  now := .epoch

/-- What was kept in the one tick is what was sent in the other. -/
theorem brokers_agree_renamed :
    ∃ q, Publisher.build {} = .ok q ∧
      let p := Drill.surroundings Drill.goneOnly
      let b : Stream := { key := "catalog", cap := some 5 }
      let es := Drill.single.map Drill.Event.toCourse
      let begun : Course (Drill × Memory) := { publisher := q, world := (renamed, {}) }
      let begun' : Course (Drill × Stream.Line) :=
        { publisher := q, world := (renamed, { broker := b }) }
      let c := begun.run (p.beside Memory.publish) (es.map (·.beside Memory))
      let c' := begun'.run (p.beside (Stream.Line.publish fun _ => {}))
        (es.map (·.beside Stream.Line))
      c.world.2.parcels =
          [⟨Contract.productDeleted.tag, Contract.productDeleted.typeName,
            (Drill.gone ⟨1⟩).payload⟩] ∧
        c'.world.2.sent = c.world.2.parcels.map b.command := by
  obtain ⟨-, -, -, sent, -, -⟩ :=
    brokers_agree (Drill.surroundings Drill.goneOnly) _ renamed
      (b := { key := "catalog", cap := some 5 }) (by decide) (fun _ => {})
      (fun _ => ⟨rfl, "0-1", rfl⟩) (Drill.single.map Drill.Event.toCourse)
  exact ⟨_, rfl, by decide +kernel, sent⟩

end Broker

end Outbox
