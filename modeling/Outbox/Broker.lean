import Outbox.Message

/-!
# Brokers

A broker takes messages over and delivers them to other programs. A message travels with the tag of
its own type and with the name of the shape under which it is published.
-/

namespace Outbox.Broker

/-- Why a broker does not take a message. -/
inductive Error
  | unavailable (reason : String)
  | rejected (reason : String)
  | encoding (reason : String)
  deriving DecidableEq, Repr

/-- The word that names the kind of an error. -/
def Error.kind : Error → String
  | .unavailable _ => "Unavailable"
  | .rejected _ => "Rejected"
  | .encoding _ => "Encoding"

/-- The error of a kind, if the word names one. -/
def Error.ofKind? (kind reason : String) : Option Error :=
  [unavailable reason, rejected reason, encoding reason].find? (·.kind = kind)

/-- What an operator is told of the failure. -/
def Error.message : Error → String
  | .unavailable reason => "broker unavailable: " ++ reason
  | .rejected reason => "message rejected: " ++ reason
  | .encoding reason => "message encoding failed: " ++ reason

/-- A message as a broker takes it. -/
structure Parcel where
  typeTag : String
  typeName : String
  payload : String
  deriving DecidableEq, Repr

/-- The parcel of a message under a shape, if the message can be written. -/
def Parcel.of (m : Message) (s : Shape) : Except Error Parcel :=
  match m.payload with
  | .ok payload => .ok ⟨m.tag, s.typeName, payload⟩
  | .error e => .error (.encoding e.message)

/-- A broker that takes every message that can be written and keeps none. -/
def discard (m : Message) (s : Shape) : Except Error Unit :=
  (Parcel.of m s).map fun _ => ()

end Outbox.Broker

/-!
## The in-memory broker

This broker keeps what it takes. It can be told to fail, for all messages or for those published
under some tags, until it recovers.
-/

namespace Outbox.Broker

/-- A broker that keeps its parcels. -/
structure Memory where
  /-- What it took, in order. -/
  parcels : List Parcel := []
  /-- How often it was asked. -/
  attempts : Nat := 0
  outage : Option Error := none
  outages : Keyed (Prod.fst : String × Error → String) := .empty

namespace Memory

instance : Inhabited Memory := ⟨{}⟩

/-- The broker that fails for all messages. -/
def fail (b : Memory) (e : Error) : Memory :=
  { b with outage := some e }

/-- The broker that fails for messages published under a tag. -/
def failTag (b : Memory) (tag : String) (e : Error) : Memory :=
  { b with outages := b.outages.put (tag, e) }

/-- The broker that fails no more. -/
def recover (b : Memory) : Memory :=
  { b with outage := none, outages := .empty }

/-- The failure that meets messages under a tag. -/
def failure? (b : Memory) (tag : String) : Option Error :=
  match b.outage with
  | some e => some e
  | none => (b.outages.find? tag).map Prod.snd

/-- Publishes a message under a shape. -/
def publish (b : Memory) (m : Message) (s : Shape) : Except Error Unit × Memory :=
  let b := { b with attempts := b.attempts + 1 }
  match b.failure? s.tag with
  | some e => (.error e, b)
  | none =>
    match Parcel.of m s with
    | .error e => (.error e, b)
    | .ok p => (.ok (), { b with parcels := b.parcels ++ [p] })

end Memory

end Outbox.Broker
