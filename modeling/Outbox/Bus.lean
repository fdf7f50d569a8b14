/-!
# The in-process bus

The bus hands every message to each of its subscribers. A subscriber that hung up is dropped at the
next publish. When copying a message crashes, the bus is broken for good: it delivers nothing more
and takes no subscriber, but those it had stay connected.
-/

namespace Outbox

/-- A channel to one subscriber. -/
structure Bus.Channel (M : Type) where
  /-- What was sent and not yet received, oldest first. -/
  queue : List M := []
  /-- Whether the bus still holds its end. -/
  sending : Bool := true
  /-- Whether the subscriber still holds its end. -/
  receiving : Bool := true
  deriving Repr

/-- A bus and all channels it ever had, in the order of their subscriptions. -/
structure Bus (M : Type) where
  channels : List (Bus.Channel M) := []
  /-- Whether a message crashed while it was copied. -/
  poisoned : Bool := false
  /-- Whether the bus was given up. -/
  dropped : Bool := false

namespace Bus

variable {M : Type}

/-- The number of a subscription. -/
abbrev Subscription := Nat

/-- The bus without subscribers. -/
def empty : Bus M :=
  {}

instance : Inhabited (Bus M) := ⟨empty⟩

/-- A change to one channel. -/
def adjust (b : Bus M) (s : Subscription) (f : Channel M → Channel M) : Bus M :=
  { b with channels := b.channels.modify s f }

/-- A new subscription, and the bus with it. On a broken bus it is disconnected from the start. -/
def subscribe (b : Bus M) : Subscription × Bus M :=
  (b.channels.length,
    { b with channels := b.channels ++ [{ sending := !b.poisoned && !b.dropped }] })

/-- The bus after a subscriber hung up. -/
def unsubscribe (b : Bus M) (s : Subscription) : Bus M :=
  b.adjust s fun c => { c with receiving := false, queue := [] }

/-- The number of subscribers that the bus holds, those that hung up unnoticed included. -/
def subscriberCount (b : Bus M) : Nat :=
  if b.poisoned then 0 else b.channels.countP (·.sending)

/-- What a publish comes to. -/
inductive Published
  | ok
  /-- The bus is broken. -/
  | poisoned
  /-- Copying the message crashed. -/
  | crashed
  deriving DecidableEq, Repr

/-- The message of a publish on a broken bus. -/
def poisonedMessage : String :=
  "in-memory bus lock poisoned"

/-- Sends a message on one channel, or gives the channel up when its subscriber hung up. -/
def Channel.send (m : M) (c : Channel M) : Channel M :=
  if !c.sending then c
  else if c.receiving then { c with queue := c.queue ++ [m] }
  else { c with sending := false }

/-- Publishes a message. It is copied once for each channel, the first copy coming before anything
is sent, so that a message that crashes reaches nobody. -/
def publish (b : Bus M) (copies : M → Bool) (m : M) : Published × Bus M :=
  if b.poisoned then (.poisoned, b)
  else if !copies m && b.channels.any (·.sending) then (.crashed, { b with poisoned := true })
  else (.ok, { b with channels := b.channels.map (Channel.send m) })

/-- The bus given up by its owner. -/
def drop (b : Bus M) : Bus M :=
  { b with dropped := true, channels := b.channels.map fun c => { c with sending := false } }

/-- Whether more can come on a channel. -/
def isConnected (b : Bus M) (s : Subscription) : Bool :=
  (b.channels[s]?).any (·.sending)

/-- The oldest message of a subscription, and the bus after it was received. -/
def receive (b : Bus M) (s : Subscription) : Option M × Bus M :=
  match b.channels[s]? with
  | none => (none, b)
  | some c => (c.queue.head?, b.adjust s fun c => { c with queue := c.queue.tail })

/-- All messages of a subscription, and the bus after they were received. -/
def drain (b : Bus M) (s : Subscription) : List M × Bus M :=
  match b.channels[s]? with
  | none => ([], b)
  | some c => (c.queue, b.adjust s fun c => { c with queue := [] })

end Bus

end Outbox
