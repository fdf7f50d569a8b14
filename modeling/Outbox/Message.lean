import Outbox.Form
import Outbox.Keyed

/-!
# Messages and their types

Messages, the types of messages that this deployment knows, and how a type is found by its tag.
-/

/-!
## Messages

A shape describes one type of message: its form, the tag under which it travels, and the entries
that refuse to be written. A message is an entry of its shape; its payload is the text of the entry.
-/

namespace Outbox

/-- A type of message. -/
structure Shape where
  form : Form
  /-- The stable name of the type, which is stored beside every payload. -/
  tag : String
  /-- Why an entry cannot be written, if it cannot. -/
  refusal : form.Filled → Option String := fun _ => none

/-- The name of the type in its program. -/
def Shape.typeName (s : Shape) : String :=
  s.form.name

/-- An entry of a shape. -/
structure Message where
  shape : Shape
  entry : shape.form.Filled

/-- A message refuses to be written. -/
structure Unwritable where
  reason : String
  deriving DecidableEq, Repr

/-- What is said of a message that cannot be written: a position at the end of the reason is told.
-/
def Unwritable.message (e : Unwritable) : String :=
  Json.remark e.reason

/-- A payload does not hold a message of the type. -/
structure Undecodable where
  typeName : String
  report : Json.Report

/-- What is said of a payload that does not hold a message of the type. -/
def Undecodable.message (e : Undecodable) : String :=
  "payload does not match " ++ e.typeName ++ ": " ++ e.report.message

namespace Message

/-- The tag of the message's own type. -/
def tag (m : Message) : String :=
  m.shape.tag

/-- The message as it is stored and sent. -/
def payload (m : Message) : Except Unwritable String :=
  match m.shape.refusal m.entry with
  | some reason => .error ⟨reason⟩
  | none => .ok (Form.write m.shape.form m.entry)

end Message

/-- Reads a message of the shape from the text of an entry. -/
def Shape.read (s : Shape) (payload : String) : Except Json.Report Message :=
  (Form.parse s.form payload).map (⟨s, ·⟩)

/-- Reads a message of the shape from a stored payload. -/
def Shape.decode (s : Shape) (payload : String) : Except Undecodable Message :=
  (s.read payload).mapError (⟨s.typeName, ·⟩)

end Outbox

/-!
## Message contracts

The message types that this deployment knows. The tag of a contract is fixed for good: a record that
is stored under it must stay readable.
-/

namespace Outbox.Contract

/-- A product was added to the catalog. -/
def productCreated : Shape where
  form := ⟨"ProductCreatedIntegrationEvent",
    [⟨"product_id", .identifier, none, none⟩, ⟨"name", .text, none, none⟩,
      ⟨"price_cents", .integer, none, none⟩]⟩
  tag := "catalog.product.created"

/-- A product was taken out of the catalog. -/
def productDeleted : Shape where
  form := ⟨"ProductDeletedIntegrationEvent", [⟨"product_id", .identifier, none, none⟩]⟩
  tag := "catalog.product.deleted"

/-- A customer placed an order. -/
def orderPlaced : Shape where
  form := ⟨"OrderPlacedIntegrationEvent",
    [⟨"order_id", .identifier, none, none⟩, ⟨"customer_id", .identifier, none, none⟩,
      ⟨"total_cents", .integer, none, none⟩, ⟨"placed_at", .instant, none, none⟩]⟩
  tag := "sales.order.placed"

/-- An order was paid. -/
def paymentReceived : Shape where
  form := ⟨"PaymentReceivedIntegrationEvent",
    [⟨"order_id", .identifier, none, none⟩, ⟨"amount_cents", .integer, none, none⟩]⟩
  tag := "billing.payment.received"

/-- A product is about to run out. This is for listeners inside the process and is never relayed. -/
def stockLow : Shape where
  form := ⟨"StockLowNotification",
    [⟨"product_id", .identifier, none, none⟩, ⟨"on_hand", .word32, none, none⟩]⟩
  tag := "inventory.stock.low"

/-- All contracts. -/
def catalog : List Shape :=
  [productCreated, productDeleted, orderPlaced, paymentReceived, stockLow]

/-- How the names of message types end that are meant for other programs. -/
def relayedSuffix : String :=
  "IntegrationEvent"

end Outbox.Contract

/-!
## The registry of shapes

The registry finds the shape for a stored tag. Of two shapes under one tag the one registered last
counts. A listing is sorted by tag.
-/

namespace Outbox

/-- Shapes by the tags under which they are found. -/
structure Registry where
  table : Keyed (Prod.fst : String × Shape → String)

namespace Registry

/-- The registry without shapes. -/
def empty : Registry :=
  ⟨.empty⟩

instance : Inhabited Registry := ⟨empty⟩

/-- The registry with a shape under a tag. -/
def register (r : Registry) (tag : String) (s : Shape) : Registry :=
  ⟨r.table.put (tag, s)⟩

/-- The registry with a shape under its own tag. -/
def registerOwn (r : Registry) (s : Shape) : Registry :=
  r.register s.tag s

/-- The registry with the shapes of a catalog that pass a test, each under its own tag, and how many
these are. -/
def registerMatching (r : Registry) (catalog : List Shape) (accepts : Shape → Bool) :
    Registry × Nat :=
  let accepted := catalog.filter accepts
  (accepted.foldl registerOwn r, accepted.length)

/-- The shape under a tag. -/
def resolve (r : Registry) (tag : String) : Option Shape :=
  (r.table.find? tag).map Prod.snd

/-- The shapes with their tags, sorted by tag. -/
def shapes (r : Registry) : List (String × Shape) :=
  r.table.items.mergeSort fun a b => a.1 ≤ b.1

/-- The tags, sorted. -/
def tags (r : Registry) : List String :=
  r.shapes.map Prod.fst

/-- The number of tags. -/
def size (r : Registry) : Nat :=
  r.table.size

/-- Whether there is no tag. -/
def isEmpty (r : Registry) : Bool :=
  r.size = 0

/-- Whether a contract is meant for other programs. -/
def isRelayed (s : Shape) : Bool :=
  s.typeName.endsWith Contract.relayedSuffix

/-- The registry of all contracts that are relayed. -/
def relayed : Registry :=
  (empty.registerMatching Contract.catalog isRelayed).1

/-- Nothing is registered at first. -/
@[simp] theorem resolve_empty (tag : String) : empty.resolve tag = none := rfl

/-- A registered shape is found under its tag, and under other tags what was found before. -/
theorem resolve_register (r : Registry) (s : Shape) (tag t : String) :
    (r.register tag s).resolve t = if t = tag then some s else r.resolve t := by
  simp only [resolve, register, Keyed.find?_put]
  split <;> simp

end Registry

end Outbox
