import Outbox.Proofs.Form
import Outbox.Proofs.Publisher.Match
import Outbox.UnitOfWork

/-!
# Payloads of contracts

A message of a contract survives the outbox (`payloads_survive`): what a unit of work records of it
is decoded as a message that is handed over with the very payload that was recorded, and as the same
message if its instants are proper. Any other payload that is accepted, however it is laid out,
stands for a message that is written in one way only. An order that was placed in a leap second that
goes on inside a minute is decoded as one that was placed in the next second
(`decode_payload_lingering`).
-/

namespace Outbox

open Publisher (route)

/-- Every message of the shape can be written and read. -/
structure Shape.Lasting (s : Shape) : Prop where
  regular : Form.Regular s.form.fields
  written : ∀ e, s.refusal e = none

namespace Shape.Lasting

variable {s : Shape} (lasting : s.Lasting)
include lasting

/-- The payload of a message is the text of its entry. -/
lemma payload_eq (e : s.form.Filled) :
    (⟨s, e⟩ : Message).payload = .ok (Form.write s.form e) := by
  simp only [Message.payload, lasting.written]

/-- The payload of a message is decoded as the message it stands for. -/
lemma decode_write (e : s.form.Filled) :
    s.decode (Form.write s.form e) = .ok ⟨s, e.proper s.form.fields⟩ := by
  rw [Shape.decode, Shape.read, Form.parse_write lasting.regular]
  rfl

/-- Whatever is decoded stands for itself. -/
lemma proper_of_decode {text : String} {e : s.form.Filled} (decoded : s.decode text = .ok ⟨s, e⟩) :
    e.proper s.form.fields = e := by
  unfold Shape.decode Shape.read at decoded
  cases read : Form.parse s.form text with
  | error report =>
    rw [read] at decoded
    cases decoded
  | ok e' =>
    rw [read] at decoded
    cases decoded
    exact Form.Entry.proper_eq_self_iff.2 (Form.isProper_of_parse lasting.regular read)

/-- The record of a message leads to the publication of the message it stands for. -/
lemma route_eq {resolve : String → Option Shape} {r : Record} {e : s.form.Filled}
    (found : resolve r.typeTag = some s) (stored : r.payload = Form.write s.form e) :
    route resolve r = .publishing ⟨s, e.proper s.form.fields⟩ s := by
  simp only [route, found, stored, lasting.decode_write]

end Shape.Lasting

namespace Contract

/-- Every message of a contract can be written and read. -/
lemma lasting {s : Shape} (known : s ∈ catalog) : s.Lasting := by
  simp only [catalog, List.mem_cons, List.not_mem_nil, or_false] at known
  rcases known with rfl | rfl | rfl | rfl | rfl <;>
    exact ⟨⟨by decide, by decide, by decide, by decide⟩, fun _ => rfl⟩

/-- A message of a contract is recorded by a unit of work, decoded from its record, and handed to a
broker with the payload of the record. It is decoded as the same message just when its instants are
proper. Whatever else is decoded under the contract stands for a message whose own payload is decoded
as the same message again, and that is written as before. -/
theorem payloads_survive {s : Shape} (known : s ∈ catalog) :
    (∀ e : s.form.Filled, ∃ payload m,
      (⟨s, e⟩ : Message).payload = .ok payload ∧ s.decode payload = .ok m ∧
      (m = ⟨s, e⟩ ↔ e.IsProper s.form.fields) ∧
      UnitOfWork.Draft.of ⟨s, e⟩ = .ok ⟨s.tag, payload⟩ ∧
      ∀ (resolve : String → Option Shape) (r : Record), resolve s.tag = some s →
        r.typeTag = s.tag → r.payload = payload →
        route resolve r = .publishing m s ∧
        Broker.Parcel.of m s = .ok ⟨r.typeTag, s.typeName, r.payload⟩) ∧
    ∀ (text : String) (m : Message), s.decode text = .ok m →
      ∃ payload, m.payload = .ok payload ∧ s.decode payload = .ok m ∧
        ∀ again, s.decode payload = .ok again → again.payload = .ok payload := by
  have lasting := lasting known
  constructor
  · refine fun e => ⟨Form.write s.form e, ⟨s, e.proper s.form.fields⟩, lasting.payload_eq e,
      lasting.decode_write e, ?_, ?_, ?_⟩
    · rw [← Form.Entry.proper_eq_self_iff, Message.mk.injEq, heq_eq_eq]
      exact and_iff_right rfl
    · simp only [UnitOfWork.Draft.of, lasting.payload_eq, Message.tag]
    · intro resolve r found tag stored
      refine ⟨lasting.route_eq (tag ▸ found) stored, ?_⟩
      simp only [Broker.Parcel.of, lasting.payload_eq, Form.write_proper, Message.tag, tag, stored]
  · intro text m decoded
    obtain ⟨own, e⟩ := m
    obtain rfl : own = s := Shape.shape_of_decode decoded
    -- What was decoded has proper instants only, so it is decoded from its own payload.
    have read := lasting.decode_write e
    rw [lasting.proper_of_decode decoded] at read
    refine ⟨Form.write own.form e, lasting.payload_eq e, read, fun again same => ?_⟩
    obtain rfl := Except.ok.inj (read.symm.trans same)
    exact lasting.payload_eq e

/-- A product that is told with its fields in another order, with white space, with escapes and with
a field that the contract does not know. -/
def lampText : String :=
  " \x7b\"x\": [1, \x7b\"y\": null\x7d] ,\"price_cents\": -9223372036854775808,\n" ++
    "\"name\":\"\\ud83d\\ude00\\/\\\"\", \"product_id\":" ++
    "\"urn:uuid:00000000-0000-0000-0000-00000000002A\"\x7d"

/-- The product that is told. -/
def lamp : productCreated.form.Filled :=
  ((⟨42⟩ : Identifier), "😀/\"", (-9223372036854775808 : Int64), ())

/-- The text is read as the product that it tells of. -/
lemma decode_lampText : productCreated.decode lampText = .ok ⟨productCreated, lamp⟩ := by
  have parsed : (Form.parse productCreated.form lampText).toOption = some lamp := by decide +kernel
  rw [Shape.decode, Shape.read]
  cases read : Form.parse productCreated.form lampText with
  | error => simp [read, Except.toOption] at parsed
  | ok e =>
    rw [read] at parsed
    obtain rfl : e = lamp := Option.some.inj parsed
    rfl

/-- The product that is told is decoded, and from its record it is published. -/
theorem payloads_survive_lamp :
    productCreated ∈ catalog ∧ productCreated.decode lampText = .ok ⟨productCreated, lamp⟩ ∧
      (∃ payload, (⟨productCreated, lamp⟩ : Message).payload = .ok payload ∧
        productCreated.decode payload = .ok ⟨productCreated, lamp⟩) ∧
      ∃ r : Record, route (Registry.empty.registerOwn productCreated).resolve r =
        .publishing ⟨productCreated, lamp⟩ productCreated := by
  have known : productCreated ∈ catalog := List.mem_cons_self
  refine ⟨known, decode_lampText, ?_, ?_⟩
  · obtain ⟨payload, written, same, -⟩ := (payloads_survive known).2 lampText _ decode_lampText
    exact ⟨payload, written, same⟩
  · obtain ⟨payload, m, -, -, same, -, handed⟩ := (payloads_survive known).1 lamp
    obtain rfl := same.2 ⟨trivial, trivial, trivial, trivial⟩
    refine ⟨⟨⟨1⟩, productCreated.tag, payload, default, false, none, none, 0, none, none⟩, ?_⟩
    exact (handed _ _ ((Registry.resolve_register ..).trans (if_pos rfl)) rfl rfl).1

/-- An order that was placed at some instant. -/
def order (placed : Time.Instant) : Message :=
  ⟨orderPlaced, ((⟨1⟩ : Identifier), (⟨2⟩ : Identifier), (100 : Int64), placed, ())⟩

/-- Orders differ if they were placed at different instants. -/
lemma order_injective {t u : Time.Instant} (same : order t = order u) : t = u := by
  have entries := eq_of_heq (Message.mk.inj same).2
  exact congrArg (fun e : orderPlaced.form.Filled => (e.2.2.2.1 : Time.Instant)) entries

/-- An order that was placed in a leap second after 12:00:30 is decoded from its own payload as one
that was placed half a second after 12:00:31. -/
theorem decode_payload_lingering :
    orderPlaced ∈ catalog ∧ ∃ payload, (order .lingering).payload = .ok payload ∧
      orderPlaced.decode payload = .ok (order .lingered) ∧
      orderPlaced.decode payload ≠ .ok (order .lingering) := by
  have known : orderPlaced ∈ catalog := by simp [catalog]
  have decoded := (lasting known).decode_write (order .lingering).entry
  have same : orderPlaced.decode (Form.write orderPlaced.form (order .lingering).entry) =
      .ok (order .lingered) := by
    rw [← Time.Instant.proper_lingering]
    exact decoded
  refine ⟨known, _, (lasting known).payload_eq _, same, fun also => ?_⟩
  exact absurd (order_injective (Except.ok.inj (same.symm.trans also))) (by decide)

end Contract

end Outbox
