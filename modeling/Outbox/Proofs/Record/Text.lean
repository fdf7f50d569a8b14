import Outbox.Proofs.Form
import Outbox.Record

/-!
# Records and notices as JSON texts

Records and notices whose instants are proper are read back from their texts. All are read from
every other text that says the same, and from no text that lacks one of their fields or repeats one
(`texts_round_trip`). A record that occurred in a leap second that goes on inside a minute is read as
one that occurred in the next second (`parse_toText_lingering`).
-/

namespace Outbox

/-- No two fields of a record have one name, and just those that may be null may be left out. -/
lemma Record.regular : Form.Regular form.fields :=
  ⟨by decide, by decide, by decide, by decide⟩

/-- No two fields of a notice have one name, and none may be left out. -/
lemma Notice.regular : Form.Regular form.fields :=
  ⟨by decide, by decide, by decide, by decide⟩

/-- Every instant of a record is proper. -/
def Record.IsProper (r : Record) : Prop :=
  r.occurredAt.IsProper ∧ (∀ t ∈ r.processedAt, t.IsProper) ∧
    (∀ t ∈ r.deadLetteredAt, t.IsProper) ∧ ∀ t ∈ r.nextAttemptAt, t.IsProper

/-- The instant of a notice is proper. -/
def Notice.IsProper (n : Notice) : Prop :=
  n.occurredAt.IsProper

/-- The instants of a record are those of its entry. -/
lemma Record.isProper_iff {r : Record} : r.IsProper ↔ r.toEntry.IsProper form.fields := by
  have text : (Form.Kind.optional .text).IsProper r.error :=
    Form.Kind.isProper_optional_iff.2 fun _ _ => trivial
  have time (t : Option Time.Instant) :
      (Form.Kind.optional .instant).IsProper t ↔ ∀ u ∈ t, u.IsProper :=
    Form.Kind.isProper_optional_iff
  simp [IsProper, form, toEntry, Form.Entry.IsProper, Form.Kind.IsProper, text, time]

/-- The instant of a notice is that of its entry. -/
lemma Notice.isProper_iff {n : Notice} : n.IsProper ↔ n.toEntry.IsProper form.fields := by
  simp [IsProper, form, toEntry, Form.Entry.IsProper, Form.Kind.IsProper]

/-- Just those records and notices are read back from their texts whose instants are proper; the text
of any other one is that of a proper one. They are the same however the fields of an object are
ordered, whatever other fields it has, whether or not it names those that are null, and when their
values stand in a list. A text that lacks a field that may not be null, or that repeats one, is
refused; what is written for an accepted text is read as the same value again. -/
theorem texts_round_trip :
    Form.RoundTrips Record.form Record.toText Record.parse Record.IsProper ∧
      Form.RoundTrips Notice.form Notice.toText Notice.parse Notice.IsProper :=
  ⟨Form.roundTrips Record.regular Record.ofEntry_toEntry Record.toEntry_ofEntry
      fun _ => Record.isProper_iff,
    Form.roundTrips Notice.regular Notice.ofEntry_toEntry Notice.toEntry_ofEntry
      fun _ => Notice.isProper_iff⟩

/-- A fresh record. -/
def Record.fresh : Record :=
  ⟨⟨1⟩, "stock.low", "", .epoch, false, none, none, 0, none, none⟩

/-- An empty list under a name that records do not know. -/
def Record.seen : Json.Member where
  before := .none
  key := "seen".toList.flatMap Json.escaped
  body := (Json.spells_escaped _).body
  between := .none
  item := ⟨.none, Json.listChars .none [], .none⟩

/-- The fresh record the other way round, without its fields that are null, and with one more. -/
def Record.shuffled : Json.ObjectText where
  before := .none
  inside := .none
  members := seen :: ((Form.Entry.told form.fields fresh.toEntry).filter fun m =>
    m.item.value ≠ ['n', 'u', 'l', 'l']).reverse
  after := .none
  valid := by
    refine List.forall_mem_cons.2 ⟨.list .none [] (List.forall_mem_nil _), fun m mem => ?_⟩
    exact Form.Entry.valid_told _ m (List.mem_filter.1 (List.mem_reverse.1 mem)).1

/-- The shuffled text is read as the fresh record. -/
theorem texts_round_trip_shuffled :
    Record.shuffled.text = "\x7b\"seen\":[],\"retry_count\":0,\"processed\":false," ++
      "\"occurred_at\":\"1970-01-01T00:00:00Z\",\"payload\":\"\",\"type_tag\":\"stock.low\"," ++
      "\"id\":\"00000000-0000-0000-0000-000000000001\"\x7d" ∧
    Record.parse Record.shuffled.text = .ok Record.fresh := by
  refine ⟨by decide +kernel, ?_⟩
  have written : Record.parse (Form.Entry.object (Record.toEntry .fresh)).text = .ok .fresh := by
    rw [Form.text_object]
    have never (t : Time.Instant) (mem : t ∈ none) : t.IsProper := (Option.not_mem_none t mem).elim
    have proper : Record.fresh.IsProper := ⟨.inl (by decide), never, never, never⟩
    exact texts_round_trip.1.back.2 proper
  refine texts_round_trip.1.variant written ⟨_, _, [Record.seen],
    (List.filter_append_perm _ _).symm.trans List.perm_append_comm,
    (List.reverse_perm _).cons _, fun m mem => ?_, ?_⟩
  · show m.item.value = _
    simpa using (List.mem_filter.1 mem).2
  · rintro m (_ | ⟨_, ⟨⟩⟩)
    exact ⟨"seen", Json.spells_escaped _, by decide⟩

/-- A fresh record that occurred in a leap second after 12:00:30 is read back as one that occurred
half a second after 12:00:31. -/
theorem Record.parse_toText_lingering :
    toText { fresh with occurredAt := .lingering } =
      "\x7b\"id\":\"00000000-0000-0000-0000-000000000001\",\"type_tag\":\"stock.low\"," ++
        "\"payload\":\"\",\"occurred_at\":\"2024-03-01T12:00:31.500Z\",\"processed\":false," ++
        "\"processed_at\":null,\"error\":null,\"retry_count\":0,\"dead_lettered_at\":null," ++
        "\"next_attempt_at\":null\x7d" ∧
    parse (toText { fresh with occurredAt := .lingering }) =
      .ok { fresh with occurredAt := .lingered } ∧
    parse (toText { fresh with occurredAt := .lingering }) ≠
      .ok { fresh with occurredAt := .lingering } := by
  have read : parse (toText { fresh with occurredAt := .lingering }) =
      .ok { fresh with occurredAt := .lingered } := by
    rw [parse, toText, Form.parse_write regular, ← Time.Instant.proper_lingering]
    rfl
  refine ⟨by decide +kernel, read, fun same => ?_⟩
  rw [read, Except.ok.injEq] at same
  exact absurd (congrArg occurredAt same) (by decide)

end Outbox
