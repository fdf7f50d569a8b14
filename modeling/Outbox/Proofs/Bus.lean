import Mathlib.Data.List.Induction
import Mathlib.Tactic.Lemma
import Outbox.Bus

/-!
# Traffic on a bus

Subscribers come, receive and hang up, and messages are published, in any order. One law holds for
every subscription that is alive, whatever the others do: what was received on it and what is queued
for it are the messages that were published since it began (`Holds`). The bus finds out only at its
next publish who hung up (`Sound`), and once a message crashed it finds out nothing more. The main
statement `bus_delivers` puts this together for whole runs.
-/

namespace Outbox.Bus

variable {M : Type}

/-- Whether a subscriber still holds its end. -/
def isLive (b : Bus M) (s : Subscription) : Bool :=
  (b.channels[s]?).any (·.receiving)

/-- The subscriptions whose subscribers still hold their ends. -/
def live (b : Bus M) : List Subscription :=
  (List.range b.channels.length).filter b.isLive

/-- What was sent to a subscription and not yet received. -/
def queued (b : Bus M) (s : Subscription) : List M :=
  (b.channels[s]?).elim [] (·.queue)

/-- What can be done with a bus. -/
inductive Act (M : Type)
  | subscribe
  | hangUp (s : Subscription)
  | publish (m : M)
  /-- A subscriber receives its oldest message, if there is one. -/
  | receive (s : Subscription)
  /-- A subscriber receives all that is queued for it. -/
  | drain (s : Subscription)
  deriving DecidableEq

/-- A bus, and what was received on its subscriptions so far. -/
structure Traffic (M : Type) where
  bus : Bus M := .empty
  received : Subscription → List M := fun _ => []

namespace Traffic

/-- The traffic after some messages were received. -/
def take (t : Traffic M) (s : Subscription) (got : List M × Bus M) : Traffic M where
  bus := got.2
  received x := if x = s then t.received s ++ got.1 else t.received x

variable (copies : M → Bool)

/-- The traffic after something was done. -/
def step (t : Traffic M) : Act M → Traffic M
  | .subscribe => { t with bus := t.bus.subscribe.2 }
  | .hangUp s => { t with bus := t.bus.unsubscribe s }
  | .publish m => { t with bus := (t.bus.publish copies m).2 }
  | .receive s => t.take s ((t.bus.receive s).map Option.toList id)
  | .drain s => t.take s (t.bus.drain s)

/-- The traffic after some things were done. -/
def run (t : Traffic M) (as : List (Act M)) : Traffic M :=
  as.foldl (step copies) t

/-- The message whose publish this is, if it goes well. -/
def spreads? (t : Traffic M) : Act M → Option M
  | .publish m => if (t.bus.publish copies m).1 = .ok then some m else none
  | _ => none

/-- The messages whose publishes go well, in order. -/
def spread : Traffic M → List (Act M) → List M
  | _, [] => []
  | t, a :: as => (t.spreads? copies a).toList ++ spread (t.step copies a) as

end Traffic

/-! ## Single calls -/

section

variable {copies : M → Bool} {b : Bus M} {s x : Subscription}

/-- A change to one channel leaves the others as they are. -/
lemma getElem?_adjust (f : Channel M → Channel M) :
    (b.adjust x f).channels[s]? = if x = s then b.channels[s]?.map f else b.channels[s]? := by
  unfold adjust
  rw [List.getElem?_modify]
  split <;> simp

/-- A change to one channel is seen only by who looks at what it changes. -/
lemma any_adjust {f : Channel M → Channel M} {p : Channel M → Bool} (same : ∀ c, p (f c) = p c) :
    ((b.adjust x f).channels[s]?).any p = (b.channels[s]?).any p := by
  rw [getElem?_adjust]
  split
  · cases b.channels[s]? <;> simp [same]
  · rfl

/-- A new subscription is not seen on the others. -/
lemma any_subscribe (p : Channel M → Bool) (old : s < b.channels.length) :
    (b.subscribe.2.channels[s]?).any p = (b.channels[s]?).any p := by
  unfold subscribe
  simp only
  rw [List.getElem?_append_left old]

/-- Whoever sees something on a channel has a subscription that exists. -/
lemma lt_of_any {p : Channel M → Bool} (here : (b.channels[s]?).any p = true) :
    s < b.channels.length := by
  obtain ⟨c, here, -⟩ := (Option.any_eq_true _ _).1 here
  exact (List.getElem?_eq_some_iff.1 here).1

/-- A receive takes the first message of its channel, if there is such a channel and message. -/
lemma receive_inv (b : Bus M) (x : Subscription) :
    (b.channels[x]? = none ∧ b.receive x = (none, b)) ∨
      ∃ c, b.channels[x]? = some c ∧
        b.receive x = (c.queue.head?, b.adjust x fun c => { c with queue := c.queue.tail }) := by
  unfold receive
  cases b.channels[x]? with
  | none => exact .inl ⟨rfl, rfl⟩
  | some c => exact .inr ⟨c, rfl, rfl⟩

/-- A drain takes all messages of its channel, if there is one. -/
lemma drain_inv (b : Bus M) (x : Subscription) :
    (b.channels[x]? = none ∧ b.drain x = ([], b)) ∨
      ∃ c, b.channels[x]? = some c ∧
        b.drain x = (c.queue, b.adjust x fun c => { c with queue := [] }) := by
  unfold drain
  cases b.channels[x]? with
  | none => exact .inl ⟨rfl, rfl⟩
  | some c => exact .inr ⟨c, rfl, rfl⟩

/-- Nobody is counted just when nothing is sent on any channel. -/
lemma subscriberCount_eq_zero_iff (works : b.poisoned = false) :
    b.subscriberCount = 0 ↔ b.channels.any (·.sending) = false := by
  simp [subscriberCount, works, List.countP_eq_zero]

/-- What a publish comes to depends on the bus, on the message, and on whether there is anybody to
copy it for. -/
lemma publish_inv (copies : M → Bool) (b : Bus M) (m : M) :
    (b.poisoned = true ∧ b.publish copies m = (.poisoned, b)) ∨
      (b.poisoned = false ∧ (copies m = false ∧ b.subscriberCount ≠ 0) ∧
        b.publish copies m = (.crashed, { b with poisoned := true })) ∨
      (b.poisoned = false ∧ ¬ (copies m = false ∧ b.subscriberCount ≠ 0) ∧
        b.publish copies m = (.ok, { b with channels := b.channels.map (Channel.send m) })) := by
  unfold publish
  cases works : b.poisoned with
  | true => exact .inl ⟨rfl, rfl⟩
  | false =>
    right
    rw [Ne, subscriberCount_eq_zero_iff works]
    cases copies m <;> cases b.channels.any (·.sending) <;> simp

/-- A channel on which messages are still sent exactly if its subscriber is there. -/
lemma sending_send (m : M) {c : Channel M} (held : c.receiving = true → c.sending = true) :
    (c.send m).sending = (c.send m).receiving := by
  obtain ⟨queue, _ | _, _ | _⟩ := c
  · rfl
  · exact absurd (held rfl) nofun
  · rfl
  · rfl

/-- A message that is sent does not make a subscriber come or go. -/
lemma receiving_send (m : M) (c : Channel M) : (c.send m).receiving = c.receiving := by
  obtain ⟨queue, _ | _, _ | _⟩ := c <;> rfl

/-- The subscriptions that are alive are the channels with a subscriber. -/
lemma length_live (b : Bus M) : b.live.length = b.channels.countP (·.receiving) := by
  obtain ⟨channels, poisoned, dropped⟩ := b
  unfold live isLive
  rw [← List.countP_eq_length_filter]
  simp only
  induction channels using List.reverseRecOn with
  | nil => rfl
  | append_singleton cs c ih =>
    rw [List.length_append, List.length_singleton, List.range_succ, List.countP_append,
      List.countP_append, ← ih]
    congr 1
    · refine List.countP_congr fun s mem => ?_
      rw [List.getElem?_append_left (List.mem_range.1 mem)]
    · simp

end

/-! ## Whole runs -/

namespace Traffic

variable {copies : M → Bool} {t : Traffic M} {s : Subscription} {heard : List M}

variable (copies) in
/-- Whoever receives, on a subscription that exists, takes the first messages off its queue. -/
lemma taking_inv {a : Act M} {x : Subscription} (taking : a = .receive x ∨ a = .drain x) :
    t.step copies a = t ∨
      ∃ (c : Channel M) (f : Channel M → Channel M) (got : List M),
        t.bus.channels[x]? = some c ∧ got ++ (f c).queue = c.queue ∧
        (∀ c, (f c).receiving = c.receiving ∧ (f c).sending = c.sending) ∧
        t.step copies a = t.take x (got, t.bus.adjust x f) := by
  -- To take no message changes nothing, whoever takes it.
  have nothing : t.take x ([], t.bus) = t := by
    obtain ⟨bus, received⟩ := t
    simp only [take, Traffic.mk.injEq, true_and]
    funext s
    split
    · next same => rw [same, List.append_nil]
    · rfl
  obtain rfl | rfl := taking
  · obtain ⟨none, same⟩ | ⟨c, here, same⟩ := receive_inv t.bus x
    · left
      simpa [step, same] using nothing
    · right
      refine ⟨c, fun c => { c with queue := c.queue.tail }, c.queue.head?.toList, here, ?_,
        fun _ => ⟨rfl, rfl⟩, ?_⟩
      · show c.queue.head?.toList ++ c.queue.tail = c.queue
        cases c.queue <;> rfl
      · rw [step, same]
        rfl
  · obtain ⟨none, same⟩ | ⟨c, here, same⟩ := drain_inv t.bus x
    · left
      simpa [step, same] using nothing
    · right
      refine ⟨c, fun c => { c with queue := [] }, c.queue, here, List.append_nil _,
        fun _ => ⟨rfl, rfl⟩, ?_⟩
      rw [step, same]

/-- Nothing was received on a subscription that does not exist yet, and as long as the bus works it
holds the channels of all subscriptions that are alive. -/
structure Sound (t : Traffic M) : Prop where
  kept : t.bus.dropped = false
  fresh : ∀ s, t.bus.channels.length ≤ s → t.received s = []
  held : t.bus.poisoned = false →
    ∀ (s : Subscription) (c : Channel M), t.bus.channels[s]? = some c → c.receiving = true →
      c.sending = true

/-- A subscription is alive, and what was received on it and what is queued for it are some
messages. -/
def Holds (t : Traffic M) (s : Subscription) (heard : List M) : Prop :=
  ∃ c, t.bus.channels[s]? = some c ∧ c.receiving = true ∧ t.received s ++ c.queue = heard

/-- A bus that is new is sound. -/
lemma sound_start : Sound ({} : Traffic M) where
  kept := rfl
  fresh _ _ := rfl
  held _ _ _ here := by cases here

namespace Sound

variable (sd : Sound t)
include sd

/-- A change to one channel that leaves the bus its end leaves the traffic sound. -/
lemma adjust {x : Subscription} {f : Channel M → Channel M}
    (fewer : ∀ c, (f c).receiving = true → c.receiving = true)
    (same : ∀ c, (f c).sending = c.sending) {received : Subscription → List M}
    (fresh : ∀ s, t.bus.channels.length ≤ s → received s = []) :
    Sound { bus := t.bus.adjust x f, received } where
  kept := sd.kept
  fresh s le := by
    apply fresh s
    simpa only [Bus.adjust, List.length_modify] using le
  held works s c here alive := by
    change (t.bus.adjust x f).channels[s]? = some c at here
    rw [getElem?_adjust] at here
    split at here
    · obtain ⟨c', here', rfl⟩ := Option.map_eq_some_iff.1 here
      rw [same]
      exact sd.held works s c' here' (fewer c' alive)
    · exact sd.held works s c here alive

/-- Traffic stays sound when messages are taken off a channel. -/
lemma taking {a : Act M} {x : Subscription} (taking : a = .receive x ∨ a = .drain x) :
    Sound (t.step copies a) := by
  obtain same | ⟨c, f, got, here, -, kept, same⟩ := taking_inv copies taking
  · rw [same]
    exact sd
  · rw [same]
    refine sd.adjust (fun c alive => (kept c).1 ▸ alive) (fun c => (kept c).2) fun s le => ?_
    have lt := (List.getElem?_eq_some_iff.1 here).1
    rw [if_neg (Nat.ne_of_gt (Nat.lt_of_lt_of_le lt le))]
    exact sd.fresh s le

/-- Whatever is done, traffic stays sound. -/
lemma step (a : Act M) : Sound (t.step copies a) := by
  cases a with
  | subscribe =>
    refine ⟨sd.kept, fun s le => sd.fresh s ?_, fun works s c here alive => ?_⟩
    · simp only [Traffic.step, Bus.subscribe, List.length_append] at le
      exact Nat.le_of_add_right_le le
    · change (t.bus.channels ++ [_])[s]? = some c at here
      rw [List.getElem?_append] at here
      split at here
      · exact sd.held works s c here alive
      · obtain rfl := List.mem_singleton.1 (List.mem_of_getElem? here)
        simp [show t.bus.poisoned = false from works, sd.kept]
  | hangUp x =>
    exact sd.adjust (f := fun c => { c with receiving := false, queue := [] }) (fun _ => nofun)
      (fun _ => rfl) sd.fresh
  | publish m =>
    obtain ⟨-, same⟩ | ⟨-, -, same⟩ | ⟨works, -, same⟩ := publish_inv copies t.bus m
    all_goals simp only [Traffic.step, same]
    · exact sd
    · exact ⟨sd.kept, sd.fresh, nofun⟩
    · refine ⟨sd.kept, fun s le => sd.fresh s (by simpa using le), fun _ s c here alive => ?_⟩
      rw [List.getElem?_map] at here
      obtain ⟨c', here', rfl⟩ := Option.map_eq_some_iff.1 here
      rw [sending_send m (sd.held works s c' here')]
      exact alive
  | receive x => exact sd.taking (.inl rfl)
  | drain x => exact sd.taking (.inr rfl)

/-- However much is done, traffic stays sound. -/
lemma run (as : List (Act M)) : Sound (t.run copies as) := by
  induction as generalizing t with
  | nil => exact sd
  | cons a as ih => exact ih (sd.step a)

/-- A subscription that has just begun has received nothing. -/
lemma holds_subscribe : Holds (t.step copies .subscribe) t.bus.subscribe.1 [] := by
  refine ⟨_, List.getElem?_concat_length, rfl, ?_⟩
  rw [List.append_nil]
  exact sd.fresh _ (Nat.le_refl _)

/-- After a publish that went well the bus counts those that are alive. -/
lemma subscriberCount_eq {m : M} (ok : (t.bus.publish copies m).1 = .ok) :
    (t.bus.publish copies m).2.subscriberCount = (t.bus.publish copies m).2.live.length := by
  obtain ⟨-, same⟩ | ⟨-, -, same⟩ | ⟨works, -, same⟩ := publish_inv copies t.bus m
  · cases ok.symm.trans (congrArg Prod.fst same)
  · cases ok.symm.trans (congrArg Prod.fst same)
  · rw [same, length_live, subscriberCount]
    simp only [works, Bool.false_eq_true, if_false]
    refine List.countP_congr fun c mem => ?_
    obtain ⟨c', mem', rfl⟩ := List.mem_map.1 mem
    obtain ⟨s, here⟩ := List.mem_iff_getElem?.1 mem'
    rw [sending_send m (sd.held works s c' here)]

end Sound

namespace Holds

variable (hd : Holds t s heard)
include hd

/-- What was received and what is queued stay the same together when messages are taken. -/
lemma taking {a : Act M} {x : Subscription} (taking : a = .receive x ∨ a = .drain x) :
    Holds (t.step copies a) s heard := by
  obtain ⟨c, here, alive, same⟩ := hd
  obtain rest | ⟨c', f, got, here', parts, kept, rest⟩ := taking_inv copies taking
  · rw [rest]
    exact ⟨c, here, alive, same⟩
  · rw [rest]
    by_cases eq : x = s
    · subst eq
      cases here.symm.trans here'
      refine ⟨f c, ?_, (kept c).1.trans alive, ?_⟩
      · change (t.bus.adjust x f).channels[x]? = _
        rw [getElem?_adjust, if_pos rfl, here]
        rfl
      · simp only [take, if_true]
        rw [List.append_assoc, parts]
        exact same
    · refine ⟨c, ?_, alive, ?_⟩
      · change (t.bus.adjust x f).channels[s]? = _
        rw [getElem?_adjust, if_neg eq]
        exact here
      · simp only [take, if_neg (Ne.symm eq)]
        exact same

/-- As long as a subscriber does not hang up, it misses no publish that goes well, and gets nothing
else. -/
lemma step (sd : Sound t) {a : Act M} (stays : a ≠ .hangUp s) :
    Holds (t.step copies a) s (heard ++ (t.spreads? copies a).toList) := by
  cases a with
  | subscribe =>
    obtain ⟨c, here, alive, same⟩ := hd
    refine ⟨c, ?_, alive, same.trans (List.append_nil _).symm⟩
    exact (List.getElem?_append_left (List.getElem?_eq_some_iff.1 here).1).trans here
  | hangUp x =>
    obtain ⟨c, here, alive, same⟩ := hd
    have ne : x ≠ s := fun eq => stays (eq ▸ rfl)
    refine ⟨c, ?_, alive, same.trans (List.append_nil _).symm⟩
    change (t.bus.adjust x _).channels[s]? = _
    rw [getElem?_adjust, if_neg ne]
    exact here
  | publish m =>
    obtain ⟨-, rest⟩ | ⟨-, -, rest⟩ | ⟨works, -, rest⟩ := publish_inv copies t.bus m
    · simpa [Traffic.step, spreads?, rest] using hd
    · obtain ⟨c, here, alive, same⟩ := hd
      simp only [Traffic.step, spreads?, rest]
      exact ⟨c, here, alive, by simpa using same⟩
    · obtain ⟨c, here, alive, same⟩ := hd
      simp only [Traffic.step, spreads?, rest, if_true, Option.toList_some]
      -- On a bus that works the channel has not lost its sender.
      have sent : c.send m = { c with queue := c.queue ++ [m] } := by
        simp [Channel.send, alive, sd.held works s c here alive]
      refine ⟨c.send m, ?_, ?_, ?_⟩
      · rw [List.getElem?_map, here]
        rfl
      · rw [sent]
        exact alive
      · rw [sent, ← same, List.append_assoc]
  | receive x => simpa [spreads?] using hd.taking (.inl rfl)
  | drain x => simpa [spreads?] using hd.taking (.inr rfl)

variable (copies) in
/-- Over many acts a subscriber who does not hang up misses no publish that goes well, and gets
nothing else. -/
lemma run (sd : Sound t) {as : List (Act M)} (stays : .hangUp s ∉ as) :
    Holds (t.run copies as) s (heard ++ t.spread copies as) := by
  induction as generalizing t heard with
  | nil =>
    rw [spread, List.append_nil]
    exact hd
  | cons a as ih =>
    obtain ⟨ne, stays⟩ := not_or.1 (mt List.mem_cons.2 stays)
    rw [spread, ← List.append_assoc]
    exact ih (hd.step sd (Ne.symm ne)) (sd.step a) stays

/-- A subscription that holds messages is alive. -/
lemma isLive : t.bus.isLive s = true := by
  obtain ⟨c, here, alive, -⟩ := hd
  exact (Option.any_eq_true _ _).2 ⟨c, here, alive⟩

/-- What was received and what is queued is what was heard. -/
lemma heard_eq : t.received s ++ t.bus.queued s = heard := by
  obtain ⟨c, here, -, same⟩ := hd
  rw [queued, here]
  exact same

end Holds

variable (copies) in
/-- A subscription is alive until its subscriber hangs up. -/
lemma isLive_step (old : s < t.bus.channels.length) (a : Act M) :
    s < (t.step copies a).bus.channels.length ∧
      ((t.step copies a).bus.isLive s = true ↔ t.bus.isLive s = true ∧ a ≠ .hangUp s) := by
  -- whoever takes from a channel hangs up no channel
  have taking {x} (taking : a = .receive x ∨ a = .drain x) :
      s < (t.step copies a).bus.channels.length ∧
        (t.step copies a).bus.isLive s = t.bus.isLive s := by
    obtain same | ⟨c, f, got, -, -, kept, same⟩ := taking_inv copies taking
    · rw [same]
      exact ⟨old, rfl⟩
    · rw [same]
      exact ⟨by simpa [take, adjust] using old, any_adjust fun c => (kept c).1⟩
  cases a with
  | subscribe =>
    refine ⟨?_, ?_⟩
    · simp only [step, Bus.subscribe, List.length_append]
      exact Nat.lt_add_right _ old
    · rw [show (t.step copies .subscribe).bus.isLive s = _ from any_subscribe _ old]
      simp [isLive]
  | hangUp x =>
    refine ⟨by simpa [step, unsubscribe, adjust] using old, ?_⟩
    simp only [step, unsubscribe, isLive, getElem?_adjust, Act.hangUp.injEq, ne_eq]
    split
    · next same =>
      cases t.bus.channels[s]? <;> simp [same]
    · next other => simp [other]
  | publish m =>
    obtain ⟨-, same⟩ | ⟨-, -, same⟩ | ⟨-, -, same⟩ := publish_inv copies t.bus m
    all_goals simp only [step, same]
    · exact ⟨old, by simp⟩
    · exact ⟨old, by simp [isLive]⟩
    · refine ⟨by simpa using old, ?_⟩
      simp only [isLive, List.getElem?_map]
      cases t.bus.channels[s]? <;> simp [receiving_send]
  | receive x =>
    obtain ⟨lt, same⟩ := taking (.inl rfl)
    exact ⟨lt, by simp [same]⟩
  | drain x =>
    obtain ⟨lt, same⟩ := taking (.inr rfl)
    exact ⟨lt, by simp [same]⟩

variable (copies) in
/-- A subscription stays alive over many acts unless its subscriber hangs up in one of them. -/
lemma isLive_run (old : s < t.bus.channels.length) (as : List (Act M)) :
    (t.run copies as).bus.isLive s = true ↔ t.bus.isLive s = true ∧ .hangUp s ∉ as := by
  induction as generalizing t with
  | nil => simp [run]
  | cons a as ih =>
    obtain ⟨lt, alive⟩ := isLive_step copies old a
    rw [show t.run copies (a :: as) = (t.step copies a).run copies as from rfl, ih lt, alive,
      List.mem_cons, not_or, and_assoc, ne_comm]

variable (copies) in
/-- A broken bus stays broken, delivers nothing, and keeps its ends of the channels it holds. -/
lemma step_of_poisoned (broken : t.bus.poisoned = true) (a : Act M) :
    (t.step copies a).bus.poisoned = true ∧ t.spreads? copies a = none ∧
      ∀ s, t.bus.isConnected s = true → (t.step copies a).bus.isConnected s = true := by
  have taking {x} (taking : a = .receive x ∨ a = .drain x) :
      (t.step copies a).bus.poisoned = true ∧
        ∀ s, t.bus.isConnected s = true → (t.step copies a).bus.isConnected s = true := by
    obtain same | ⟨c, f, got, -, -, kept, same⟩ := taking_inv copies taking
    · rw [same]
      exact ⟨broken, fun _ => id⟩
    · rw [same]
      refine ⟨broken, fun s connected => ?_⟩
      exact (any_adjust fun c => (kept c).2).trans connected
  cases a with
  | subscribe =>
    refine ⟨broken, rfl, fun s connected => ?_⟩
    exact (any_subscribe _ (lt_of_any connected)).trans connected
  | hangUp x =>
    refine ⟨broken, rfl, fun s connected => ?_⟩
    exact (any_adjust (f := fun c => { c with receiving := false, queue := [] }) fun _ => rfl).trans
      connected
  | publish m =>
    obtain ⟨-, same⟩ | ⟨works, -⟩ | ⟨works, -⟩ := publish_inv copies t.bus m
    · simp only [step, spreads?, same]
      exact ⟨broken, rfl, fun _ => id⟩
    · cases works.symm.trans broken
    · cases works.symm.trans broken
  | receive x => exact ⟨(taking (.inl rfl)).1, rfl, (taking (.inl rfl)).2⟩
  | drain x => exact ⟨(taking (.inr rfl)).1, rfl, (taking (.inr rfl)).2⟩

variable (copies) in
/-- A poisoned bus stays poisoned, spreads nothing, and keeps the subscriptions that are connected.
-/
lemma run_of_poisoned (broken : t.bus.poisoned = true) (as : List (Act M)) :
    (t.run copies as).bus.poisoned = true ∧ t.spread copies as = [] ∧
      ∀ s, t.bus.isConnected s = true → (t.run copies as).bus.isConnected s = true := by
  induction as generalizing t with
  | nil => exact ⟨broken, rfl, fun _ => id⟩
  | cons a as ih =>
    obtain ⟨still, nothing, connected⟩ := step_of_poisoned copies broken a
    obtain ⟨still', nothing', connected'⟩ := ih still
    exact ⟨still', by rw [spread, nothing, nothing']; rfl, fun s => connected' s ∘ connected s⟩

/-- A message that crashes reaches nobody. -/
lemma step_of_crashed {m : M} (crash : (t.bus.publish copies m).1 = .crashed) :
    t.bus.poisoned = false ∧ (t.step copies (.publish m)).bus.poisoned = true ∧
      (t.step copies (.publish m)).bus.channels = t.bus.channels ∧
      (t.step copies (.publish m)).received = t.received := by
  obtain ⟨-, same⟩ | ⟨works, -, same⟩ | ⟨-, -, same⟩ := publish_inv copies t.bus m
  · cases crash.symm.trans (congrArg Prod.fst same)
  · simp only [step, same]
    exact ⟨works, trivial, trivial, trivial⟩
  · cases crash.symm.trans (congrArg Prod.fst same)

/-- A subscription that is alive holds what was received on it and what is queued for it. -/
lemma holds_of_isLive (alive : t.bus.isLive s = true) :
    Holds t s (t.received s ++ t.bus.queued s) := by
  obtain ⟨c, here, alive⟩ := (Option.any_eq_true _ _).1 alive
  exact ⟨c, here, alive, by rw [queued, here]; rfl⟩

/-- As long as the bus works, every subscription that is alive is connected. -/
lemma Sound.isConnected (sd : Sound t) (works : t.bus.poisoned = false)
    (alive : t.bus.isLive s = true) : t.bus.isConnected s = true := by
  obtain ⟨c, here, alive⟩ := (Option.any_eq_true _ _).1 alive
  exact (Option.any_eq_true _ _).2 ⟨c, here, sd.held works s c here alive⟩

/-- Whatever is done with a bus, in any order. On every subscription, as long as its subscriber does
not hang up, what was received and what is queued are the messages whose publishes went well since
it began, in order. After such a publish the bus counts the subscriptions that are alive. A publish
crashes if the bus works, the message cannot be copied, and there is somebody to copy it for; then
it reaches nobody. From then on no publish goes well or changes anything, and the bus counts nobody;
those who were there stay connected, with all that was queued for them, and who comes later is
disconnected from the start. -/
theorem bus_delivers (copies : M → Bool) (as : List (Act M)) :
    let t := run copies {} as
    (∀ as', let s := t.bus.subscribe.1
      let begun := t.step copies .subscribe
      let t' := begun.run copies as'
      (t'.bus.isLive s = true ↔ .hangUp s ∉ as') ∧
      (t'.bus.isLive s = true → t'.received s ++ t'.bus.queued s = begun.spread copies as')) ∧
    (∀ m, (t.bus.publish copies m).1 = .ok →
      (t.bus.publish copies m).2.subscriberCount = (t.bus.publish copies m).2.live.length) ∧
    ∀ m, ((t.bus.publish copies m).1 = .crashed ↔
        t.bus.poisoned = false ∧ copies m = false ∧ t.bus.subscriberCount ≠ 0) ∧
      ((t.bus.publish copies m).1 = .crashed →
        let crashed := t.step copies (.publish m)
        crashed.bus.channels = t.bus.channels ∧ crashed.received = t.received ∧
        ∀ as', let t' := crashed.run copies as'
          (∀ m', t'.bus.publish copies m' = (.poisoned, t'.bus)) ∧ t'.bus.subscriberCount = 0 ∧
          (∀ s, t.bus.isLive s = true → .hangUp s ∉ as' → t'.bus.isConnected s = true ∧
            t'.received s ++ t'.bus.queued s = t.received s ++ t.bus.queued s) ∧
          t'.bus.subscribe.2.isConnected t'.bus.subscribe.1 = false) := by
  intro t
  have sd : Sound t := sound_start.run as
  refine ⟨fun as' => ?_, fun m => sd.subscriberCount_eq, fun m => ⟨?_, fun crash => ?_⟩⟩
  -- Who subscribes now has heard nothing yet.
  · have hd : Holds (t.step copies .subscribe) t.bus.subscribe.1 [] := sd.holds_subscribe
    have alive := isLive_run copies (lt_of_any hd.isLive) as'
    rw [hd.isLive, eq_self_iff_true, true_and] at alive
    refine ⟨alive, fun still => ?_⟩
    exact (hd.run copies (sd.step _) (alive.1 still)).heard_eq
  · obtain ⟨broken, same⟩ | ⟨works, nobody, same⟩ | ⟨works, somebody, same⟩ :=
      publish_inv copies t.bus m
    · simp [same, broken]
    · simp [same, works, nobody]
    · simp only [same, works, true_and, reduceCtorEq, false_iff]
      exact somebody
  · intro crashed
    -- The crash left the bus poisoned, and all queues as they were.
    obtain ⟨works, broken, channels, received⟩ : _ ∧ crashed.bus.poisoned = true ∧
      crashed.bus.channels = t.bus.channels ∧ crashed.received = t.received := step_of_crashed crash
    refine ⟨channels, received, fun as' => ?_⟩
    obtain ⟨broken', nothing, connected⟩ := run_of_poisoned copies broken as'
    refine ⟨fun m' => ?_, by simp [subscriberCount, broken'], fun s alive stays => ⟨?_, ?_⟩, ?_⟩
    · simp [publish, broken']
    · apply connected s
      rw [Bus.isConnected, channels]
      exact sd.isConnected works alive
    · have alive' : crashed.bus.isLive s = true := by
        rw [isLive, channels]
        exact alive
      have heard := ((holds_of_isLive alive').run copies (sd.step _) stays).heard_eq
      rw [nothing, List.append_nil, received, queued, queued, channels] at heard
      exact heard
    · simp [subscribe, Bus.isConnected, broken']

/-- Two subscribers, of which the first hangs up between two publishes and the second receives once.
-/
def visitors : List (Act Nat) :=
  [.subscribe, .subscribe, .publish 1, .hangUp 0, .publish 2, .receive 1]

/-- The number 0 cannot be copied. Its publish crashes, and the one who is left has all that was
published before, some of it still queued. -/
theorem bus_delivers_visitors :
    let t := run (· != 0) {} visitors
    (t.bus.publish (· != 0) 0).1 = .crashed ∧ t.bus.isLive 1 = true ∧
      let t' := (t.step (· != 0) (.publish 0)).run (· != 0) [.subscribe, .publish 3]
      t'.bus.isConnected 1 = true ∧ t'.received 1 ++ t'.bus.queued 1 = [1] ++ [2] := by
  obtain ⟨-, -, all⟩ := bus_delivers (· != 0) visitors
  have crash : ((run (· != 0) {} visitors).bus.publish (· != 0) 0).1 = .crashed := by decide
  have alive : (run (· != 0) {} visitors).bus.isLive 1 = true := by decide
  obtain ⟨-, -, after⟩ := (all 0).2 crash
  obtain ⟨-, -, stay, -⟩ := after [.subscribe, .publish 3]
  exact ⟨crash, alive, stay 1 alive (by decide)⟩

end Traffic

end Outbox.Bus
