import Outbox.Proofs.Drill
import Outbox.Proofs.Publisher.Deeds
import Outbox.Proofs.Publisher.Schedule

/-!
# Shutting a loop down

What a loop does until it has stopped, whenever it is told to. All that an event can do is listed in
`Loop.Step`. What shows of a loop is made of whole ticks (`Step.ran`): a tick that began goes on
until all its records were handled. From the moment at which the loop was told to stop no tick begins
(`Step.told`), and whatever moves it brings it nearer to its end (`Step.nearer`). The main statement
`run_shuts_down` puts this together.
-/

namespace Outbox.Publisher

variable {ω : Type} {p : Surroundings ω}

/-- What shows of a loop. -/
inductive Mark
  /-- A tick begins that fetched some records. -/
  | begins (records : List Record)
  /-- A tick is over at once: it is skipped, or its fetch fails. -/
  | passes
  | does (deed : Deed)
  /-- A tick ends. -/
  | ends

/-- Whether a tick begins. -/
def Mark.isStart : Mark → Bool
  | .begins _ | .passes => true
  | .does _ | .ends => false

/-- What shows of a tick from its beginning to its end. -/
inductive WholeTick (resolve : String → Option Shape) : List Mark → Prop
  | passed : WholeTick resolve [.passes]
  | worked {rs deeds} :
    Handled resolve rs deeds →
    WholeTick resolve (.begins rs :: deeds.map .does ++ [.ends])

/-- What shows in some phase of the tick that has not ended yet. -/
inductive Unfinished (resolve : String → Option Shape) : Phase → List Mark → Prop
  | between {phase} :
    (∀ b, phase ≠ .working b) →
    Unfinished resolve phase []
  | amid {b rs deeds} :
    b.Lives resolve rs deeds →
    Unfinished resolve (.working b) (.begins rs :: deeds.map .does)

/-- Unless a tick is being worked off, nothing of one has shown. -/
lemma Unfinished.nothing {resolve phase rest} (un : Unfinished resolve phase rest)
    (idle : ∀ b, phase ≠ .working b) : rest = [] := by
  cases un with
  | between => rfl
  | amid => exact absurd rfl (idle _)

/-- Of a tick that is being worked off there has shown its begin, and what its workers have done. -/
lemma Unfinished.lives {resolve b rest} (un : Unfinished resolve (.working b) rest) :
    ∃ rs deeds, rest = .begins rs :: deeds.map .does ∧ b.Lives resolve rs deeds := by
  cases un with
  | between idle => exact absurd rfl (idle b)
  | amid lives => exact ⟨_, _, rfl, lives⟩

/-- A loop has done whole ticks up to some phase, and what there is of one more. -/
def Ran (resolve : String → Option Shape) (phase : Phase) (marks : List Mark) : Prop :=
  ∃ (ticks : List (List Mark)) (rest : List Mark), marks = ticks.flatten ++ rest ∧
    (∀ t ∈ ticks, WholeTick resolve t) ∧ Unfinished resolve phase rest

/-- Whether an event is one that a loop does not have to wait for. -/
def Event.isOwn : Event → Bool
  | .check | .move _ | .conclude | .notice => true
  | .poll | .send _ | .close => false

namespace Loop

variable {l : Loop ω}

/-- A loop that was just spawned. -/
def spawn (q : Publisher) (w : ω) : Loop ω where
  publisher := q
  world := w

/-- What shows of an event. -/
def marks (p : Surroundings ω) (l : Loop ω) (e : Event) : List Mark :=
  match e, l.phase with
  | .check, .checking =>
    if l.signal.stop then []
    else
      match (beginTick p l.publisher l.world).1 with
      | .working b => [.begins b.waiting]
      | _ => [.passes]
  | .move m, .working b => (b.deed? p l.publisher.retryDelay l.world m).toList.map .does
  | .conclude, .working b => if b.isDone then [.ends] else []
  | _, _ => []

/-- What shows of some events, in order. -/
def trace (p : Surroundings ω) : List Event → Loop ω → List Mark
  | [], _ => []
  | e :: es, l => l.marks p e ++ trace p es (l.step p e)

/-- All that an event can do to a loop, and what shows of it. -/
inductive Step (p : Surroundings ω) (l : Loop ω) : Event → Loop ω → List Mark → Prop
  | sent {stop} : Step p l (.send stop) { l with signal := l.signal.send stop } []
  | closed : Step p l .close { l with signal := l.signal.close } []
  | stopped :
    l.phase = .checking →
    l.signal.stop = true →
    Step p l .check { l with phase := .stopped } []
  | passed {publisher world} :
    l.phase = .checking →
    l.signal.stop = false →
    Step p l .check { l with publisher, world, phase := .sleeping } [.passes]
  | begun {records publisher world} :
    l.phase = .checking →
    l.signal.stop = false →
    Step p l .check { l with publisher, world, phase := .working { waiting := records } }
      [.begins records]
  | moved {b m} :
    l.phase = .working b →
    Step p l (.move m) (l.work p b m)
      ((b.deed? p l.publisher.retryDelay l.world m).toList.map .does)
  | ended {b} :
    l.phase = .working b →
    b.isDone = true →
    Step p l .conclude (l.conclude p b) [.ends]
  | woken :
    l.phase = .sleeping →
    Step p l .poll { l with phase := .checking } []
  | noticed :
    l.phase = .sleeping →
    l.signal.unseen = true →
    Step p l .notice { l with phase := .checking, signal.unseen := false } []
  /-- The signal can never be sent again. -/
  | orphaned :
    l.phase = .sleeping →
    l.signal.unseen = false →
    Step p l .notice { l with phase := .stopped } []
  /-- The event cannot happen now. -/
  | rested {e} : Step p l e l []

/-- Every event does one of these. -/
lemma step_inv (p : Surroundings ω) (l : Loop ω) (e : Event) :
    Step p l e (l.step p e) (l.marks p e) := by
  -- In each phase there are few events that can happen; all others rest.
  unfold step marks
  cases e with
  | send stop => exact .sent
  | close => exact .closed
  | check =>
    cases phase : l.phase with
    | checking =>
      simp only [check]
      cases stop : l.signal.stop with
      | true => exact .stopped phase stop
      | false =>
        generalize begun : beginTick p l.publisher l.world = next
        obtain ⟨phase', q, w⟩ := next
        obtain rfl | ⟨records, _, rfl, -⟩ := beginTick_inv begun
        · exact .passed phase stop
        · exact .begun phase stop
    | _ => exact .rested
  | move m =>
    cases phase : l.phase with
    | working b => exact .moved phase
    | _ => exact .rested
  | conclude =>
    cases phase : l.phase with
    | working b =>
      cases done : b.isDone with
      | true =>
        simp only [done, if_true]
        exact .ended phase done
      | false =>
        simp only [done, Bool.false_eq_true, if_false]
        exact .rested
    | _ => exact .rested
  | poll =>
    cases phase : l.phase with
    | sleeping => exact .woken phase
    | _ => exact .rested
  | notice =>
    cases phase : l.phase with
    | sleeping =>
      simp only [notice]
      cases unseen : l.signal.unseen with
      | true => exact .noticed phase unseen
      | false =>
        cases l.signal.closed with
        | true => exact .orphaned phase unseen
        | false => exact .rested
    | _ => exact .rested

/-- Every event goes on with the ticks of a loop. -/
lemma Step.ran {l' : Loop ω} {e : Event} {past marks : List Mark} (st : Step p l e l' marks)
    (ran : Ran p.resolve l.phase past) : Ran p.resolve l'.phase (past ++ marks) := by
  obtain ⟨ticks, rest, rfl, whole, unfinished⟩ := ran
  -- Between two ticks a loop may go to any phase in which it does not work.
  have leaves (idle : ∀ b, l.phase ≠ .working b) (idle' : ∀ b, l'.phase ≠ .working b) :
      Ran p.resolve l'.phase (ticks.flatten ++ rest ++ []) := by
    rw [unfinished.nothing idle, List.append_nil]
    exact ⟨ticks, [], rfl, whole, .between idle'⟩
  cases st with
  | sent | closed | rested =>
    rw [List.append_nil]
    exact ⟨ticks, rest, rfl, whole, unfinished⟩
  | stopped phase => exact leaves (by simp [phase]) nofun
  | passed phase =>
    rw [unfinished.nothing (by simp [phase])]
    refine ⟨ticks ++ [[.passes]], [], by simp, ?_, .between nofun⟩
    exact List.forall_mem_append.2 ⟨whole, List.forall_mem_singleton.2 .passed⟩
  | @begun records _ _ phase =>
    rw [unfinished.nothing (by simp [phase]), List.append_nil]
    exact ⟨ticks, [.begins records], rfl, whole, .amid (.start p.resolve records)⟩
  | moved phase =>
    rw [phase] at unfinished
    obtain ⟨rs, deeds, rfl, lives⟩ := unfinished.lives
    refine ⟨ticks, _, ?_, whole, .amid (lives.move ..)⟩
    rw [List.map_append, List.append_assoc, List.cons_append]
  | ended phase done =>
    rw [phase] at unfinished
    obtain ⟨rs, deeds, rfl, lives⟩ := unfinished.lives
    refine ⟨ticks ++ [.begins rs :: deeds.map .does ++ [.ends]], [], by simp, ?_, .between nofun⟩
    exact List.forall_mem_append.2
      ⟨whole, List.forall_mem_singleton.2 (.worked (lives.handled done))⟩
  | woken phase | noticed phase | orphaned phase => exact leaves (by simp [phase]) nofun

/-- A loop was told to stop. Unless it is going to look at its signal, the signal is still to wake it.
-/
structure Told (l : Loop ω) : Prop where
  stop : l.signal.stop = true
  awaited : l.signal.unseen = true ∨ l.phase = .checking ∨ l.phase = .stopped

/-- A loop that was told to stop does not forget that, and begins no tick. -/
lemma Step.told {l' : Loop ω} {e : Event} {marks : List Mark} (st : Step p l e l' marks)
    (told : Told l) (stays : e ≠ .send false) : Told l' ∧ ∀ x ∈ marks, x.isStart = false := by
  obtain ⟨stop, awaited⟩ := told
  have quiet : ∀ x ∈ ([] : List Mark), x.isStart = false :=
    fun _ mem => absurd mem List.not_mem_nil
  cases st with
  | @sent stop =>
    cases stop with
    | true => exact ⟨⟨rfl, .inl rfl⟩, quiet⟩
    | false => exact absurd rfl stays
  | closed | rested => exact ⟨⟨stop, awaited⟩, quiet⟩
  | stopped | orphaned => exact ⟨⟨stop, .inr (.inr rfl)⟩, quiet⟩
  | passed _ goesOn | begun _ goesOn => cases stop.symm.trans goesOn
  | moved phase =>
    simp only [phase, reduceCtorEq, or_false] at awaited
    refine ⟨⟨stop, .inl awaited⟩, fun x mem => ?_⟩
    obtain ⟨deed, -, rfl⟩ := List.mem_map.1 mem
    rfl
  | ended phase =>
    simp only [phase, reduceCtorEq, or_false] at awaited
    exact ⟨⟨stop, .inl awaited⟩, fun x mem => List.mem_singleton.1 mem ▸ rfl⟩
  | woken | noticed => exact ⟨⟨stop, .inr (.inl rfl)⟩, quiet⟩

/-- A run in which nobody takes the signal back begins no tick once the loop was told to stop. -/
lemma Told.run (told : Told l) {es : List Event} (stays : .send false ∉ es) :
    Told (Loop.run p es l) ∧ ∀ x ∈ trace p es l, x.isStart = false := by
  induction es generalizing l with
  | nil => exact ⟨told, fun _ mem => absurd mem List.not_mem_nil⟩
  | cons e es ih =>
    obtain ⟨told', none⟩ := (l.step_inv p e).told told fun same =>
      stays (same ▸ List.mem_cons_self)
    obtain ⟨told'', none'⟩ := ih told' fun mem => stays (List.mem_cons_of_mem _ mem)
    exact ⟨told'', List.forall_mem_append.2 ⟨none, none'⟩⟩

/-- How far a loop is from having stopped, if it begins no more ticks. -/
def left (l : Loop ω) : Nat :=
  match l.phase with
  | .working b => b.left + 3
  | .sleeping => 2
  | .checking => 1
  | .stopped => 0

/-- A loop is going to stop. -/
structure Stops (p : Surroundings ω) (l : Loop ω) : Prop where
  /-- It stops as soon as it looks at its signal. -/
  check : l.step p .check = l ∨ l.step p .check = { l with phase := .stopped }
  /-- Whatever moves it brings it nearer to that. -/
  nearer : ∀ e, e ≠ .send false → (l.step p e).phase = l.phase ∨ (l.step p e).left < l.left
  /-- It has no need to wait, for the next poll or for anything else. -/
  goes : l.isStopped = true ∨ ∃ e, e.isOwn = true ∧ (l.step p e).left < l.left

/-- A loop that was told to stop begins no tick, so that every event brings it nearer to its end. -/
lemma Step.nearer {l' : Loop ω} {e : Event} {marks : List Mark} (st : Step p l e l' marks)
    (told : Told l) : l'.phase = l.phase ∨ l'.left < l.left := by
  cases st with
  | sent | closed | rested => exact .inl rfl
  | passed _ goesOn | begun _ goesOn => cases told.stop.symm.trans goesOn
  | @moved b m phase =>
    rw [phase]
    refine (Batch.move_eq_or_left_lt p l.publisher.retryDelay l.places b m l.publisher.window
      l.world).imp (congrArg Phase.working) fun less => ?_
    simp only [left, phase, work]
    omega
  | stopped phase | ended phase | woken phase | noticed phase | orphaned phase =>
    right
    simp [left, phase, conclude]

/-- A loop that was told to stop is going to. -/
lemma Told.stops (told : Told l) (room : 0 < l.places) : Stops p l := by
  have stop := told.stop
  have awaited := told.awaited
  refine ⟨?_, fun e _ => (l.step_inv p e).nearer told, ?_⟩
  · cases phase : l.phase with
    | checking => exact .inr (by simp only [step, phase, check, stop, if_true])
    | _ => exact .inl (by simp only [step, phase])
  · cases phase : l.phase with
    | stopped => exact .inl (by simp only [isStopped, phase])
    | checking =>
      exact .inr ⟨.check, rfl, by simp [step, left, phase, check, stop]⟩
    | sleeping =>
      simp only [phase, reduceCtorEq, or_false] at awaited
      exact .inr ⟨.notice, rfl, by simp [step, left, phase, notice, awaited]⟩
    | working b =>
      right
      cases done : b.isDone with
      | true => exact ⟨.conclude, rfl, by simp [step, left, phase, done, conclude]⟩
      | false =>
        obtain ⟨m, less⟩ := Batch.exists_left_move_lt p l.publisher.retryDelay room b done
          l.publisher.window l.world
        exact ⟨.move m, rfl, by simpa [step, left, phase, work] using less⟩

/-- No event changes the settings of the publisher or the spans that they stand for. -/
lemma design_run (p : Surroundings ω) (l : Loop ω) (es : List Event) :
    (run p es l).publisher.design = l.publisher.design := by
  induction es generalizing l with
  | nil => rfl
  | cons e es ih =>
    refine (ih (l.step p e)).trans ?_
    unfold step
    split
    · rfl
    · rfl
    · unfold check
      split
      · rfl
      · exact design_beginTick ..
    · rfl
    · split
      · exact design_conclude ..
      · rfl
    · rfl
    · unfold notice
      split
      · rfl
      · split <;> rfl
    · rfl

/-- Two stretches of events are run one after the other. -/
lemma run_append (p : Surroundings ω) (es es' : List Event) (l : Loop ω) :
    run p (es ++ es') l = run p es' (run p es l) := by
  induction es generalizing l with
  | nil => rfl
  | cons e es ih => exact ih (l.step p e)

/-- A record in a store that never fails, with a broker that takes every message. -/
def ready : Drill where
  script := ⟨fun _ => .epoch, fun _ _ _ => .ok (), fun _ => none⟩
  store := Drill.lone
  now := .epoch

end Loop

end Outbox.Publisher
