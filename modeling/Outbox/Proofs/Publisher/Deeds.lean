import Outbox.Proofs.Publisher.Batch

/-!
# What workers do

A worker does at most two things that others can see: it publishes the message of its record, and it
writes what became of the record. `Life` says what it has done at each stage. The workers of a batch
do all this in any order that keeps the order of each of them, and when the batch is done no life is
left unfinished (`Batch.Lives.handled`).
-/

namespace Outbox

/-- Some lists shuffled into one, in which each of them keeps its order. -/
inductive Shuffle {α : Type} : List (List α) → List α → Prop
  | empty {xss} : (∀ xs ∈ xss, xs = []) → Shuffle xss []
  /-- One of the lists goes on. -/
  | next {before xs behind ys x} :
    Shuffle (before ++ xs :: behind) ys →
    Shuffle (before ++ (xs ++ [x]) :: behind) (ys ++ [x])

namespace Shuffle

variable {α : Type} {xss : List (List α)} {ys : List α}

/-- An empty list adds nothing. -/
lemma nil_cons (sh : Shuffle xss ys) : Shuffle ([] :: xss) ys := by
  induction sh with
  | empty none =>
    refine .empty fun xs mem => ?_
    obtain rfl | mem := List.mem_cons.1 mem
    · rfl
    · exact none xs mem
  | @next before xs behind ys x _ ih =>
    have sh : Shuffle (([] :: before) ++ xs :: behind) ys := ih
    exact sh.next

/-- Where one of the lists goes on by what may be one more element, so does the shuffle. -/
lemma append {before behind : List (List α)} {xs : List α}
    (sh : Shuffle (before ++ xs :: behind) ys) (new : Option α) :
    Shuffle (before ++ (xs ++ new.toList) :: behind) (ys ++ new.toList) := by
  cases new with
  | none => simpa using sh
  | some x => exact .next sh

end Shuffle

namespace Publisher

/-- What a worker does for its record, with the answer to it. -/
inductive Deed
  | publish (id : Identifier) (m : Message) (s : Shape) (answer : Answer Broker.Error Unit)
  | write (id : Identifier) (fate : Fate) (answer : Answer Store.Error Unit)

variable {ω : Type} {p : Surroundings ω} {delay : Time.Span}

/-- What a worker does in its next step at some stage. -/
def Stage.deed? (p : Surroundings ω) (delay : Time.Span) (id : Identifier) (w : ω) :
    Stage → Option Deed
  | .publishing m s => some (.publish id m s (p.publish m s w).1)
  | .writing fate _ => some (.write id fate (p.write delay id fate w).1)
  | .looking | .remembering | .finished _ => none

/-- What a worker has done for its record when it reaches a stage. Nothing but a crash of the broker
comes between a publish and the write after it. -/
inductive Life (resolve : String → Option Shape) (r : Record) : List Deed → Stage → Prop
  | looking : Life resolve r [] .looking
  | known : Life resolve r [] (.writing .processed false)
  | doomed {reason} :
    route resolve r = .writing (.failed reason) false →
    Life resolve r [] (.writing (.failed reason) false)
  | publishing {m s} :
    route resolve r = .publishing m s →
    Life resolve r [] (.publishing m s)
  | taken {m s} :
    route resolve r = .publishing m s →
    Life resolve r [.publish r.id m s (.ok ())] .remembering
  | remembered {m s} :
    route resolve r = .publishing m s →
    Life resolve r [.publish r.id m s (.ok ())] (.writing .processed true)
  | refused {m s e} :
    route resolve r = .publishing m s →
    Life resolve r [.publish r.id m s (.error e)] (.writing (.retry e.message) false)
  | crashed {m s} :
    route resolve r = .publishing m s →
    Life resolve r [.publish r.id m s .crash] (.finished .crash)
  | written {deeds fate published answer} :
    Life resolve r deeds (.writing fate published) →
    Life resolve r (deeds ++ [.write r.id fate answer])
      (.finished (answer.map fun () => fate.outcome published))

namespace Life

variable {r : Record} {deeds : List Deed} {stage stage' : Stage}

/-- A record that is not known goes where its tag and its payload lead. -/
lemma routed (resolve : String → Option Shape) (r : Record) :
    Life resolve r [] (route resolve r) := by
  obtain ⟨reason, routed⟩ | ⟨m, s, -, -, routed⟩ := route_inv resolve r
  · rw [routed]
    exact .doomed routed
  · rw [routed]
    exact .publishing routed

/-- A step of a worker goes on with its life. -/
lemma step {win win' : Option Window} {w w' : ω} (life : Life p.resolve r deeds stage)
    (st : Worker.Step p delay r stage win w stage' win' w') :
    Life p.resolve r (deeds ++ (stage.deed? p delay r.id w).toList) stage' := by
  cases st with
  | skipped | unknown =>
    cases life with | looking =>
    exact routed p.resolve r
  | known =>
    cases life with | looking =>
    exact .known
  | taken pub =>
    cases life with | publishing routed =>
    simp only [Stage.deed?, pub]
    exact .taken routed
  | refused pub =>
    cases life with | publishing routed =>
    simp only [Stage.deed?, pub]
    exact .refused routed
  | crashed pub =>
    cases life with | publishing routed =>
    simp only [Stage.deed?, pub]
    exact .crashed routed
  | forgotten | remembered =>
    cases life with | taken routed =>
    exact .remembered routed
  | written wr =>
    simp only [Stage.deed?, wr]
    exact .written life
  | rested =>
    rw [Stage.deed?, Option.toList_none, List.append_nil]
    exact life

end Life

/-- Some records were handled: each of them by one worker, from its first step to its outcome. -/
def Handled (resolve : String → Option Shape) (rs : List Record) (deeds : List Deed) : Prop :=
  ∃ lives : List (Record × List Deed × Answer Store.Error Outcome),
    (lives.map fun x => x.1).Perm rs ∧
    (∀ x ∈ lives, Life resolve x.1 x.2.1 (.finished x.2.2)) ∧
    Shuffle (lives.map fun x => x.2.1) deeds

namespace Batch

/-- What a worker does in a move of its batch. -/
def deed? (p : Surroundings ω) (delay : Time.Span) (b : Batch) (w : ω) : Move → Option Deed
  | .start => none
  | .advance i => b.active[i]?.bind fun k => k.stage.deed? p delay k.record.id w

/-- Each record of a batch waits or has a worker, and these have done what led to their stages. -/
structure Lives (resolve : String → Option Shape) (rs : List Record) (deeds : List Deed)
    (b : Batch) : Prop where
  sorted : b.Sorted
  records : (b.waiting ++ b.workers.map Worker.record).Perm rs
  lives : ∃ lives : List (Worker × List Deed), (lives.map Prod.fst).Perm b.workers ∧
    (∀ x ∈ lives, Life resolve x.1.record x.2 x.1.stage) ∧ Shuffle (lives.map Prod.snd) deeds

namespace Lives

variable {resolve : String → Option Shape} {rs : List Record} {deeds : List Deed} {b b' : Batch}
  {win win' : Option Window} {w w' : ω}

/-- At the beginning of a batch all its records wait. -/
lemma start (resolve : String → Option Shape) (rs : List Record) :
    Lives resolve rs [] { waiting := rs } where
  sorted := sorted_waiting rs
  records := .of_eq (List.append_nil _)
  lives := ⟨[], .nil, fun _ mem => absurd mem List.not_mem_nil,
    .empty fun _ mem => absurd mem List.not_mem_nil⟩

/-- A worker that begins has done nothing yet. -/
lemma begin (ls : Lives resolve rs deeds b) (places : Nat) :
    Lives resolve rs deeds (b.start places) := by
  obtain same | ⟨sorted, r, waiting, workers⟩ := start_workers ls.sorted places
  · exact same.symm ▸ ls
  · obtain ⟨lives, all, each, shuffle⟩ := ls.lives
    refine ⟨sorted, ?_, ({ record := r }, []) :: lives, ?_, ?_, shuffle.nil_cons⟩
    · have records := ls.records
      rw [waiting] at records
      exact ((workers.map _).append_left _).trans (List.perm_middle.trans records)
    · exact (all.cons _).trans workers.symm
    · exact List.forall_mem_cons.2 ⟨.looking, each⟩

/-- A step of a worker adds what the worker did in it to its own life and to the deeds of the batch.
-/
lemma advance (ls : Lives p.resolve rs deeds b) {i : Nat}
    (st : b.advance p delay i win w = (b', win', w')) :
    Lives p.resolve rs (deeds ++ (b.deed? p delay w (.advance i)).toList) b' := by
  obtain ⟨none, rfl, -, -⟩ | ⟨sorted, waiting, k, k', others, here, before, after, same, st⟩ :=
    advance_workers ls.sorted st
  · simpa [deed?, none] using ls
  · obtain ⟨lives, all, each, shuffle⟩ := ls.lives
    obtain ⟨⟨k, ds⟩, mem, rfl⟩ := List.mem_map.1
      (all.mem_iff.2 (before.mem_iff.2 List.mem_cons_self))
    -- the life of the worker that stepped is taken out, and put back with what it did
    obtain ⟨front, back, rfl⟩ := List.append_of_mem mem
    generalize new : b.deed? p delay w (.advance i) = deed
    have new : k.stage.deed? p delay k.record.id w = deed := by
      rw [← new, deed?, here]
      rfl
    refine ⟨sorted, ?_, front ++ (k', ds ++ deed.toList) :: back, ?_, ?_, ?_⟩
    · rw [waiting]
      refine .trans (.append_left _ ((after.map _).trans (.trans ?_ (before.map _).symm))) ls.records
      rw [List.map_cons, List.map_cons, same]
    · have rest : ((front ++ back).map Prod.fst).Perm others := by
        refine List.Perm.cons_inv (a := k) (.trans ?_ (all.trans before))
        simp only [List.map_append, List.map_cons]
        exact List.perm_middle.symm
      simp only [List.map_append, List.map_cons] at rest ⊢
      exact List.perm_middle.trans ((rest.cons k').trans after.symm)
    · intro x mem'
      obtain mem' | mem' := List.mem_append.1 mem'
      · exact each x (List.mem_append_left _ mem')
      · obtain rfl | mem' := List.mem_cons.1 mem'
        · have life := (each _ mem).step st
          rwa [new, ← same] at life
        · exact each x (List.mem_append_right _ (List.mem_cons_of_mem _ mem'))
    · rw [List.map_append, List.map_cons] at shuffle ⊢
      exact shuffle.append _

/-- Every move of a batch adds what was done in it to the lives of its workers. -/
lemma move (ls : Lives p.resolve rs deeds b) (delay : Time.Span) (places : Nat) (m : Move)
    (win : Option Window) (w : ω) :
    Lives p.resolve rs (deeds ++ (b.deed? p delay w m).toList)
      (b.move p delay places m win w).1 := by
  cases m with
  | start =>
    rw [deed?, Option.toList_none, List.append_nil]
    exact ls.begin places
  | advance i => exact ls.advance (rfl : b.advance p delay i win w = _)

/-- In a batch that is done all records were handled. -/
lemma handled (ls : Lives resolve rs deeds b) (done : b.isDone = true) :
    Handled resolve rs deeds := by
  obtain ⟨waiting, workers⟩ := workers_of_isDone done
  obtain ⟨lives, all, each, shuffle⟩ := ls.lives
  have records := ls.records
  rw [waiting, List.nil_append] at records
  refine ⟨lives.map fun x => (x.1.record, x.2, x.1.result?.getD .crash), ?_, fun y mem => ?_, ?_⟩
  · rw [List.map_map]
    refine .trans ?_ ((all.map Worker.record).trans records)
    rw [List.map_map]
    rfl
  · obtain ⟨⟨⟨r, stage⟩, ds⟩, here, rfl⟩ := List.mem_map.1 mem
    have fin := ls.sorted.finished _ (workers ▸ all.mem_iff.1 (List.mem_map_of_mem here))
    cases stage with
    | finished result => exact each _ here
    | _ => cases fin
  · rw [List.map_map]
    exact shuffle

end Lives

end Batch

end Publisher

end Outbox
