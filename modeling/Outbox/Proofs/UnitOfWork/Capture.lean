import Mathlib.Data.List.Forall2
import Mathlib.Tactic.Lemma
import Outbox.UnitOfWork

/-!
# What units of work write, in whatever world

The parts of a commit do not depend on the world around the storage, and what they write depends on
what is tracked and queued alone.

## From one world to another

When every call of a storage is carried from one world to another, so is everything that a unit of
work does with it. This is used to forget a part of the world that no answer depends on.
-/

namespace Outbox.UnitOfWork

variable {ω ω' τ : Type}

/-- A map between worlds carries the calls of one storage to those of another. -/
structure Storage.Carries (p : Storage ω τ) (p' : Storage ω' τ) (f : ω → ω') : Prop where
  clock : ∀ w, p'.clock (f w) = (p.clock w).map id f
  fresh : ∀ w, p'.fresh (f w) = (p.fresh w).map id f
  start : ∀ w, p'.start (f w) = (p.start w).map id f
  save : ∀ e t w, p'.save e t (f w) = (p.save e t w).map id (Prod.map id f)
  append : ∀ r t w, p'.append r t (f w) = (p.append r t w).map id (Prod.map id f)
  commit : ∀ t w, p'.commit t (f w) = (p.commit t w).map id f
  rollback : ∀ t w, p'.rollback t (f w) = (p.rollback t w).map id f
  announce : ∀ n w, p'.announce n (f w) = f (p.announce n w)

/-- Calls that are carried one by one are carried together. -/
lemma carries_eachUntilError {α : Type} {f : ω → ω'}
    {call : α → τ → ω → Except Store.Error Unit × τ × ω}
    {call' : α → τ → ω' → Except Store.Error Unit × τ × ω'}
    (carried : ∀ a t w, call' a t (f w) = (call a t w).map id (Prod.map id f)) (as t w) :
    eachUntilError call' as t (f w) = (eachUntilError call as t w).map id (Prod.map id f) := by
  induction as generalizing t w with
  | nil => rfl
  | cons a as ih =>
    unfold eachUntilError
    rw [carried]
    generalize call a t w = called
    obtain ⟨_ | _, t', w'⟩ := called
    · rfl
    · exact ih t' w'

namespace Storage.Carries

variable {p : Storage ω τ} {p' : Storage ω' τ} {f : ω → ω'} (cr : p.Carries p' f)
include cr

/-- Staging is carried, as all that a unit of work does with calls that are carried. -/
lemma stage (es rs t w) :
    UnitOfWork.stage p' es rs t (f w) = (UnitOfWork.stage p es rs t w).map id (Prod.map id f) := by
  unfold UnitOfWork.stage
  rw [carries_eachUntilError cr.save]
  generalize eachUntilError p.save es t w = saved
  obtain ⟨_ | _, t', w'⟩ := saved
  · rfl
  · exact carries_eachUntilError cr.append rs t' w'

/-- Numbering drafts is carried. -/
lemma number (now ds w) :
    UnitOfWork.number p' now ds (f w) = (UnitOfWork.number p now ds w).map id f := by
  induction ds generalizing w with
  | nil => rfl
  | cons d ds ih =>
    unfold UnitOfWork.number
    rw [cr.fresh]
    simp only [Prod.map, ih, id]

/-- Opening a transaction is carried. -/
lemma ensureOpen (u : UnitOfWork τ) (w) :
    u.ensureOpen p' (f w) = (u.ensureOpen p w).map id f := by
  unfold UnitOfWork.ensureOpen
  split
  · rfl
  · exact cr.start w

/-- To begin is carried. -/
lemma begin (u : UnitOfWork τ) (w) :
    u.begin p' (f w) = (u.begin p w).map id (Prod.map id f) := by
  unfold UnitOfWork.begin
  rw [cr.ensureOpen]
  generalize u.ensureOpen p w = opened
  obtain ⟨_ | _, w'⟩ := opened <;> rfl

/-- Writing down what is staged is carried. -/
lemma write (u : UnitOfWork τ) (es rs w) :
    u.write p' es rs (f w) = (u.write p es rs w).map id (Prod.map id f) := by
  unfold UnitOfWork.write
  rw [cr.ensureOpen]
  generalize u.ensureOpen p w = opened
  obtain ⟨_ | t, w₁⟩ := opened
  · rfl
  simp only [Prod.map, id]
  rw [cr.stage]
  generalize UnitOfWork.stage p es rs t w₁ = staged
  obtain ⟨_ | _, t₂, w₂⟩ := staged
  · rfl
  show (Except.mapError Error.commit (p'.commit t₂ (f w₂)).1, _, (p'.commit t₂ (f w₂)).2) = _
  rw [cr.commit]
  rfl

/-- Giving up a transaction is carried. -/
lemma abort (u : UnitOfWork τ) (w) : u.abort p' (f w) = (u.abort p w).map id f := by
  unfold UnitOfWork.abort
  split
  · rfl
  · rw [cr.rollback]
    rfl

/-- Announcing messages one after another is carried. -/
lemma announcements (ns : List Notice) (w) :
    ns.foldl (fun w n => p'.announce n w) (f w) = f (ns.foldl (fun w n => p.announce n w) w) := by
  induction ns generalizing w with
  | nil => rfl
  | cons n ns ih => rw [List.foldl_cons, cr.announce, ih, List.foldl_cons]

/-- An attempt to commit is carried. -/
lemma tryCommit (u : UnitOfWork τ) (table w) :
    u.tryCommit p' table (f w) =
      (u.tryCommit p table w).map id (Prod.map id (Prod.map id f)) := by
  unfold UnitOfWork.tryCommit
  rw [cr.clock]
  generalize p.clock w = reading
  obtain ⟨now, w₁⟩ := reading
  simp only [Prod.map, id]
  split
  · rw [cr.abort]
    rfl
  · next es ds _ =>
    rw [cr.number]
    generalize UnitOfWork.number p now ds w₁ = numbered
    obtain ⟨rs, w₂⟩ := numbered
    simp only [Prod.map, id]
    rw [cr.write]
    generalize u.write p es rs w₂ = written
    obtain ⟨_ | _, u', w₃⟩ := written
    · simp only [Prod.map, id]
      rw [cr.abort]
      rfl
    · simp only [Prod.map, id]
      rw [cr.announcements]

/-- Rolling back is carried. -/
lemma giveUp (u : UnitOfWork τ) (w) :
    u.rollback p' (f w) = (u.rollback p w).map id (Prod.map id f) := by
  unfold UnitOfWork.rollback
  rw [cr.abort]
  rfl

end Storage.Carries

end Outbox.UnitOfWork

/-!
## What a commit writes

A capture that goes through has one entity for each tracked aggregate and one draft for each pending
message, both in order (`capture_ok`); one that fails does so with the first of all faults in that
order (`reports_capture`). Numbering the drafts makes them the records of the messages
(`forall₂_number`).
-/

namespace Outbox

/-- A list is mapped to what its items are mapped to, if none of them fails. -/
lemma forall₂_of_mapM {ε α β : Type} {f : α → Except ε β} {as : List α} {bs : List β}
    (done : as.mapM f = .ok bs) : List.Forall₂ (fun a b => f a = .ok b) as bs := by
  induction as generalizing bs with
  | nil =>
    cases done
    exact .nil
  | cons a as ih =>
    rw [List.mapM_cons] at done
    generalize here : f a = mapped at done
    generalize rest : as.mapM f = others at done
    cases mapped with
    | error => cases done
    | ok b =>
      cases others with
      | error => cases done
      | ok bs =>
        cases done
        exact .cons here (ih rest)

/-- The faults of a computation: none if it goes through, and else it fails with the first one. -/
def Reports {ε α : Type} (faults : List ε) : Except ε α → Prop
  | .ok _ => faults = []
  | .error e => faults.head? = some e

/-- Of two computations one after the other the faults of the first count first. -/
lemma Reports.bind {ε α β : Type} {fs gs : List ε} {x : Except ε α} {k : α → Except ε β}
    (first : Reports fs x) (rest : ∀ a, Reports gs (k a)) : Reports (fs ++ gs) (x >>= k) := by
  cases x with
  | ok a =>
    cases first
    exact rest a
  | error e =>
    show (fs ++ gs).head? = some e
    rw [List.head?_append, show fs.head? = some e from first, Option.some_or]

/-- A list is mapped with the faults of its items, one after the other. -/
lemma reports_mapM {ε α β : Type} {f : α → Except ε β} {faults : α → List ε}
    (each : ∀ a, Reports (faults a) (f a)) (as : List α) :
    Reports (as.flatMap faults) (as.mapM f) := by
  induction as with
  | nil => exact rfl
  | cons a as ih =>
    rw [List.mapM_cons, List.flatMap_cons]
    refine (each a).bind fun b => ?_
    rw [← List.append_nil (as.flatMap faults)]
    exact ih.bind fun bs => rfl

/-- What an aggregate is saved as. -/
structure Aggregate.SavedAs (a : Aggregate) (e : Entity) : Prop where
  type : e.aggregateType = a.typeName
  id : e.aggregateId = a.id
  version : e.version = a.version
  state : a.state = .ok e.state

namespace UnitOfWork

variable {ω τ : Type} {table : Aggregate.Table}

/-- A draft has the tag and the payload of its message. -/
lemma Draft.of_ok {m : Message} {d : Draft} (drafted : Draft.of m = .ok d) :
    d.typeTag = m.tag ∧ m.payload = .ok d.payload := by
  unfold Draft.of at drafted
  split at drafted
  · next written =>
    cases drafted
    exact ⟨rfl, written⟩
  · cases drafted

/-- The capture of an aggregate is its entity and the drafts of its events. -/
lemma captureAggregate_ok {a : Aggregate} {e : Entity × List Draft}
    (captured : captureAggregate a = .ok e) :
    a.SavedAs e.1 ∧ List.Forall₂ (fun m d => Draft.of m = .ok d) a.events.toList e.2 := by
  unfold captureAggregate at captured
  split at captured
  · cases captured
  · next state written =>
    generalize mapped : a.events.toList.mapM Draft.of = drafts at captured
    cases drafts with
    | error => cases captured
    | ok drafts =>
      cases captured
      exact ⟨⟨rfl, rfl, rfl, written⟩, forall₂_of_mapM mapped⟩

/-- The capture of a unit of work is the entities of what it tracks and the drafts of what is
pending. -/
lemma capture_ok {u : UnitOfWork τ} {es ds} (captured : u.capture table = .ok (es, ds)) :
    List.Forall₂ (fun h e => (table h).SavedAs e) u.tracked es ∧
      List.Forall₂ (fun m d => Draft.of m = .ok d) (u.pending table) ds := by
  unfold capture at captured
  generalize saved : u.tracked.mapM (fun h => captureAggregate (table h)) = parts at captured
  generalize drafted : u.queued.mapM Draft.of = drafts at captured
  cases parts with
  | error => cases captured
  | ok parts =>
    cases drafts with
    | error => cases captured
    | ok drafts =>
      cases captured
      have saved := (forall₂_of_mapM saved).imp fun _ _ => captureAggregate_ok
      refine ⟨?_, List.rel_append (List.rel_flatMap saved fun _ _ part => part.2) ?_⟩
      · exact List.forall₂_map_right_iff.2 (saved.imp fun _ _ part => part.1)
      · exact forall₂_of_mapM drafted

/-- Why a message cannot be recorded. -/
def messageFaults (m : Message) : List Error :=
  match m.payload with
  | .ok _ => []
  | .error cause => [.serialization m.tag cause]

/-- Why the state of an aggregate cannot be saved. -/
def stateFaults (a : Aggregate) : List Error :=
  match a.state with
  | .ok _ => []
  | .error cause => [.snapshot a.typeName cause]

/-- All that a commit cannot write down, in order: for each aggregate that is tracked its state and
then its events, and at last what is queued. -/
def faults (u : UnitOfWork τ) (table : Aggregate.Table) : List Error :=
  (u.tracked.flatMap fun h =>
    stateFaults (table h) ++ (table h).events.toList.flatMap messageFaults) ++
  u.queued.flatMap messageFaults

/-- A message is drafted unless its payload cannot be written. -/
lemma reports_draft (m : Message) : Reports (messageFaults m) (Draft.of m) := by
  unfold messageFaults Draft.of
  cases m.payload <;> exact rfl

/-- An aggregate is captured unless its state or one of its events cannot be written. -/
lemma reports_captureAggregate (a : Aggregate) :
    Reports (stateFaults a ++ a.events.toList.flatMap messageFaults) (captureAggregate a) := by
  unfold stateFaults captureAggregate
  cases a.state with
  | error => exact rfl
  | ok state =>
    rw [List.nil_append, ← List.append_nil (List.flatMap ..)]
    exact (reports_mapM reports_draft _).bind fun _ => rfl

/-- A capture fails with the first of the faults, if there is one. -/
lemma reports_capture (u : UnitOfWork τ) (table : Aggregate.Table) :
    Reports (u.faults table) (u.capture table) := by
  refine (reports_mapM (fun h => reports_captureAggregate (table h)) _).bind fun _ => ?_
  rw [← List.append_nil (List.flatMap ..)]
  exact (reports_mapM reports_draft _).bind fun _ => rfl

/-- The records of drafts are the records of their messages, each under its own identifier. -/
lemma forall₂_number {p : Storage ω τ} {now} {ms : List Message} {ds} (w : ω)
    (drafted : List.Forall₂ (fun m d => Draft.of m = .ok d) ms ds) :
    List.Forall₂ (fun m r => Record.ofMessage r.id m now = .ok r) ms (number p now ds w).1 := by
  induction drafted generalizing w with
  | nil => exact .nil
  | cons drafted _ ih =>
    obtain ⟨tag, payload⟩ := Draft.of_ok drafted
    refine .cons ?_ (ih _)
    rw [Record.ofMessage, payload, ← tag]
    rfl

end UnitOfWork

end Outbox
