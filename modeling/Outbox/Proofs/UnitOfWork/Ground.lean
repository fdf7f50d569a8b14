import Mathlib.Data.List.Forall2
import Outbox.UnitOfWork

/-!
# Where units of work write

A storage is over a store if its transactions are those of that store and any of its calls may fail.
`Storage.Over` is all that is known of such a storage. Each part of a commit is described by what it
does to the store: only `write` changes it, and only when everything else went well.
-/

namespace Outbox.UnitOfWork
open Store (Transaction)

variable {ω τ α : Type}

/-- All calls but commits and announcements leave a part of the world as it is. -/
structure Storage.Keeps (p : Storage ω τ) (part : ω → α) : Prop where
  clock : ∀ w, part (p.clock w).2 = part w
  fresh : ∀ w, part (p.fresh w).2 = part w
  start : ∀ w, part (p.start w).2 = part w
  save : ∀ e t w, part (p.save e t w).2.2 = part w
  append : ∀ r t w, part (p.append r t w).2.2 = part w
  rollback : ∀ t w, part (p.rollback t w).2 = part w

/-- The transactions of a storage are those of a store in its world. Any call may fail; a commit
that fails writes nothing. -/
structure Storage.Over (p : Storage ω Transaction) (store : ω → Store) : Prop
    extends p.Keeps store where
  start_ok : ∀ ⦃w t w'⦄, p.start w = (.ok t, w') → t = .opened
  save_ok : ∀ ⦃e t w t' w'⦄, p.save e t w = (.ok (), t', w') → t.save (store w) e = .ok t'
  append_ok : ∀ ⦃r t w t' w'⦄, p.append r t w = (.ok (), t', w') → t' = t.append r
  commit_ok : ∀ ⦃t w w'⦄, p.commit t w = (.ok (), w') → t.commit (store w) = .ok (store w')
  commit_error : ∀ ⦃t w e w'⦄, p.commit t w = (.error e, w') → store w' = store w
  announce : ∀ n w, store (p.announce n w) = store w

section Keeps

variable {p : Storage ω τ} {part : ω → α} (keeps : p.Keeps part)

/-- Calls that each keep a part of the world keep it together. -/
lemma keeps_eachUntilError {β : Type} {call : β → τ → ω → Except Store.Error Unit × τ × ω}
    (keep : ∀ b t w, part (call b t w).2.2 = part w) (bs : List β) (t : τ) (w : ω) :
    part (eachUntilError call bs t w).2.2 = part w := by
  induction bs generalizing t w with
  | nil => rfl
  | cons b bs ih =>
    have here := keep b t w
    unfold eachUntilError
    split
    · next called =>
      rw [called] at here
      exact (ih ..).trans here
    · next called =>
      rw [called] at here
      exact here

include keeps

/-- Staging keeps what single calls keep. -/
lemma Storage.Keeps.stage (es : List Entity) (rs : List Record) (t : τ) (w : ω) :
    part (stage p es rs t w).2.2 = part w := by
  have saved := keeps_eachUntilError keeps.save es t w
  unfold UnitOfWork.stage
  split
  · next e =>
    rw [e] at saved
    exact (keeps_eachUntilError keeps.append ..).trans saved
  · next e =>
    rw [e] at saved
    exact saved

/-- Numbering drafts keeps what single calls keep. -/
lemma Storage.Keeps.number (now : Time.Instant) (ds : List Draft) (w : ω) :
    part (number p now ds w).2 = part w := by
  induction ds generalizing w with
  | nil => rfl
  | cons d ds ih => exact (ih _).trans (keeps.fresh w)

/-- Opening a transaction keeps what single calls keep. -/
lemma Storage.Keeps.ensureOpen (u : UnitOfWork τ) (w : ω) :
    part (u.ensureOpen p w).2 = part w := by
  unfold UnitOfWork.ensureOpen
  split
  · rfl
  · exact keeps.start w

/-- A write keeps what single calls and commits keep. -/
lemma Storage.Keeps.write (commit : ∀ t w, part (p.commit t w).2 = part w) (u : UnitOfWork τ)
    (es : List Entity) (rs : List Record) (w : ω) : part (u.write p es rs w).2.2 = part w := by
  have opened := keeps.ensureOpen u w
  unfold UnitOfWork.write
  split
  · next e =>
    rw [e] at opened
    exact opened
  · next t w₁ e =>
    rw [e] at opened
    have staged := keeps.stage es rs t w₁
    split
    · next e =>
      rw [e] at staged
      exact staged.trans opened
    · next e =>
      rw [e] at staged
      exact (commit _ _).trans (staged.trans opened)

/-- Giving a transaction up keeps what single calls keep. -/
lemma Storage.Keeps.abort (u : UnitOfWork τ) (w : ω) : part (u.abort p w).2 = part w := by
  unfold UnitOfWork.abort
  split
  · rfl
  · exact keeps.rollback _ w

end Keeps

/-- Giving a transaction up leaves what is tracked and queued. -/
lemma abort_fst (p : Storage ω τ) (u : UnitOfWork τ) (w : ω) :
    (u.abort p w).1 = { u with transaction := none } := by
  unfold abort
  split
  · next none => rw [← none]
  · rfl

/-- Between its calls a unit of work has staged nothing. -/
def Unstaged (u : UnitOfWork Transaction) : Prop :=
  ∀ ⦃t⦄, u.transaction = some t → t = .opened

/-- Without a transaction nothing is staged. -/
lemma unstaged_of_none {u : UnitOfWork Transaction} (none : u.transaction = none) : u.Unstaged := by
  intro t here
  cases none.symm.trans here

section Over

variable {p : Storage ω Transaction} {store : ω → Store} (ov : p.Over store)
include ov

/-- Announcements leave the store as it is. -/
lemma Storage.Over.announced (ns : List Notice) (w : ω) :
    store (ns.foldl (fun w n => p.announce n w) w) = store w := by
  induction ns generalizing w with
  | nil => rfl
  | cons n ns ih =>
    rw [List.foldl_cons, ih]
    exact ov.announce n w

/-- A transaction to write in has staged nothing. -/
lemma Storage.Over.ensureOpen_ok {u : UnitOfWork Transaction} {w w' t} (un : u.Unstaged)
    (opened : u.ensureOpen p w = (.ok t, w')) : t = .opened := by
  unfold UnitOfWork.ensureOpen at opened
  split at opened
  · next here =>
    cases opened
    exact un here
  · exact ov.start_ok opened

/-- Entities are staged in order. -/
lemma Storage.Over.save_each {es : List Entity} {t t' w w'}
    (done : eachUntilError p.save es t w = (.ok (), t', w')) :
    t' = { t with entities := t.entities ++ es } := by
  induction es generalizing t w with
  | nil =>
    cases done
    simp
  | cons e es ih =>
    unfold eachUntilError at done
    split at done
    · next saved =>
      have saved := ov.save_ok saved
      unfold Transaction.save at saved
      split at saved
      · cases saved
      · cases saved
        simpa using ih done
    · cases done

/-- Records are staged in order. -/
lemma Storage.Over.append_each {rs : List Record} {t t' w w'}
    (done : eachUntilError p.append rs t w = (.ok (), t', w')) :
    t' = { t with records := t.records ++ rs } := by
  induction rs generalizing t w with
  | nil =>
    cases done
    simp
  | cons r rs ih =>
    unfold eachUntilError at done
    split at done
    · next appended =>
      cases ov.append_ok appended
      simpa [Transaction.append] using ih done
    · cases done

/-- What is staged in a fresh transaction is what it holds. -/
lemma Storage.Over.stage_ok {es rs t' w w'}
    (done : UnitOfWork.stage p es rs .opened w = (.ok (), t', w')) : t' = ⟨es, rs⟩ := by
  unfold UnitOfWork.stage at done
  split at done
  · next saved =>
    cases ov.save_each saved
    exact ov.append_each done
  · cases done

/-- A write that fails leaves the store and what is tracked and queued. -/
lemma Storage.Over.write_error {u u' : UnitOfWork Transaction} {es rs w w' e}
    (failed : u.write p es rs w = (.error e, u', w')) :
    store w' = store w ∧ u'.tracked = u.tracked ∧ u'.queued = u.queued := by
  have opened := ov.ensureOpen u w
  unfold UnitOfWork.write at failed
  split at failed
  · next called =>
    rw [called] at opened
    cases failed
    exact ⟨opened, rfl, rfl⟩
  · next t w₁ called =>
    rw [called] at opened
    have staged := ov.stage es rs t w₁
    split at failed
    · next called =>
      rw [called] at staged
      cases failed
      exact ⟨staged.trans opened, rfl, rfl⟩
    · next t₂ w₂ called =>
      rw [called] at staged
      generalize committed : p.commit t₂ w₂ = answer at failed
      obtain ⟨_ | _, w₃⟩ := answer
      · cases failed
        exact ⟨(ov.commit_error committed).trans (staged.trans opened), rfl, rfl⟩
      · cases failed

/-- A write that goes through commits a transaction of what was to be written. -/
lemma Storage.Over.write_ok {u u' : UnitOfWork Transaction} {es rs w w'} (un : u.Unstaged)
    (done : u.write p es rs w = (.ok (), u', w')) :
    u' = { u with transaction := none } ∧
      Transaction.commit ⟨es, rs⟩ (store w) = .ok (store w') := by
  have opened := ov.ensureOpen u w
  unfold UnitOfWork.write at done
  split at done
  · cases done
  · next t w₁ called =>
    rw [called] at opened
    cases ov.ensureOpen_ok un called
    have staged := ov.stage es rs .opened w₁
    split at done
    · cases done
    · next t₂ w₂ called =>
      rw [called] at staged
      cases ov.stage_ok called
      -- Up to here the store is as it was, so the commit is one to that store.
      generalize committed : p.commit ⟨es, rs⟩ w₂ = answer at done
      obtain ⟨_ | _, w₃⟩ := answer
      · cases done
      · cases done
        have commit := ov.commit_ok committed
        rw [show store w₂ = store w from staged.trans opened] at commit
        exact ⟨rfl, commit⟩

end Over

end Outbox.UnitOfWork

/-!
## A store whose calls fail

The ground on which units of work stand: a store in memory with a list of verdicts, one for each of
its next calls, which say whether the call fails. A bus may be told of what was committed. What it
answers is up to it.
-/

namespace Outbox.UnitOfWork
open Store (Transaction)

/-- A store with a clock, a mint and a bus of type `β`. -/
structure Ground (β : Type) where
  store : Store
  now : Time.Instant
  mint : Identifier.Mint
  /-- What happens to the next calls. Those behind the last verdict do not fail. -/
  verdicts : List (Option Store.Error) := []
  bus : β
  /-- What the bus was told. -/
  handed : List Notice := []

namespace Ground

variable {β ε : Type}

/-- What happens to the next call, and the ground with the verdicts behind it. -/
def rule (g : Ground β) : Option Store.Error × Ground β :=
  match g.verdicts with
  | [] => (none, g)
  | v :: verdicts => (v, { g with verdicts })

/-- A call to a transaction that only stages. -/
def stage (call : Store → Transaction → Except Store.Error Transaction) (t : Transaction)
    (g : Ground β) : Except Store.Error Unit × Transaction × Ground β :=
  match g.rule with
  | (some e, g) => (.error e, t, g)
  | (none, g) =>
    match call g.store t with
    | .ok t => (.ok (), t, g)
    | .error e => (.error e, t, g)

/-- Opens a transaction. -/
def start (g : Ground β) : Except Store.Error Transaction × Ground β :=
  match g.rule with
  | (some e, g) => (.error e, g)
  | (none, g) => (.ok .opened, g)

/-- Commits a transaction. -/
def commit (t : Transaction) (g : Ground β) : Except Store.Error Unit × Ground β :=
  match g.rule with
  | (some e, g) => (.error e, g)
  | (none, g) =>
    match t.commit g.store with
    | .ok store => (.ok (), { g with store })
    | .error e => (.error e, g)

/-- Rolls a transaction back. -/
def rollback (_ : Transaction) (g : Ground β) : Except Store.Error Unit × Ground β :=
  match g.rule with
  | (some e, g) => (.error e, g)
  | (none, g) => (.ok (), g)

/-- Hands a notice to the bus, if there is a way to send it. -/
def announce (send : Option (Notice → β → Except ε Unit × β)) (n : Notice) (g : Ground β) :
    Ground β :=
  match send with
  | none => g
  | some send => { g with bus := (send n g.bus).2, handed := g.handed ++ [n] }

/-- Where a unit of work writes that stands on a ground. -/
def storage (send : Option (Notice → β → Except ε Unit × β)) :
    Storage (Ground β) Transaction where
  clock g := (g.now, g)
  fresh g :=
    let (id, mint) := g.mint.next
    (id, { g with mint })
  start := start
  save e := stage fun s t => t.save s e
  append r := stage fun _ t => .ok (t.append r)
  commit := commit
  rollback := rollback
  announce := announce send

/-- A verdict leaves all but the verdicts. -/
lemma rule_inv {g g' : Ground β} {v} (ruled : g.rule = (v, g')) :
    ∃ verdicts, g' = { g with verdicts } := by
  unfold rule at ruled
  split at ruled <;> cases ruled <;> exact ⟨_, rfl⟩

/-- A call that only stages leaves all but the verdicts. -/
lemma stage_snd (call : Store → Transaction → Except Store.Error Transaction) (t : Transaction)
    (g : Ground β) : ∃ verdicts, (g.stage call t).2.2 = { g with verdicts } := by
  unfold stage
  split
  · next ruled => exact rule_inv ruled
  · next ruled => split <;> exact rule_inv ruled

/-- A call that only stages does so on the store as it is. -/
lemma stage_ok (call : Store → Transaction → Except Store.Error Transaction) {t t'}
    {g g' : Ground β} (staged : g.stage call t = (.ok (), t', g')) : call g.store t = .ok t' := by
  unfold stage at staged
  split at staged
  · cases staged
  · next ruled =>
    obtain ⟨_, rfl⟩ := rule_inv ruled
    split at staged
    · next called =>
      cases staged
      exact called
    · cases staged

variable (send : Option (Notice → β → Except ε Unit × β))

/-- All calls but commits and announcements keep what neither the verdicts nor the mint decide. -/
lemma keeps_storage {α : Type} {part : Ground β → α}
    (keep : ∀ g verdicts mint, part { g with verdicts, mint } = part g) :
    (storage send).Keeps part where
  clock _ := rfl
  fresh g := keep g g.verdicts _
  start g := by
    show part (start g).2 = part g
    unfold start
    split <;> next ruled =>
      obtain ⟨verdicts, rfl⟩ := rule_inv ruled
      exact keep g verdicts g.mint
  save e t g := by
    obtain ⟨verdicts, same⟩ := g.stage_snd (fun s t => t.save s e) t
    exact (congrArg part same).trans (keep g verdicts g.mint)
  append r t g := by
    obtain ⟨verdicts, same⟩ := g.stage_snd (fun _ t => .ok (t.append r)) t
    exact (congrArg part same).trans (keep g verdicts g.mint)
  rollback t g := by
    show part (rollback t g).2 = part g
    unfold rollback
    split <;> next ruled =>
      obtain ⟨verdicts, rfl⟩ := rule_inv ruled
      exact keep g verdicts g.mint

/-- A commit that goes through is a commit to the store, and one that fails leaves all but the
verdicts. -/
lemma commit_inv {t} {g g' : Ground β} {answer} (called : commit t g = (answer, g')) :
    (answer = .ok () ∧ ∃ store verdicts, t.commit g.store = .ok store ∧
      g' = { g with store, verdicts }) ∨
    (∃ e, answer = .error e) ∧ ∃ verdicts, g' = { g with verdicts } := by
  unfold commit at called
  split at called
  · next ruled =>
    cases called
    exact .inr ⟨⟨_, rfl⟩, rule_inv ruled⟩
  · next ruled =>
    obtain ⟨verdicts, rfl⟩ := rule_inv ruled
    split at called
    · next store done =>
      cases called
      exact .inl ⟨rfl, store, verdicts, done, rfl⟩
    · cases called
      exact .inr ⟨⟨_, rfl⟩, verdicts, rfl⟩

/-- No commit hands anything to the bus by itself. -/
lemma handed_commit (t : Transaction) (g : Ground β) : (commit t g).2.handed = g.handed := by
  generalize called : commit t g = next
  obtain ⟨answer, g'⟩ := next
  obtain ⟨-, _, _, -, rfl⟩ | ⟨-, _, rfl⟩ := commit_inv called <;> rfl

/-- Of announcements all notices reach the bus, if there is a way to send them. -/
lemma handed_foldl_announce (ns : List Notice) (g : Ground β) :
    (ns.foldl (fun g n => announce send n g) g).handed =
      g.handed ++ if send.isSome then ns else [] := by
  induction ns generalizing g with
  | nil => simp
  | cons n ns ih =>
    rw [List.foldl_cons, ih]
    cases send <;> simp [announce]

/-- A ground is a storage over its store. -/
lemma over_storage : (storage send).Over Ground.store where
  toKeeps := keeps_storage send fun _ _ _ => rfl
  start_ok g t g' started := by
    change start g = _ at started
    unfold start at started
    split at started <;> cases started
    rfl
  save_ok e t g t' g' saved := stage_ok (fun s t => t.save s e) saved
  append_ok r t g t' g' appended := by
    have staged := stage_ok (fun _ t => .ok (t.append r)) appended
    exact (Except.ok.inj staged).symm
  commit_ok t g g' committed := by
    obtain ⟨-, store, verdicts, done, rfl⟩ | ⟨⟨e, failed⟩, -⟩ := commit_inv committed
    · exact done
    · cases failed
  commit_error t g e g' failed := by
    obtain ⟨done, -⟩ | ⟨-, verdicts, rfl⟩ := commit_inv failed
    · cases done
    · rfl
  announce n g := by cases send <;> rfl

end Ground

end Outbox.UnitOfWork
