import Outbox.Proofs.Drill.Batch
import Outbox.Proofs.Publisher.Schedule

/-!
# The order of the work

If the clocks stand still, no call to the store fails and the broker answers a message the same
whenever it is asked, then it makes no difference in which order the workers of a batch take their
steps. Nothing is left to chance then, so two batches that began alike end alike (`Shares.alike`).
The main statement `run_parallel` compares any schedule with the one that finishes one record after
another.
-/

namespace Outbox

/-- Two stores with the same records under the same keys, and otherwise the same, are the same. -/
lemma Store.ext_get? {s s' : Store} (frame : s.frame = s'.frame)
    (same : ∀ id, s.get? id = s'.get? id) : s = s' := by
  obtain ⟨records, entities, refused⟩ := s
  obtain ⟨records', entities', refused'⟩ := s'
  obtain ⟨keys, rest⟩ := Prod.mk.inj frame
  obtain ⟨rfl, rfl⟩ := Prod.mk.inj rest
  rw [Keyed.ext_find? (t := records) keys same]

namespace Drill
open Publisher (Batch Results Worker)

/-- The publisher's clock stands still, no call to the store fails, and what the broker answers does
not depend on what it was asked before. -/
structure Script.Steady (s : Script) : Prop where
  watch : ∀ n, s.watch n = s.watch 0
  answer : ∀ n m sh, s.answer n m sh = s.answer 0 m sh
  fault : ∀ n, s.fault n = none

/-- What happens in a drill that is steady, while the store's clock stands still. -/
def Chances.of (d : Drill) : Chances where
  watch := (· = d.script.watch 0)
  now := (· = d.now)
  answer m s := (· = d.script.answer 0 m s)
  fault := (· = none)

/-- A drill leaves no choice in what may happen when it stands still. -/
lemma Chances.sure_of (d : Drill) : (Chances.of d).Sure where
  watch _ _ same same' := same.trans same'.symm
  now _ _ same same' := same.trans same'.symm
  answer _ _ _ _ same same' := same.trans same'.symm
  fault _ _ same same' := same.trans same'.symm

/-- A steady script holds nothing but what happens when it stands still. -/
lemma Script.Steady.cover {d : Drill} (steady : d.script.Steady) : (Chances.of d).Cover d where
  watch := steady.watch
  now := rfl
  answer := steady.answer
  fault := steady.fault

/-- Two windows hold the same entries for the same time. -/
def SameWindow (win win' : Option Window) : Prop :=
  win.map Window.length = win'.map Window.length ∧ ∀ id, seen? win id = seen? win' id

namespace Shares

variable {x : Chances} {resolve : String → Option Shape} {delay : Time.Span} {o : Opening}
  {sent sent' : Identifier → List Publish} {b b' : Batch} {win win' : Option Window} {d d' : Drill}

/-- If nothing is left to chance, a record comes to the same end whichever worker takes it there. -/
lemma same_end (sh : Shares x resolve delay o sent b win d)
    (sh' : Shares x resolve delay o sent' b' win' d') (sure : x.Sure) (done : b.isDone = true)
    (done' : b'.isDone = true) {k} (mem : k ∈ b.finished) :
    k ∈ b'.finished ∧ seen? win k.record.id = seen? win' k.record.id ∧
      d.store.get? k.record.id = d'.store.get? k.record.id ∧
      sent k.record.id = sent' k.record.id := by
  obtain ⟨records, ends⟩ := sh.ended done
  obtain ⟨records', ends'⟩ := sh'.ended done'
  obtain ⟨k', mem', same⟩ := List.mem_map.1
    (records'.mem_iff.2 (records.mem_iff.1 (List.mem_map_of_mem mem)))
  obtain ⟨result, told, fares⟩ := ends k mem
  obtain ⟨result', told', fares'⟩ := ends' k' mem'
  rw [same] at fares'
  obtain ⟨rfl, entry, row, asked⟩ := fares.unique sure fares'
  refine ⟨?_, entry, row, asked⟩
  obtain ⟨r, stage⟩ := k
  obtain ⟨r', stage'⟩ := k'
  cases stage with
  | finished => cases stage' with
    | finished =>
      cases told
      cases told'
      cases same
      exact mem'
    | _ => cases told'
  | _ => cases told

/-- When a batch is done, no record has finished twice in it. -/
lemma nodup_finished (sh : Shares x resolve delay o sent b win d) (done : b.isDone = true) :
    b.finished.Nodup := by
  have nodup := ((sh.ended done).1.map Record.id).nodup_iff.2 sh.distinct
  rw [List.map_map] at nodup
  exact List.Pairwise.of_map _ (fun _ _ ne same => ne (congrArg _ same)) nodup

/-- If nothing is left to chance, two batches that began alike end alike. -/
lemma alike (sh : Shares x resolve delay o sent b win d)
    (sh' : Shares x resolve delay o sent' b' win' d') (sure : x.Sure) (done : b.isDone = true)
    (done' : b'.isDone = true) :
    b.finished.Perm b'.finished ∧ d.store = d'.store ∧ SameWindow win win' ∧
      d.asked.Perm d'.asked := by
  have same (id : Identifier) : seen? win id = seen? win' id ∧ d.store.get? id = d'.store.get? id ∧
      sent id = sent' id := by
    by_cases fetched : ∃ k ∈ b.finished, k.record.id = id
    · obtain ⟨k, mem, rfl⟩ := fetched
      exact (sh.same_end sh' sure done done' mem).2
    -- A record that was not fetched is as it was, in both.
    · have rest := sh.rest id fun k mem eq =>
        fetched ⟨k, (Batch.workers_of_isDone done).2 ▸ mem, eq⟩
      have rest' := sh'.rest id fun k mem eq => by
        rw [(Batch.workers_of_isDone done').2] at mem
        exact fetched ⟨k, (sh'.same_end sh sure done' done mem).1, eq⟩
      exact ⟨rest.1.trans rest'.1.symm, rest.2.1.trans rest'.2.1.symm,
        rest.2.2.trans rest'.2.2.symm⟩
  refine ⟨?_, ?_, ⟨sh.length.trans sh'.length.symm, fun id => (same id).1⟩, ?_⟩
  · refine (List.perm_ext_iff_of_nodup (sh.nodup_finished done) (sh'.nodup_finished done')).2 ?_
    exact fun k => ⟨fun mem => (sh.same_end sh' sure done done' mem).1,
      fun mem => (sh'.same_end sh sure done' done mem).1⟩
  · exact Store.ext_get? (sh.frame.trans sh'.frame.symm) fun id => (same id).2.1
  · have asked : sent = sent' := funext fun id => (same id).2.2
    exact sh.asked.trans (asked ▸ sh'.asked.symm)

end Shares

/-- The order of the results does not matter to a report. -/
lemma report_of_perm {rs rs' : Results} (pm : rs.Perm rs') : rs.report = rs'.report := by
  simp only [Results.report, Results.count, pm.length_eq, pm.countP_eq]

/-- A batch of records with distinct identifiers, in a drill that is steady: no schedule has more
workers active than there are places or gets stuck, and one that takes all records to their ends
takes each of them there once and comes to what handling them one after another comes to. The
results are the same, and so are the report, the store and the window; the broker took the same
messages, perhaps in another order. -/
theorem run_parallel (resolve : String → Option Shape) (delay : Time.Span) (places : Nat)
    {rs : List Record} (distinct : (rs.map Record.id).Nodup) {d : Drill}
    (steady : d.script.Steady) (win : Option Window) (ms : List Batch.Move) :
    let ran := Batch.run (surroundings resolve) delay places ms { waiting := rs } win d
    let handled := Publisher.handleAll (surroundings resolve) delay rs win d
    ran.1.active.length ≤ places ∧
    (0 < places → ∃ ms', (Batch.run (surroundings resolve) delay places (ms ++ ms')
      { waiting := rs } win d).1.isDone = true) ∧
    (ran.1.isDone = true →
      (ran.1.finished.map Worker.record).Perm rs ∧ ran.1.results.Perm handled.1 ∧
        ran.1.results.report = handled.1.report ∧ ran.2.2.store = handled.2.2.store ∧
        SameWindow ran.2.1 handled.2.1 ∧ ran.2.2.accepted.Perm handled.2.2.accepted) := by
  intro ran handled
  have start : Shares (.of d) resolve delay ⟨rs, win, d⟩ (fun _ => []) { waiting := rs } win d :=
    .start distinct steady.cover
  obtain ⟨sent, sh⟩ := start.run (rfl : _ = (ran.1, ran.2.1, ran.2.2))
  -- Handling one record after another is what a schedule with one place does.
  obtain ⟨ks, all, results⟩ :=
    Batch.run_inTurn (surroundings resolve) delay Nat.one_pos rs [] win d
  obtain ⟨sent', inTurn⟩ := start.run all
  refine ⟨Batch.length_active_run ms (Nat.zero_le _) win d, fun room => ?_, fun done => ?_⟩
  · obtain ⟨ms', ends⟩ :=
      Batch.exists_isDone (surroundings resolve) delay room ran.1 ran.2.1 ran.2.2
    refine ⟨ms', ?_⟩
    rw [Batch.run_append]
    exact ends
  · obtain ⟨workers, store, window, asked⟩ := sh.alike inTurn (Chances.sure_of d) done rfl
    have same : ran.1.results.Perm handled.1 :=
      (workers.filterMap Worker.result?).trans (.of_eq results)
    exact ⟨(sh.ended done).1, same, report_of_perm same, store, window, asked.filterMap _⟩

/-- Two records in a store that never fails, with a broker that takes everything. -/
def pair : Drill where
  script := ⟨fun _ => .epoch, fun _ _ _ => .ok (), fun _ => none⟩
  store := { records := ⟨[gone ⟨1⟩, gone ⟨2⟩], by decide⟩, entities := .empty }
  now := .epoch

/-- The worker that was started last is finished first, and the store is the same. -/
theorem run_parallel_pair :
    let ran := Batch.run (surroundings goneOnly) .zero 2 byTurns
      { waiting := [gone ⟨1⟩, gone ⟨2⟩] } (some (.ofLength .zero)) pair
    let handled := Publisher.handleAll (surroundings goneOnly) .zero [gone ⟨1⟩, gone ⟨2⟩]
      (some (.ofLength .zero)) pair
    ran.1.finished.map (·.record.id) = [⟨2⟩, ⟨1⟩] ∧ ran.1.results.report = handled.1.report ∧
      ran.2.2.store = handled.2.2.store ∧ ran.2.2.accepted.Perm handled.2.2.accepted := by
  have distinct : ([gone ⟨1⟩, gone ⟨2⟩].map Record.id).Nodup := by decide
  have steady : pair.script.Steady := ⟨fun _ => rfl, fun _ _ _ => rfl, fun _ => rfl⟩
  obtain ⟨-, -, ends⟩ := run_parallel goneOnly .zero 2 distinct (d := pair) steady
    (some (.ofLength .zero)) byTurns
  obtain ⟨-, -, report, store, -, accepted⟩ := ends (by decide +kernel)
  exact ⟨by decide +kernel, report, store, accepted⟩

end Drill

end Outbox
