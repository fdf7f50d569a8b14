import Outbox.Proofs.Drill.Lot

/-!
# What becomes of a batch

The workers of a batch share its records among them: each record waits, or one worker has it, and
what has become of it is its lot alone. `Shares` says so of a batch, whatever its schedule; every
move keeps it (`Shares.move`), and at the end every record has come to its own end (`Shares.ended`).
-/

namespace Outbox

/-- If one of the items of a list with distinct keys gets more to contribute, so does the list. -/
lemma perm_flatMap_more {α κ β : Type} [DecidableEq κ] {key : α → κ} {l : List α}
    (distinct : (l.map key).Nodup) {a : α} (mem : a ∈ l) (f : κ → List β) (more : List β) :
    (l.flatMap fun b => if key b = key a then f (key b) ++ more else f (key b)).Perm
      (l.flatMap (fun b => f (key b)) ++ more) := by
  obtain ⟨before, behind, rfl⟩ := List.append_of_mem mem
  rw [List.map_append, List.map_cons, List.nodup_append, List.nodup_cons] at distinct
  obtain ⟨-, ⟨absent, -⟩, other⟩ := distinct
  have kept (bs : List α) (ne : ∀ b ∈ bs, key b ≠ key a) :
      bs.flatMap (fun b => if key b = key a then f (key b) ++ more else f (key b)) =
        bs.flatMap fun b => f (key b) := by
    rw [List.flatMap_def, List.flatMap_def]
    exact congrArg _ (List.map_congr_left fun b mem => if_neg (ne b mem))
  rw [List.flatMap_append, List.flatMap_append, List.flatMap_cons, List.flatMap_cons, if_pos rfl,
    kept before, kept behind]
  · simp only [List.append_assoc]
    exact (List.perm_append_comm.append_left _).append_left _
  · exact fun b mem eq => absent (eq ▸ List.mem_map_of_mem mem)
  · exact fun b mem => other _ (List.mem_map_of_mem mem) _ List.mem_cons_self

namespace Drill
open Publisher (Batch Stage Worker)

/-- How a batch began: with which records, and with which window and drill. -/
structure Opening where
  records : List Record
  window : Option Window
  drill : Drill

/-- What has become of a record since a batch began, at some stage of its worker: its entry, its row
and what the broker was asked because of it are as its lot has it. -/
def Opening.Fares (o : Opening) (x : Chances) (resolve : String → Option Shape) (delay : Time.Span)
    (r : Record) (stage : Stage) (win : Option Window) (d : Drill) (sent : List Publish) : Prop :=
  Lot x resolve delay (o.window.map Window.length) r (seen? o.window r.id)
    (o.drill.store.get? r.id) stage (seen? win r.id) (d.store.get? r.id) sent

/-- What the broker is asked in a move, each with the record whose worker asks. -/
def asksIn (b : Batch) (d : Drill) : Batch.Move → List (Identifier × Publish)
  | .start => []
  | .advance i => b.active[i]?.toList.flatMap fun k => (asks k.stage d).map (k.record.id, ·)

/-- What the broker was asked because of one record. -/
def askedFor (log : List (Identifier × Publish)) (id : Identifier) : List Publish :=
  (log.filter (·.1 = id)).map Prod.snd

/-- What was asked because of a record in two parts of a log is what was asked in the first, and
then in the second. -/
lemma askedFor_append (log log' : List (Identifier × Publish)) (id : Identifier) :
    askedFor (log ++ log') id = askedFor log id ++ askedFor log' id := by
  rw [askedFor, List.filter_append, List.map_append]
  rfl

/-- A worker asks because of its own record. -/
lemma append_askedFor_map (sent : Identifier → List Publish) (new : List Publish)
    (id : Identifier) :
    (fun j => sent j ++ askedFor (new.map (id, ·)) j) =
      fun j => if j = id then sent j ++ new else sent j := by
  funext j
  by_cases same : j = id
  · have all : askedFor (new.map (id, ·)) j = new := by
      induction new with
      | nil => rfl
      | cons x new ih => simpa [askedFor, same] using ih
    rw [all, if_pos same]
  · have other : ∀ x ∈ new.map (id, ·), ¬ decide (x.1 = j) = true := by
      intro x mem
      obtain ⟨_, -, rfl⟩ := List.mem_map.1 mem
      simpa using Ne.symm same
    rw [askedFor, List.filter_eq_nil_iff.2 other, if_neg same]
    exact List.append_nil _

/-- The records of a batch are shared among its workers, and what has become of each is its own lot.
Because of a record with some identifier the broker was asked what `sent` says. -/
structure Shares (x : Chances) (resolve : String → Option Shape) (delay : Time.Span) (o : Opening)
    (sent : Identifier → List Publish) (b : Batch) (win : Option Window) (d : Drill) : Prop where
  distinct : (o.records.map Record.id).Nodup
  cover : x.Cover d
  sorted : b.Sorted
  records : (b.waiting ++ b.workers.map Worker.record).Perm o.records
  asked : d.asked.Perm (o.drill.asked ++ o.records.flatMap fun r => sent r.id)
  frame : d.store.frame = o.drill.store.frame
  length : win.map Window.length = o.window.map Window.length
  lots : ∀ k ∈ b.workers, o.Fares x resolve delay k.record k.stage win d (sent k.record.id)
  /-- What belongs to no worker is as it was. -/
  rest : ∀ id, (∀ k ∈ b.workers, k.record.id ≠ id) →
    seen? win id = seen? o.window id ∧ d.store.get? id = o.drill.store.get? id ∧ sent id = []

namespace Shares

variable {x : Chances} {resolve : String → Option Shape} {delay : Time.Span} {o : Opening}
  {sent : Identifier → List Publish} {b b' : Batch} {win win' : Option Window} {d d' : Drill}

/-- When a batch begins, nothing has become of any record yet. -/
lemma start {rs : List Record} (distinct : (rs.map Record.id).Nodup) (cover : x.Cover d) :
    Shares x resolve delay ⟨rs, win, d⟩ (fun _ => []) { waiting := rs } win d where
  distinct := distinct
  cover := cover
  sorted := Batch.sorted_waiting rs
  records := .of_eq (List.append_nil _)
  asked := .of_eq (by simp)
  frame := rfl
  length := rfl
  lots _ mem := absurd mem List.not_mem_nil
  rest _ _ := ⟨rfl, rfl, rfl⟩

/-- No two records of a batch have the same identifier, wherever they are. -/
lemma nodup (sh : Shares x resolve delay o sent b win d) :
    ((b.waiting ++ b.workers.map Worker.record).map Record.id).Nodup :=
  (sh.records.map Record.id).nodup_iff.2 sh.distinct

/-- No other worker has the record of a worker. -/
lemma apart (sh : Shares x resolve delay o sent b win d) {k : Worker} {others : List Worker}
    (split : b.workers.Perm (k :: others)) : ∀ j ∈ others, j.record.id ≠ k.record.id := by
  have nodup := sh.nodup
  rw [List.map_append, List.nodup_append, List.map_map,
    (split.map (Record.id ∘ Worker.record)).nodup_iff, List.map_cons, List.nodup_cons] at nodup
  intro j mem eq
  exact nodup.2.1.1 (List.mem_map.2 ⟨j, mem, eq⟩)

/-- The shares stay as they are when the store's clock moves on. -/
lemma pass (sh : Shares x resolve delay o sent b win d) {now} (may : x.now now) :
    Shares x resolve delay o sent b win { d with now } :=
  { sh with cover := { sh.cover with now := may } }

/-- The shares stay as they are when a worker takes up the next record. -/
lemma begin (sh : Shares x resolve delay o sent b win d) (places : Nat) :
    Shares x resolve delay o sent (b.start places) win d := by
  obtain same | ⟨sorted, r, waiting, workers⟩ := Batch.start_workers sh.sorted places
  · exact same.symm ▸ sh
  · have nodup := sh.nodup
    rw [waiting, List.cons_append, List.map_cons, List.nodup_cons, List.map_append, List.map_map]
      at nodup
    have new : ∀ k ∈ b.workers, k.record.id ≠ r.id := fun k mem same =>
      nodup.1 (List.mem_append_right _ (List.mem_map.2 ⟨k, mem, same⟩))
    refine { sh with sorted, records := ?_, lots := fun k mem => ?_, rest := fun id other => ?_ }
    · have records := sh.records
      rw [waiting] at records
      refine .trans ((workers.map _).append_left _) (.trans ?_ records)
      exact List.perm_middle
    · obtain rfl | mem := List.mem_cons.1 (workers.mem_iff.1 mem)
      · obtain ⟨entry, row, none⟩ := sh.rest r.id new
        rw [Opening.Fares, entry, row, none]
        exact .looking
      · exact sh.lots k mem
    · exact sh.rest id fun k mem => other k (workers.mem_iff.2 (List.mem_cons_of_mem _ mem))

/-- A step of one worker changes the lot of its own record only. -/
lemma advance (sh : Shares x resolve delay o sent b win d) {i : Nat}
    (st : b.advance (surroundings resolve) delay i win d = (b', win', d')) :
    d'.asked = d.asked ++ (asksIn b d (.advance i)).map Prod.snd ∧
      Shares x resolve delay o (fun id => sent id ++ askedFor (asksIn b d (.advance i)) id)
        b' win' d' := by
  obtain ⟨none, rfl, rfl, rfl⟩ | ⟨sorted, waiting, k, k', others, here, before, after, same, st⟩ :=
    Batch.advance_workers sh.sorted st
  · simpa [asksIn, none, askedFor] using sh
  · have mem : k ∈ b.workers := before.mem_iff.2 List.mem_cons_self
    have lot := sh.lots k mem
    rw [Opening.Fares, ← sh.length] at lot
    have lot' := Lot.step sh.cover rfl rfl lot st
    rw [sh.length] at lot'
    have spares := spares_of_step st
    have asked := asked_of_step st
    have asks : asksIn b d (.advance i) = (asks k.stage d).map (k.record.id, ·) := by
      simp [asksIn, here]
    have records : (b'.waiting ++ b'.workers.map Worker.record).Perm
        (b.waiting ++ b.workers.map Worker.record) := by
      rw [waiting]
      refine .append_left _ ((after.map _).trans (.trans ?_ (before.map _).symm))
      rw [List.map_cons, List.map_cons, same]
    have fetched : k.record ∈ o.records :=
      sh.records.mem_iff.1 (List.mem_append_right _ (List.mem_map_of_mem mem))
    rw [asks, append_askedFor_map]
    refine ⟨?_, sh.distinct, sh.cover.of_spares spares, sorted, records.trans sh.records, ?_,
      spares.store.trans sh.frame, spares.length.trans sh.length, fun j mem => ?_,
      fun id other => ?_⟩
    · rw [asked, List.map_map]
      exact congrArg _ (List.map_id _).symm
    · rw [asked]
      refine (sh.asked.append_right _).trans ?_
      rw [List.append_assoc]
      exact (perm_flatMap_more sh.distinct fetched sent _).symm.append_left _
    · obtain rfl | mem := List.mem_cons.1 (after.mem_iff.1 mem)
      · simp only [same, if_true]
        exact lot'
      -- No other worker has the same record, so that none of them notices.
      · have other := sh.apart before j mem
        rw [Opening.Fares, spares.entries _ other, spares.rows _ other, if_neg other]
        exact sh.lots j (before.mem_iff.2 (List.mem_cons_of_mem _ mem))
    · have ne : id ≠ k.record.id := fun eq =>
        other k' (after.mem_iff.2 List.mem_cons_self) (same ▸ eq.symm)
      rw [spares.entries _ ne, spares.rows _ ne, if_neg ne]
      refine sh.rest id fun j mem => ?_
      obtain rfl | mem := List.mem_cons.1 (before.mem_iff.1 mem)
      · exact ne.symm
      · exact other j (after.mem_iff.2 (List.mem_cons_of_mem _ mem))

/-- Every move in a batch leaves each record with its own lot. -/
lemma move (sh : Shares x resolve delay o sent b win d) {places : Nat} {m : Batch.Move}
    (st : b.move (surroundings resolve) delay places m win d = (b', win', d')) :
    d'.asked = d.asked ++ (asksIn b d m).map Prod.snd ∧
      Shares x resolve delay o (fun id => sent id ++ askedFor (asksIn b d m) id) b' win' d' := by
  cases m with
  | start =>
    cases st
    refine ⟨(List.append_nil _).symm, ?_⟩
    simpa [asksIn, askedFor] using sh.begin places
  | advance i => exact sh.advance st

/-- Every schedule leaves the records of a batch shared. -/
lemma run (sh : Shares x resolve delay o sent b win d) {places : Nat} {ms : List Batch.Move}
    (st : b.run (surroundings resolve) delay places ms win d = (b', win', d')) :
    ∃ sent', Shares x resolve delay o sent' b' win' d' := by
  induction ms generalizing sent b win d with
  | nil =>
    cases st
    exact ⟨sent, sh⟩
  | cons m ms ih =>
    obtain ⟨-, sh'⟩ := sh.move (m := m) rfl
    exact ih sh' st

/-- In a batch that is done every record was taken to its end by one worker. -/
lemma ended (sh : Shares x resolve delay o sent b win d) (done : b.isDone = true) :
    (b.finished.map Worker.record).Perm o.records ∧
      ∀ k ∈ b.finished, ∃ result, k.result? = some result ∧
        o.Fares x resolve delay k.record (.finished result) win d (sent k.record.id) := by
  obtain ⟨waiting, workers⟩ := Batch.workers_of_isDone done
  have records := sh.records
  rw [waiting, workers] at records
  refine ⟨records, fun k mem => ?_⟩
  have lot := sh.lots k (workers ▸ mem)
  have finished := sh.sorted.finished k mem
  obtain ⟨r, stage⟩ := k
  cases stage with
  | finished result => exact ⟨result, rfl, lot⟩
  | _ => cases finished

end Shares

end Drill

end Outbox
