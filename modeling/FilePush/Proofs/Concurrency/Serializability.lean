import FilePush.Proofs.Concurrency.Alone
import FilePush.Proofs.Concurrency.Interleaving
import Mathlib

/-!
# Serving at the same time is serving in turn

Connections that are served at the same time leave what they leave when they are served one after
another in the order in which their files are given their names.  What stands under a name at the
end is what the last rename onto it put there, which is one of the files that were brought for it,
as a whole.
-/

namespace FilePush

namespace Receiver

open Worker (stagingAt proceed attempted)

namespace Worker

variable {config : Config} {directory : Location} {sequence : Nat} {tree : FileTree}

theorem step_done {worker : Worker} {outcome : Outcome} (finished : worker.phase = .done outcome) :
    worker.step config directory sequence tree = (worker, tree) := by
  simp only [step, finished]

theorem proceed_done {worker : Worker} {outcome : Outcome} (finished : worker.phase = .done outcome)
    (count : Nat) : proceed config directory sequence count (worker, tree) = (worker, tree) :=
  Function.iterate_fixed (step_done finished) count

theorem attempted_done {worker : Worker} {outcome : Outcome}
    (finished : worker.phase = .done outcome) (count : Nat) :
    attempted config directory sequence count (worker, tree) = [] := by
  induction count with
  | zero => rfl
  | succ count induction =>
      rw [attempted, step_done finished, induction]
      simp only [attempt?, finished]
      rfl

/-- A worker that is not interrupted comes to one end only, with the same attempts. -/
theorem proceed_unique {first second : Nat} {state : Worker × FileTree} {left right : Outcome}
    (one : (proceed config directory sequence first state).1.phase = .done left)
    (two : (proceed config directory sequence second state).1.phase = .done right) :
    proceed config directory sequence first state =
        proceed config directory sequence second state ∧
      attempted config directory sequence first state =
        attempted config directory sequence second state := by
  rcases Nat.le_total first second with less | less
  · obtain ⟨more, rfl⟩ := Nat.exists_eq_add_of_le less
    rw [proceed_add, attempted_add]
    exact ⟨(proceed_done one more).symm, by rw [attempted_done one, List.append_nil]⟩
  · obtain ⟨more, rfl⟩ := Nat.exists_eq_add_of_le less
    rw [proceed_add, attempted_add]
    exact ⟨proceed_done two more, by rw [attempted_done two, List.append_nil]⟩

end Worker

namespace Workload

variable {Index : Type} (work : Workload Index)

/-- Serve connections one after another; gives the files and what serving each of them left. -/
def serveAll : List Index → FileTree → FileTree × List (Index × Served)
  | [], tree => (tree, [])
  | index :: later, tree =>
      let served := serve work.config work.directory (work.sequence index) (work.connection index)
        tree (work.clock index)
      let rest := serveAll later served.tree
      (rest.1, (index, served) :: rest.2)

/-- The schedule in which each connection takes all of its steps at once. -/
def blocks (steps : Index → Nat) (order : List Index) : List Index :=
  order.flatMap fun index => List.replicate (steps index) index

/-- A connection brings a file for a name. -/
abbrev Brings (index : Index) (target : Target) (content : Bytes) : Prop :=
  Receiver.Brings work.config (work.connection index) target content

theorem keys_serveAll (order : List Index) (tree : FileTree) :
    (work.serveAll order tree).2.map (·.1) = order := by
  induction order generalizing tree with
  | nil => rfl
  | cons index later induction =>
      rw [serveAll, List.map_cons, induction]

variable {work} {order : List Index} {tree : FileTree}

variable {steps : Index → Nat} {index : Index}

theorem blocks_cons (steps : Index → Nat) (index : Index) (later : List Index) :
    blocks steps (index :: later) = List.replicate (steps index) index ++ blocks steps later :=
  List.flatMap_cons

theorem blocks_concat (steps : Index → Nat) (front : List Index) (index : Index) :
    blocks steps (front ++ [index]) =
      blocks steps front ++ List.replicate (steps index) index := by
  rw [blocks, List.flatMap_append, List.flatMap_singleton, blocks]

theorem mem_of_mem_blocks (member : index ∈ blocks steps order) : index ∈ order := by
  obtain ⟨other, among, same⟩ := List.mem_flatMap.mp member
  obtain rfl := List.eq_of_mem_replicate same
  exact among

variable [DecidableEq Index] {progress : Progress Index}

theorem count_blocks (steps : Index → Nat) (once : order.Nodup) (index : Index) :
    (blocks steps order).count index = if index ∈ order then steps index else 0 := by
  induction order with
  | nil => rfl
  | cons first later induction =>
      obtain ⟨fresh, once⟩ := List.nodup_cons.mp once
      rw [blocks, List.flatMap_cons, List.count_append, List.count_replicate]
      rw [blocks] at induction
      rw [induction once]
      by_cases same : first = index
      · subst same
        simp [fresh]
      · simp [same, Ne.symm same]

theorem workers_run_of_not_mem {schedule : List Index} (idle : index ∉ schedule) :
    (work.run schedule progress).workers index = progress.workers index := by
  induction schedule generalizing progress with
  | nil => rfl
  | cons first later induction =>
      obtain ⟨unlike, idle⟩ := not_or.mp (mt List.mem_cons.mpr idle)
      exact (induction idle).trans (workers_turn_of_ne unlike)

/-- A connection that takes steps alone proceeds as a worker on its own. -/
theorem run_replicate (work : Workload Index) (index : Index) (count : Nat)
    (progress : Progress Index) :
    ((work.run (List.replicate count index) progress).workers index,
        (work.run (List.replicate count index) progress).tree) =
      proceed work.config work.directory (work.sequence index) count
        (progress.workers index, progress.tree) := by
  induction count generalizing progress with
  | zero => rfl
  | succ count induction =>
      rw [List.replicate_succ]
      refine (induction (work.turn progress index)).trans ?_
      rw [workers_turn_self, tree_turn]
      rfl

/-- The attempts of a connection that takes steps alone are those of a worker on its own. -/
theorem attempts_replicate (work : Workload Index) (index : Index) (count : Nat)
    (progress : Progress Index) :
    (work.run (List.replicate count index) progress).attempts = progress.attempts ++
      (attempted work.config work.directory (work.sequence index) count
        (progress.workers index, progress.tree)).map fun moved => (index, moved) := by
  induction count generalizing progress with
  | zero => exact (List.append_nil _).symm
  | succ count induction =>
      rw [List.replicate_succ]
      refine (induction (work.turn progress index)).trans ?_
      rw [attempts_turn, workers_turn_self, tree_turn, attempted, List.map_append,
        List.append_assoc]
      congr 2
      cases (progress.workers index).attempt? work.config work.directory (work.sequence index)
          progress.tree <;> rfl

/-- A connection that takes all of its steps at once is served. -/
theorem run_block {outcome : Outcome} {count : Nat}
    (fresh : progress.workers index = .start (work.connection index) (work.clock index))
    (finished : ((work.run (List.replicate count index) progress).workers index).phase =
      .done outcome) :
    let served := serve work.config work.directory (work.sequence index) (work.connection index)
      progress.tree (work.clock index)
    (work.run (List.replicate count index) progress).tree = served.tree ∧
      ∃ late, (work.run (List.replicate count index) progress).workers index =
        ⟨.done served.outcome, served.connection, late⟩ := by
  intro served
  have alone := work.run_replicate index count progress
  obtain ⟨late, -, ⟨enough, reaches, -⟩, -⟩ := Worker.reaches_serve work.config work.directory
    (work.sequence index) (work.connection index) progress.tree (work.clock index)
  rw [fresh] at alone
  obtain ⟨same, -⟩ := @Worker.proceed_unique work.config work.directory (work.sequence index) count
    enough (.start (work.connection index) (work.clock index), progress.tree) outcome
    served.outcome (by rw [← alone]; exact finished) (by rw [reaches])
  rw [← alone, reaches] at same
  obtain ⟨worker, tree⟩ := Prod.mk.inj same
  exact ⟨tree, late, worker⟩

/-- Connections that take all of their steps at once are served one after another. -/
theorem run_blocks (once : order.Nodup)
    (fresh : ∀ index ∈ order,
      progress.workers index = .start (work.connection index) (work.clock index))
    (finished : ∀ index ∈ order, ∃ outcome,
      ((work.run (blocks steps order) progress).workers index).phase = .done outcome) :
    let serial := work.serveAll order progress.tree
    (work.run (blocks steps order) progress).tree = serial.1 ∧
      ∀ pair ∈ serial.2, ∃ late,
        (work.run (blocks steps order) progress).workers pair.1 =
          ⟨.done pair.2.outcome, pair.2.connection, late⟩ := by
  induction order generalizing progress with
  | nil => exact ⟨rfl, fun _ member => by cases member⟩
  | cons first later induction =>
      obtain ⟨new, once⟩ := List.nodup_cons.mp once
      rw [blocks_cons, run_append] at finished ⊢
      let next := work.run (List.replicate (steps first) first) progress
      have kept : (work.run (blocks steps later) next).workers first = next.workers first :=
        workers_run_of_not_mem fun member => new (mem_of_mem_blocks member)
      obtain ⟨outcome, first_finished⟩ := finished first List.mem_cons_self
      rw [kept] at first_finished
      obtain ⟨served_tree, late, served_worker⟩ :=
        run_block (fresh first List.mem_cons_self) first_finished
      have still_fresh : ∀ index ∈ later,
          next.workers index = .start (work.connection index) (work.clock index) := by
        intro index member
        have idle : index ∉ List.replicate (steps first) first := by
          intro same
          obtain rfl := List.eq_of_mem_replicate same
          exact new member
        exact (workers_run_of_not_mem idle).trans (fresh index (List.mem_cons_of_mem first member))
      obtain ⟨tree_same, workers_same⟩ :=
        induction once still_fresh fun index member =>
          finished index (List.mem_cons_of_mem first member)
      rw [served_tree] at tree_same workers_same
      refine ⟨tree_same, fun pair member => ?_⟩
      rcases List.mem_cons.mp member with rfl | member
      · exact ⟨late, kept.trans served_worker⟩
      · exact workers_same pair member

/-- Connections that take all of their steps at once give their files names in their order. -/
theorem renamers_blocks (work : Workload Index) (tree : FileTree) (schedule : List Index)
    (once : order.Nodup) :
    (work.run (blocks (schedule.count ·) order) (work.start tree)).renamers =
      order.filter fun index => index ∈ (work.run schedule (work.start tree)).renamers := by
  induction order using List.reverseRecOn with
  | nil => rfl
  | append_singleton front last induction =>
      obtain ⟨new, front_once⟩ : last ∉ front ∧ front.Nodup := by
        rw [← List.concat_eq_append, List.nodup_concat] at once
        exact once
      have counted := count_blocks (schedule.count ·) once last
      rw [if_pos (by simp)] at counted
      have whole := (work.alike_run tree counted).attempts
      have uncounted := count_blocks (schedule.count ·) front_once last
      rw [if_neg new] at uncounted
      have nothing := (work.alike_run tree (uncounted.trans List.count_nil.symm)).attempts
      rw [blocks_concat, run_append] at whole ⊢
      have longer := work.attempts_replicate last (schedule.count last)
        (work.run (blocks (schedule.count ·) front) (work.start tree))
      generalize attempted work.config work.directory (work.sequence last) _ _ = more at longer
      have all_own : (more.map fun moved => (last, moved)).filter
          (fun attempt => attempt.1 = last) = more.map fun moved => (last, moved) := by
        apply List.filter_eq_self.mpr
        intro attempt member
        obtain ⟨moved, -, rfl⟩ := List.mem_map.mp member
        exact decide_eq_true rfl
      rw [longer, List.filter_append, nothing, all_own] at whole
      have keys : (more.map fun moved => (last, moved)).map (·.1) =
          (work.run schedule (work.start tree)).renamers.filter (· = last) := by
        rw [Progress.renamers, List.filter_map]
        exact congrArg (List.map (·.1)) whole
      rw [Progress.renamers, longer, List.map_append, List.filter_append, keys]
      rw [← Progress.renamers, induction front_once, List.filter_eq]
      congr 1
      by_cases member : last ∈ (work.run schedule (work.start tree)).renamers
      · rw [List.count_eq_one_of_mem (work.once_run tree schedule).nodup member]
        simp [member]
      · rw [List.count_eq_zero_of_not_mem member]
        simp [member]

/-- A connection is in any schedule where it is after as many steps alone. -/
theorem workers_run (work : Workload Index) (tree : FileTree) (schedule : List Index)
    (index : Index) :
    (work.run schedule (work.start tree)).workers index =
      (proceed work.config work.directory (work.sequence index) (schedule.count index)
        (.start (work.connection index) (work.clock index), tree)).1 := by
  rw [(work.alike_alone tree index schedule).worker]
  exact congrArg Prod.fst (work.run_replicate index (schedule.count index) (work.start tree))

/-- A connection comes to its end in every schedule that lets it take enough steps. -/
theorem exists_enough (work : Workload Index) (tree : FileTree) (index : Index) :
    ∃ enough, ∀ schedule : List Index, enough ≤ schedule.count index → ∃ outcome,
      ((work.run schedule (work.start tree)).workers index).phase = .done outcome := by
  obtain ⟨late, -, ⟨enough, reaches, -⟩, -⟩ := Worker.reaches_serve work.config work.directory
    (work.sequence index) (work.connection index) tree (work.clock index)
  refine ⟨enough, fun schedule count => ?_⟩
  obtain ⟨more, total⟩ := Nat.exists_eq_add_of_le count
  rw [workers_run, total, Worker.proceed_add, reaches, Worker.proceed_done rfl]
  exact ⟨_, rfl⟩

/-- The attempts of a connection in any schedule are those that it makes alone. -/
theorem mem_attempts_run (work : Workload Index) (tree : FileTree) (schedule : List Index)
    {index : Index} {moved : Attempt} :
    (index, moved) ∈ (work.run schedule (work.start tree)).attempts ↔
      moved ∈ attempted work.config work.directory (work.sequence index) (schedule.count index)
        (.start (work.connection index) (work.clock index), tree) := by
  have own := (work.alike_alone tree index schedule).attempts
  have alone := work.attempts_replicate index (schedule.count index) (work.start tree)
  have filtered (progress : Progress Index) : (index, moved) ∈ progress.attempts ↔
      (index, moved) ∈ progress.attempts.filter (fun attempt => attempt.1 = index) := by
    simp
  rw [filtered, own, ← filtered, alone]
  simp [start]

/--
What a connection puts under a name in any schedule is what it brings for that name, and it has done
so if it ends by the number of bytes received.
-/
theorem renamesOnto_of_done (work : Workload Index) (tree : FileTree) (schedule : List Index)
    {index : Index} {outcome : Outcome}
    (finished : ((work.run schedule (work.start tree)).workers index).phase = .done outcome) :
    let final := work.run schedule (work.start tree)
    (∀ target node, (index, node) ∈ final.renamesOnto (entryAt work.directory target) →
      ∃ content, work.Brings index target content ∧
        node = if tree.get? (work.own index) = some .full then .full else .file content) ∧
    (outcome = .success ∨ outcome = .sizeMismatch →
      ∃ target node, (index, node) ∈ final.renamesOnto (entryAt work.directory target)) := by
  intro final
  obtain ⟨late, attempts, ⟨enough, reaches, tried⟩, puts, counted⟩ :=
    Worker.reaches_serve work.config work.directory (work.sequence index) (work.connection index)
      tree (work.clock index)
  rw [workers_run] at finished
  obtain ⟨same, same_attempts⟩ := Worker.proceed_unique finished (by rw [reaches])
  rw [same, reaches] at finished
  obtain rfl := Phase.done.inj finished
  simp only [Progress.mem_renamesOnto, final, mem_attempts_run, same_attempts, tried]
  refine ⟨fun target node member => ?_, fun ends => ?_⟩
  · obtain ⟨staged, put⟩ := puts _ member
    obtain ⟨place, rfl⟩ := Prod.mk.inj put
    have named : target = staged.target := Subtype.ext (entry_injective place)
    subst named
    exact ⟨staged.payload, brings_of_read staged.read staged.accepted, rfl⟩
  · obtain ⟨staged, member⟩ := counted ends
    exact ⟨staged.target, staged.stored, member⟩

/--
Connections that are served at the same time come to their ends, each in as many steps as it needs.
They leave the same files, outcomes and answers as when they are served one after another in the
order in which their files are given their names.  What stands under a name is what the last rename
onto it put there, or without one what stood there.  A connection renames the file that it brings,
and it has done so if it ends by the number of bytes received.
-/
theorem run_serializable (work : Workload Index) (tree : FileTree) :
    (∀ index, ∃ enough, ∀ schedule : List Index, enough ≤ schedule.count index → ∃ outcome,
      ((work.run schedule (work.start tree)).workers index).phase = .done outcome) ∧
    ∀ schedule order : List Index,
      let final := work.run schedule (work.start tree)
      let serial := work.serveAll order tree
      (∀ index, ∃ outcome, (final.workers index).phase = .done outcome) →
      order.Nodup → (∀ index, index ∈ order) →
      order.filter (· ∈ final.renamers) = final.renamers →
        final.renamers.Nodup ∧
        (∀ place, final.tree.get? place = serial.1.get? place) ∧
        (∀ index, ∃ served, (index, served) ∈ serial.2 ∧
          (final.workers index).phase = .done served.outcome ∧
          (final.workers index).connection = served.connection) ∧
        (∀ target, final.tree.get? (entryAt work.directory target) =
          ((final.renamesOnto (entryAt work.directory target)).getLast?.map (·.2)).or
            (tree.get? (entryAt work.directory target))) ∧
        (∀ target index node,
          (index, node) ∈ final.renamesOnto (entryAt work.directory target) →
            ∃ content, work.Brings index target content ∧
              node = if tree.get? (work.own index) = some .full then .full else .file content) ∧
        ∀ index, (final.workers index).phase = .done .success ∨
            (final.workers index).phase = .done .sizeMismatch →
          ∃ target node, (index, node) ∈ final.renamesOnto (entryAt work.directory target) := by
  refine ⟨work.exists_enough tree, fun schedule order => ?_⟩
  intro final serial finished once all agrees
  have counts (index : Index) :
      schedule.count index = (blocks (schedule.count ·) order).count index := by
    rw [count_blocks (schedule.count ·) once index, if_pos (all index)]
  obtain ⟨workers_same, tree_same⟩ := work.run_eq_of_renamers tree counts
    (agrees.symm.trans (work.renamers_blocks tree schedule once).symm)
  obtain ⟨serial_tree, serial_workers⟩ := @run_blocks Index work order _ _
    (work.start tree) once (fun _ _ => rfl) (fun index _ => workers_same index ▸ finished index)
  refine ⟨(work.once_run tree schedule).nodup, fun place => ?_, fun index => ?_, fun target => ?_,
    fun target index node member => ?_, fun index ends => ?_⟩
  · exact (tree_same place).trans (congrArg (FileTree.get? · place) serial_tree)
  · have member := all index
    rw [← work.keys_serveAll order tree] at member
    obtain ⟨⟨_, served⟩, found, rfl⟩ := List.mem_map.mp member
    obtain ⟨late, worker⟩ := serial_workers _ found
    refine ⟨served, found, ?_⟩
    rw [show final.workers _ = _ from (workers_same _).trans worker]
    exact ⟨rfl, rfl⟩
  · exact work.get?_run tree schedule fun index => entryAt_ne_stagingAt work.directory target _
  · obtain ⟨outcome, ends⟩ := finished index
    exact (work.renamesOnto_of_done tree schedule ends).1 target node member
  · rcases ends with success | mismatch
    · exact (work.renamesOnto_of_done tree schedule success).2 (.inl rfl)
    · exact (work.renamesOnto_of_done tree schedule mismatch).2 (.inr rfl)

/-- Two connections that bring different files for the same name. -/
def twoVersions : Workload Bool where
  config := .standard
  directory := [[0x75]]
  sequence := Bool.toNat
  connection
    | false =>
        ⟨⟨[.bytes [0, 1, 97, 0, 0, 0, 0, 0, 0, 0, 2, 120], .bytes [121]]⟩, .reliable⟩
    | true => ⟨⟨[.bytes [0, 1, 97, 0, 0, 0, 0, 0, 0, 0, 1, 122]]⟩, .reliable⟩
  clock := fun _ => .ofReadings fun _ => 0
  apart := by
    intro left right
    revert left right
    decide

theorem run_twoVersions :
    (twoVersions.run (List.replicate 15 [true, false]).flatten
      (twoVersions.start ⟨[([[0x75]], .directory)]⟩)).tree.get? [[0x75], Utf8.encode "a"] =
        some (.file [120, 121]) := by
  obtain ⟨first, second, renamers⟩ :
      ((twoVersions.run (List.replicate 15 [true, false]).flatten
        (twoVersions.start ⟨[([[0x75]], .directory)]⟩)).workers false).phase = .done .success ∧
      ((twoVersions.run (List.replicate 15 [true, false]).flatten
        (twoVersions.start ⟨[([[0x75]], .directory)]⟩)).workers true).phase = .done .success ∧
      (twoVersions.run (List.replicate 15 [true, false]).flatten
        (twoVersions.start ⟨[([[0x75]], .directory)]⟩)).renamers = [true, false] := by
    cbv
  obtain ⟨-, places, -⟩ := (run_serializable twoVersions ⟨[([[0x75]], .directory)]⟩).2
    (List.replicate 15 [true, false]).flatten [true, false]
    (Bool.forall_bool.mpr ⟨⟨_, first⟩, ⟨_, second⟩⟩) (by decide) (by decide)
    (by rw [renamers]; decide)
  exact (places _).trans (by cbv)

/-- A file that was begun on a full device takes the name as it is. -/
theorem run_onto_full_device :
    let final := twoVersions.run (List.replicate 15 [true, false]).flatten
      (twoVersions.start
        ⟨[([[0x75], Utf8.encode (Name.staging 0)], .full), ([[0x75]], .directory)]⟩)
    (∀ index, ∃ outcome, (final.workers index).phase = .done outcome) ∧
    (∀ index, ∃ content, twoVersions.Brings index ⟨"a", by decide⟩ content) ∧
    ¬∃ index content, twoVersions.Brings index ⟨"a", by decide⟩ content ∧
      final.tree.get? (entryAt twoVersions.directory ⟨"a", by decide⟩) = some (.file content) := by
  intro final
  obtain ⟨first, second, stands⟩ :
      ((twoVersions.run (List.replicate 15 [true, false]).flatten (twoVersions.start
        ⟨[([[0x75], Utf8.encode (Name.staging 0)], .full), ([[0x75]], .directory)]⟩)).workers
          false).phase = .done .ioError ∧
      ((twoVersions.run (List.replicate 15 [true, false]).flatten (twoVersions.start
        ⟨[([[0x75], Utf8.encode (Name.staging 0)], .full), ([[0x75]], .directory)]⟩)).workers
          true).phase = .done .success ∧
      (twoVersions.run (List.replicate 15 [true, false]).flatten (twoVersions.start
        ⟨[([[0x75], Utf8.encode (Name.staging 0)], .full), ([[0x75]], .directory)]⟩)).tree.get?
          [[0x75], Utf8.encode "a"] = some .full := by
    cbv
  refine ⟨fun index => ?_, fun index => ?_, ?_⟩
  · cases index with
    | false => exact ⟨_, first⟩
    | true => exact ⟨_, second⟩
  · cases index with
    | false =>
        exact ⟨[120, 121], ⟨[97], 2⟩, [0, 1, 97, 0, 0, 0, 0, 0, 0, 0, 2], [120, 121], by cbv,
          by decide, by cbv, by cbv, by decide⟩
    | true =>
        exact ⟨[122], ⟨[97], 1⟩, [0, 1, 97, 0, 0, 0, 0, 0, 0, 0, 1], [122], by cbv,
          by decide, by cbv, by cbv, by decide⟩
  · rintro ⟨index, content, -, other⟩
    have same := stands.symm.trans other
    cases same

end Workload

end Receiver

end FilePush
