import FilePush.Proofs.Concurrency.Locality
import Mathlib.Data.List.Count
import Mathlib.Data.List.Induction
import Mathlib.Data.List.Nodup
import Mathlib.Logic.Function.Basic

/-!
# Serving connections at the same time

Connections that are served at the same time into one directory take their steps in any order.  What
becomes of each of them depends only on how many steps it takes; what becomes of the files depends
besides on the order in which the files are given their names.
-/

namespace FilePush

namespace Receiver

open FileTree (SameFolders)
open Worker (stagingAt)

/-- Connections to be served into one directory. -/
structure Workload (Index : Type) where
  /-- The configuration. -/
  config : Config
  /-- Where the uploads directory stands. -/
  directory : Location
  /-- The number of each connection. -/
  sequence : Index → Nat
  /-- The connections. -/
  connection : Index → Connection
  /-- The clock that each of them is served by. -/
  clock : Index → Clock
  /-- No two connections have the same number. -/
  apart : Function.Injective sequence

/-- Connections that are being served at the same time. -/
structure Progress (Index : Type) where
  /-- The worker of each connection. -/
  workers : Index → Worker
  /-- The files. -/
  tree : FileTree
  /-- The attempts to give a file its name, in order, and what each of them put where. -/
  attempts : List (Index × Attempt)

/-- The connections that tried to give their file its name, in order. -/
def Progress.renamers {Index : Type} (progress : Progress Index) : List Index :=
  progress.attempts.map (·.1)

/-- The attempts that put something at a place, in order: the connection and what it put there. -/
def Progress.renamesOnto {Index : Type} (progress : Progress Index) (place : Location) :
    List (Index × Node) :=
  progress.attempts.filterMap fun attempt =>
    attempt.2.bind fun moved => if place = moved.1 then some (attempt.1, moved.2) else none

theorem Progress.mem_renamesOnto {Index : Type} {progress : Progress Index} {place : Location}
    {index : Index} {node : Node} :
    (index, node) ∈ progress.renamesOnto place ↔
      (index, some (place, node)) ∈ progress.attempts := by
  simp only [renamesOnto, List.mem_filterMap, Option.bind_eq_some_iff]
  constructor
  · rintro ⟨⟨other, tried⟩, member, ⟨target, moved⟩, rfl, found⟩
    split at found
    · next here =>
        cases found
        exact here ▸ member
    · cases found
  · intro member
    exact ⟨_, member, _, rfl, if_pos rfl⟩

namespace Workload

variable {Index : Type} (work : Workload Index)

/-- Nothing has been done yet. -/
def start (tree : FileTree) : Progress Index :=
  ⟨fun index => .start (work.connection index) (work.clock index), tree, []⟩

/-- The place of the unfinished file of a connection. -/
def own (index : Index) : Location := stagingAt work.directory (work.sequence index)

/-- The directories are those of `tree`, and no unfinished file is one of them. -/
structure Sound (tree : FileTree) (progress : Progress Index) : Prop where
  /-- The directories are as they were. -/
  folders : SameFolders tree progress.tree
  /-- No unfinished file is a directory. -/
  files : ∀ index,
    (progress.workers index).Sound work.directory (work.sequence index) progress.tree

theorem sound_start (tree : FileTree) : work.Sound tree (work.start tree) where
  folders := SameFolders.refl tree
  files := fun _ holds => by cases holds

variable [DecidableEq Index]

/-- One step of one of the connections. -/
def turn (progress : Progress Index) (index : Index) : Progress Index :=
  let worker := progress.workers index
  let next := worker.step work.config work.directory (work.sequence index) progress.tree
  let attempt? := worker.attempt? work.config work.directory (work.sequence index) progress.tree
  { workers := Function.update progress.workers index next.1
    tree := next.2
    attempts := progress.attempts ++ (attempt?.map fun moved => (index, moved)).toList }

/-- The connections take steps in the order of a schedule. -/
def run (schedule : List Index) (progress : Progress Index) : Progress Index :=
  schedule.foldl work.turn progress

theorem run_append (front back : List Index) (progress : Progress Index) :
    work.run (front ++ back) progress = work.run back (work.run front progress) :=
  List.foldl_append

theorem run_concat (schedule : List Index) (index : Index) (progress : Progress Index) :
    work.run (schedule ++ [index]) progress = work.turn (work.run schedule progress) index :=
  work.run_append schedule [index] progress

/-- A connection is as far in one state as in another. -/
structure Alike (index : Index) (left right : Progress Index) : Prop where
  /-- Its worker is in the same state. -/
  worker : left.workers index = right.workers index
  /-- Its unfinished file is the same. -/
  own : left.tree.get? (work.own index) = right.tree.get? (work.own index)
  /-- Its attempts are the same. -/
  attempts :
    left.attempts.filter (fun attempt => attempt.1 = index) =
      right.attempts.filter (fun attempt => attempt.1 = index)

variable {work} {tree : FileTree} {progress left right : Progress Index} {index other : Index}

theorem workers_turn_self :
    (work.turn progress index).workers index =
      ((progress.workers index).step work.config work.directory (work.sequence index)
        progress.tree).1 :=
  Function.update_self _ _ _

theorem workers_turn_of_ne (unlike : index ≠ other) :
    (work.turn progress other).workers index = progress.workers index :=
  Function.update_of_ne unlike _ _

theorem tree_turn :
    (work.turn progress index).tree =
      ((progress.workers index).step work.config work.directory (work.sequence index)
        progress.tree).2 :=
  rfl

theorem get?_own_turn (unlike : index ≠ other) :
    (work.turn progress other).tree.get? (work.own index) = progress.tree.get? (work.own index) :=
  Worker.get?_stagingAt_step fun same => unlike (work.apart same)

theorem attempts_turn :
    (work.turn progress index).attempts = progress.attempts ++
      (((progress.workers index).attempt? work.config work.directory (work.sequence index)
        progress.tree).map fun moved => (index, moved)).toList :=
  rfl

theorem sound_turn (sound : work.Sound tree progress) (index : Index) :
    work.Sound tree (work.turn progress index) where
  folders := sound.folders.trans (Worker.sameFolders_step (sound.files index))
  files := fun other => by
    by_cases same : other = index
    · subst same
      rw [workers_turn_self, tree_turn]
      exact Worker.sound_step (sound.files other)
    · rw [Worker.Sound, workers_turn_of_ne same]
      intro holds
      have kept := sound.files other holds
      rwa [← own, ← get?_own_turn same] at kept

theorem sound_run (sound : work.Sound tree progress) (schedule : List Index) :
    work.Sound tree (work.run schedule progress) := by
  induction schedule generalizing progress with
  | nil => exact sound
  | cons index later induction => exact induction (sound_turn sound index)

theorem sameFolders_run (work : Workload Index) (tree : FileTree) (left right : List Index) :
    SameFolders (work.run left (work.start tree)).tree (work.run right (work.start tree)).tree :=
  have sound := work.sound_start tree
  (sound_run sound left).folders.symm.trans (sound_run sound right).folders

theorem alike_turn_self (alike : work.Alike index left right)
    (folders : SameFolders left.tree right.tree) :
    work.Alike index (work.turn left index) (work.turn right index) := by
  obtain ⟨next, own, attempt⟩ := @Worker.step_congr work.config work.directory
    (work.sequence index) left.tree right.tree (right.workers index) folders alike.own
  constructor
  · rw [workers_turn_self, workers_turn_self, alike.worker, next]
  · rw [tree_turn, tree_turn, alike.worker]
    exact own
  · rw [attempts_turn, attempts_turn, List.filter_append, List.filter_append, alike.attempts,
      alike.worker, attempt]

theorem alike_turn_other (alike : work.Alike index left right) (unlike : index ≠ other) :
    work.Alike index (work.turn left other) right := by
  constructor
  · rw [workers_turn_of_ne unlike, alike.worker]
  · rw [get?_own_turn unlike, alike.own]
  · rw [← alike.attempts, attempts_turn, List.filter_append, List.append_right_eq_self]
    apply List.filter_eq_nil_iff.mpr
    intro attempt member
    rw [Option.mem_toList] at member
    obtain ⟨moved, -, rfl⟩ := Option.map_eq_some_iff.mp member
    simpa using unlike.symm

/-- What becomes of a connection is what becomes of it if it takes its steps alone. -/
theorem alike_alone (work : Workload Index) (tree : FileTree) (index : Index)
    (schedule : List Index) :
    work.Alike index (work.run schedule (work.start tree))
      (work.run (List.replicate (schedule.count index) index) (work.start tree)) := by
  induction schedule using List.reverseRecOn with
  | nil => exact ⟨rfl, rfl, rfl⟩
  | append_singleton earlier last induction =>
      rw [run_concat]
      by_cases same : index = last
      · subst same
        rw [List.count_append, List.count_singleton_self, List.replicate_succ', run_concat]
        exact alike_turn_self induction (work.sameFolders_run tree _ _)
      · rw [List.count_append, List.count_singleton, if_neg (by simpa using Ne.symm same),
          Nat.add_zero]
        exact alike_turn_other induction same

/-- What becomes of a connection depends only on how many steps it takes. -/
theorem alike_run (work : Workload Index) (tree : FileTree) {left right : List Index}
    (count : left.count index = right.count index) :
    work.Alike index (work.run left (work.start tree)) (work.run right (work.start tree)) := by
  have one := work.alike_alone tree index left
  have two := work.alike_alone tree index right
  rw [← count] at two
  exact ⟨one.worker.trans two.worker.symm, one.own.trans two.own.symm,
    one.attempts.trans two.attempts.symm⟩

/-- A step puts something at a place if it is an attempt that does. -/
theorem renamesOnto_turn (place : Location) :
    (work.turn progress index).renamesOnto place = progress.renamesOnto place ++
      ((((progress.workers index).attempt? work.config work.directory (work.sequence index)
        progress.tree).join.bind fun moved =>
          if place = moved.1 then some (index, moved.2) else none).toList) := by
  rw [Progress.renamesOnto, attempts_turn, List.filterMap_append]
  cases (progress.workers index).attempt? work.config work.directory (work.sequence index)
      progress.tree with
  | none => rfl
  | some moved =>
      cases moved with
      | none => rfl
      | some moved =>
          by_cases here : place = moved.1
          · simp [Progress.renamesOnto, here]
          · simp [Progress.renamesOnto, here]

/-- What stands where no unfinished file does is what was put there last, or what stood there. -/
theorem get?_run (work : Workload Index) (tree : FileTree) (schedule : List Index)
    {place : Location} (elsewhere : ∀ index, place ≠ work.own index) :
    (work.run schedule (work.start tree)).tree.get? place =
      (((work.run schedule (work.start tree)).renamesOnto place).getLast?.map (·.2)).or
        (tree.get? place) := by
  induction schedule using List.reverseRecOn with
  | nil => rfl
  | append_singleton earlier last induction =>
      rw [run_concat, tree_turn, Worker.get?_step (elsewhere last), induction, renamesOnto_turn]
      cases (((work.run earlier (work.start tree)).workers last).attempt? work.config
          work.directory (work.sequence last) (work.run earlier (work.start tree)).tree).join with
      | none => simp [Worker.land]
      | some moved =>
          by_cases here : place = moved.1
          · simp [Worker.land, here]
          · simp [Worker.land, here]

/-- Each connection tries to give its file a name at most once. -/
structure Once (progress : Progress Index) : Prop where
  /-- No connection tries twice. -/
  nodup : progress.renamers.Nodup
  /-- A connection that has tried will not try again. -/
  past : ∀ index ∈ progress.renamers, (progress.workers index).phase.stage = .past

theorem once_turn (once : Once progress) (index : Index) : Once (work.turn progress index) := by
  have kept : ∀ other ∈ progress.renamers,
      ((work.turn progress index).workers other).phase.stage = .past := by
    intro other member
    by_cases same : other = index
    · subst same
      rw [workers_turn_self]
      exact Worker.past_step (once.past other member)
    · rw [workers_turn_of_ne same]
      exact once.past other member
  cases attempts : (progress.workers index).attempt? work.config work.directory
      (work.sequence index) progress.tree with
  | none =>
      have same : (work.turn progress index).renamers = progress.renamers := by
        simp [Progress.renamers, attempts_turn, attempts]
      constructor
      · rw [same]
        exact once.nodup
      · rw [same]
        exact kept
  | some moved =>
      have longer : (work.turn progress index).renamers = progress.renamers ++ [index] := by
        simp [Progress.renamers, attempts_turn, attempts]
      obtain ⟨holding, past⟩ := Worker.past_of_attempt attempts
      have first : index ∉ progress.renamers := by
        intro member
        have before := once.past index member
        simp [holding] at before
      constructor
      · rw [longer, ← List.concat_eq_append]
        exact once.nodup.concat first
      · rw [longer]
        intro other member
        rcases List.mem_append.mp member with earlier | last
        · exact kept other earlier
        · obtain rfl := List.mem_singleton.mp last
          rw [workers_turn_self]
          exact past

theorem once_run (work : Workload Index) (tree : FileTree) (schedule : List Index) :
    Once (work.run schedule (work.start tree)) := by
  induction schedule using List.reverseRecOn with
  | nil => exact ⟨List.nodup_nil, fun _ member => by cases member⟩
  | append_singleton earlier last induction =>
      rw [run_concat]
      exact once_turn induction last

/-- A list of pairs is known by its keys and by what it holds for each of them. -/
theorem eq_of_keys {Value : Type} {left right : List (Index × Value)}
    (keys : left.map (·.1) = right.map (·.1))
    (same : ∀ index, left.filter (fun pair => pair.1 = index) =
      right.filter (fun pair => pair.1 = index)) :
    left = right := by
  induction left generalizing right with
  | nil => exact (List.map_eq_nil_iff.mp keys.symm).symm
  | cons first rest induction =>
      cases right with
      | nil => simp at keys
      | cons second others =>
          simp only [List.map_cons, List.cons.injEq] at keys
          have heads := same first.1
          rw [List.filter_cons_of_pos (by simp),
            List.filter_cons_of_pos (by simp [keys.1])] at heads
          obtain ⟨equal, -⟩ := List.cons.inj heads
          subst equal
          rw [induction keys.2 fun index => ?_]
          by_cases here : first.1 = index
          · have tails := same index
            rw [List.filter_cons_of_pos (by simpa), List.filter_cons_of_pos (by simpa)] at tails
            exact (List.cons.inj tails).2
          · have tails := same index
            rwa [List.filter_cons_of_neg (by simpa), List.filter_cons_of_neg (by simpa)] at tails

/--
Two schedules in which each connection takes as many steps, and in which the files are given their
names in the same order, leave the same.
-/
theorem run_eq_of_renamers (work : Workload Index) (tree : FileTree) {left right : List Index}
    (counts : ∀ index, left.count index = right.count index)
    (order : (work.run left (work.start tree)).renamers =
      (work.run right (work.start tree)).renamers) :
    (∀ index, (work.run left (work.start tree)).workers index =
        (work.run right (work.start tree)).workers index) ∧
      ∀ place, (work.run left (work.start tree)).tree.get? place =
        (work.run right (work.start tree)).tree.get? place := by
  have alike := fun index => work.alike_run tree (counts index)
  refine ⟨fun index => (alike index).worker, fun place => ?_⟩
  by_cases elsewhere : ∀ index, place ≠ work.own index
  · have attempts := eq_of_keys order fun index => (alike index).attempts
    rw [work.get?_run tree left elsewhere, work.get?_run tree right elsewhere,
      Progress.renamesOnto, Progress.renamesOnto, attempts]
  · simp only [not_forall, not_not] at elsewhere
    obtain ⟨index, rfl⟩ := elsewhere
    exact (alike index).own

end Workload

end Receiver

end FilePush
