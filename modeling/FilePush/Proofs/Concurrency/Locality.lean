import FilePush.Proofs.Concurrency.Worker
import FilePush.Proofs.FileTree.Folders

/-!
# What a worker sees and changes

A step of a worker depends on the files only by what stands in the unfinished file and by which
places are directories.  It changes nothing but the unfinished file and, when it gives that file its
name, the place of that name; it never makes a directory or takes one away.
-/

namespace FilePush

open FileTree (SameFolders)

namespace Receiver

variable {config : Config} {directory : Location} {sequence : Nat} {tree left right : FileTree}

open Worker (stagingAt)

theorem createStaging_congr {staging : String} {created : FileTree}
    (folders : SameFolders left right)
    (creates : createStaging config directory staging left = .ok created) :
    ∃ other, createStaging config directory staging right = .ok other := by
  obtain ⟨reachable, made⟩ := createStaging_eq_ok creates
  obtain ⟨inside, short, free⟩ := FileTree.create_eq_ok made
  rw [Ne, folders] at free
  rw [folders] at inside
  simp only [createStaging, reachable]
  exact FileTree.exists_create inside short free

theorem get?_createStaging_of_ne {created : FileTree} {place : Location}
    (creates : createStaging config directory (Name.staging sequence) tree = .ok created)
    (elsewhere : place ≠ stagingAt directory sequence) :
    created.get? place = tree.get? place := by
  rw [FileTree.get?_create (createStaging_eq_ok creates).2]
  exact if_neg fun both => elsewhere both.1

theorem sameFolders_createStaging {created : FileTree}
    (creates : createStaging config directory (Name.staging sequence) tree = .ok created) :
    SameFolders tree created := by
  intro place
  obtain ⟨-, -, free⟩ := FileTree.create_eq_ok (createStaging_eq_ok creates).2
  by_cases here : place = stagingAt directory sequence
  · subst here
    have stands := get?_createStaging creates
    constructor
    · intro folder
      exact absurd folder free
    · intro folder
      rw [show created.get? (stagingAt directory sequence) = _ from stands] at folder
      split at folder
      · simp at folder
      · simp at folder
  · rw [get?_createStaging_of_ne creates here]

/-- The place of a file that was received under a name. -/
def entryAt (directory : Location) (target : Target) : Location :=
  directory ++ [Utf8.encode target.val]

theorem entryAt_ne_stagingAt (directory : Location) (target : Target) (sequence : Nat) :
    entryAt directory target ≠ stagingAt directory sequence :=
  entry_ne_staging_of_isStorable directory target.property sequence

theorem stagingAt_injective {directory : Location} {left right : Nat}
    (same : stagingAt directory left = stagingAt directory right) : left = right :=
  Name.staging_injective (entry_injective same)

theorem publish_congr {target : Target} {published : FileTree} (folders : SameFolders left right)
    (own : left.get? (stagingAt directory sequence) = right.get? (stagingAt directory sequence))
    (publishes : publish config directory (Name.staging sequence) target left = .ok published) :
    ∃ other, publish config directory (Name.staging sequence) target right = .ok other := by
  obtain ⟨reachable, renames⟩ := publish_eq_ok publishes
  obtain ⟨node, stands, short, free⟩ := FileTree.rename_eq_ok renames
  rw [Ne, folders] at free
  simp only [publish, reachable]
  exact FileTree.exists_rename (own.symm.trans stands) short free

theorem get?_publish {target : Target} {published : FileTree}
    (publishes : publish config directory (Name.staging sequence) target tree = .ok published)
    (place : Location) :
    published.get? place =
      if place = entryAt directory target then tree.get? (stagingAt directory sequence)
      else if place = stagingAt directory sequence then none
      else tree.get? place :=
  FileTree.get?_rename (publish_eq_ok publishes).2 place

theorem sameFolders_publish {target : Target} {published : FileTree}
    (file : tree.get? (stagingAt directory sequence) ≠ some .directory)
    (publishes : publish config directory (Name.staging sequence) target tree = .ok published) :
    SameFolders tree published := by
  intro place
  obtain ⟨-, -, -, free⟩ := FileTree.rename_eq_ok (publish_eq_ok publishes).2
  rw [get?_publish publishes]
  by_cases there : place = entryAt directory target
  · rw [if_pos there, there]
    exact ⟨fun folder => absurd folder free, fun folder => absurd folder file⟩
  · rw [if_neg there]
    by_cases here : place = stagingAt directory sequence
    · rw [if_pos here, here]
      simp [file]
    · rw [if_neg here]

/-- How far the serving of a connection is. -/
inductive Stage
  /-- There is no unfinished file yet. -/
  | early
  /-- There is an unfinished file. -/
  | holding
  /-- The unfinished file was given its name, or never will be. -/
  | past

/-- How far a worker in a phase is. -/
def Phase.stage : Phase → Stage
  | .length _ | .name _ _ | .size _ _ | .opening _ _ => .early
  | .receiving _ _ _ | .storing _ _ _ _ | .closing _ _ _ _ | .publishing _ _ _ => .holding
  | .answering _ | .done _ => .past

/-- An attempt to give a file its name: what it put where, if it succeeded. -/
abbrev Attempt := Option (Location × Node)

namespace Worker

/-- An attempt of a worker to give its file a name, with what it puts where if it succeeds. -/
def attempt? (config : Config) (directory : Location) (sequence : Nat) (worker : Worker)
    (tree : FileTree) : Option Attempt :=
  match worker.phase with
  | .publishing target _ _ =>
      match publish config directory (Name.staging sequence) target tree with
      | .error _ => some none
      | .ok _ =>
          some ((tree.get? (stagingAt directory sequence)).map fun node =>
            (entryAt directory target, node))
  | _ => none

/-- What a worker comes to that added a chunk to its file. -/
def stored (worker : Worker) (target : Target) (session : Session) (chunk : Bytes)
    (file : OpenFile) : Option IoError → Worker
  | some _ => worker.turn (.closing target session file.unreported (some .ioError))
  | none =>
      { worker with
        phase := .receiving target (session.record chunk worker.clock.now.1).2 file.unreported
        clock := worker.clock.now.2 }

/-- How the next step of a worker uses the files. -/
inductive Use (config : Config) (directory : Location) (sequence : Nat) (worker : Worker) : Prop
  /-- Not at all. -/
  | nothing (next : Worker)
      (steps : ∀ tree, worker.step config directory sequence tree = (next, tree))
      (onward : next.phase.stage = worker.phase.stage ∨ next.phase.stage = .past)
      (silent : ∀ tree, worker.attempt? config directory sequence tree = none)
  /-- It creates the unfinished file. -/
  | create (next failed : Worker)
      (steps : ∀ tree, worker.step config directory sequence tree =
        match createStaging config directory (Name.staging sequence) tree with
        | .ok created => (next, created)
        | .error _ => (failed, tree))
      (early : worker.phase.stage = .early) (holding : next.phase.stage = .holding)
      (past : failed.phase.stage = .past)
      (silent : ∀ tree, worker.attempt? config directory sequence tree = none)
  /-- It adds to the unfinished file. -/
  | add (next : OpenFile → Option IoError → Worker) (file : OpenFile) (chunk : Bytes)
      (place : file.location = stagingAt directory sequence)
      (steps : ∀ tree, worker.step config directory sequence tree =
        (next (file.write tree chunk).1 (file.write tree chunk).2.2, (file.write tree chunk).2.1))
      (holding : worker.phase.stage = .holding)
      (still : ∀ file failure, (next file failure).phase.stage = .holding)
      (silent : ∀ tree, worker.attempt? config directory sequence tree = none)
  /-- It gives the unfinished file its name. -/
  | name (target : Target) (next failed : Worker)
      (steps : ∀ tree, worker.step config directory sequence tree =
        match publish config directory (Name.staging sequence) target tree with
        | .ok published => (next, published)
        | .error _ => (failed, tree))
      (holding : worker.phase.stage = .holding) (past : next.phase.stage = .past)
      (failed_past : failed.phase.stage = .past)
      (attempts : ∀ tree, worker.attempt? config directory sequence tree =
        match publish config directory (Name.staging sequence) target tree with
        | .error _ => some none
        | .ok _ =>
            some ((tree.get? (stagingAt directory sequence)).map fun node =>
              (entryAt directory target, node)))

theorem outcome_settle_error (session : Session) (failure : Option Outcome)
    (left right : FileError) :
    (settle session failure (.error left)).outcome =
      (settle session failure (.error right)).outcome := by
  cases failure <;> rfl

theorem uses (config : Config) (directory : Location) (sequence : Nat) (worker : Worker) :
    Use config directory sequence worker := by
  cases phase : worker.phase with
  | opening target size =>
      refine .create
        { worker with
          phase := .receiving target
            (Session.start sequence size config.sampleInterval worker.clock.now.1) none
          clock := worker.clock.now.2 }
        (worker.turn (.done .ioError)) (fun tree => ?_) (by rw [phase]; rfl) rfl rfl
        fun tree => by simp only [attempt?, phase]
      simp only [step, phase]
      split
      · next failed => rw [failed]
      · next creates => rw [creates]
  | storing target session unreported chunk =>
      refine .add
        (worker.stored target session chunk) ⟨stagingAt directory sequence, unreported⟩ chunk rfl
        (fun tree => ?_) (by rw [phase]; rfl) (fun file failure => ?_)
        fun tree => by simp only [attempt?, phase]
      · simp only [step, phase]
        split
        · next written =>
            rw [written]
            rfl
        · next written =>
            rw [written]
            rfl
      · cases failure <;> rfl
  | publishing target session failure =>
      refine .name target (worker.turn (.answering (settle session failure (.ok ())).outcome))
        (worker.turn (.answering (settle session failure
          (.error (.write (entryPath config target) .notFound))).outcome))
        (fun tree => ?_) (by rw [phase]; rfl) rfl rfl fun tree => by simp only [attempt?, phase]
      simp only [step, phase]
      split
      · next error failed =>
          rw [failed]
          simp only
          rw [outcome_settle_error]
      · next publishes => rw [publishes]
  | _ =>
      refine .nothing (worker.step config directory sequence .empty).1 (fun tree => ?_) ?_
        fun tree => ?_
      · simp only [step, phase]
        repeat' split
        all_goals rfl
      · simp only [step, phase, readOn]
        repeat' split
        all_goals simp [turn, took, Phase.stage]
      · simp only [attempt?, phase]

/-- What stands at a place after an attempt to put something somewhere. -/
def land (place : Location) (found : Option Node) : Attempt → Option Node
  | none => found
  | some (target, node) => if place = target then some node else found

/-- A worker that has an unfinished file has a file and no directory. -/
def Sound (directory : Location) (sequence : Nat) (worker : Worker) (tree : FileTree) : Prop :=
  worker.phase.stage = .holding → tree.get? (stagingAt directory sequence) ≠ some .directory

variable {worker : Worker} {place : Location}

theorem attempt?_eq_some {node : Node}
    (attempts : worker.attempt? config directory sequence tree = some (some (place, node))) :
    ∃ target, place = entryAt directory target ∧ worker.phase.stage = .holding ∧
      tree.get? (stagingAt directory sequence) = some node ∧
      tree.get? place ≠ some .directory := by
  cases worker.uses config directory sequence with
  | nothing next steps onward silent => simp [silent] at attempts
  | create next failed steps early holding past silent => simp [silent] at attempts
  | add next file chunk place steps holding still silent => simp [silent] at attempts
  | name target next failed steps holding past failed_past attempted =>
      rw [attempted] at attempts
      split at attempts
      · simp at attempts
      · next published publishes =>
          obtain ⟨-, renames⟩ := publish_eq_ok publishes
          obtain ⟨-, -, -, free⟩ := FileTree.rename_eq_ok renames
          simp only [Option.some.injEq, Option.map_eq_some_iff, Prod.mk.injEq] at attempts
          obtain ⟨found, stands, rfl, rfl⟩ := attempts
          exact ⟨target, rfl, holding, stands, free⟩

/-- A step changes no place but that of the unfinished file and the one it gives a file to. -/
theorem get?_step (elsewhere : place ≠ stagingAt directory sequence) :
    (worker.step config directory sequence tree).2.get? place =
      land place (tree.get? place) (worker.attempt? config directory sequence tree).join := by
  cases worker.uses config directory sequence with
  | nothing next steps onward silent =>
      rw [steps, silent]
      rfl
  | create next failed steps early holding past silent =>
      rw [steps, silent]
      split
      · next creates => exact get?_createStaging_of_ne creates elsewhere
      · rfl
  | add next file chunk here steps holding still silent =>
      rw [steps, silent]
      exact OpenFile.get?_write_of_ne (here ▸ elsewhere)
  | name target next failed steps holding past failed_past attempts =>
      rw [steps, attempts]
      cases publishes : publish config directory (Name.staging sequence) target tree with
      | ok published =>
          obtain ⟨-, renames⟩ := publish_eq_ok publishes
          obtain ⟨node, stands, -, -⟩ := FileTree.rename_eq_ok renames
          simp only [get?_publish publishes, if_neg elsewhere]
          rw [show tree.get? (stagingAt directory sequence) = some node from stands]
          rfl
      | error error => rfl

/-- A step does not change the unfinished file of another connection. -/
theorem get?_stagingAt_step {other : Nat} (unlike : other ≠ sequence) :
    (worker.step config directory sequence tree).2.get? (stagingAt directory other) =
      tree.get? (stagingAt directory other) := by
  rw [get?_step fun same => unlike (stagingAt_injective same)]
  cases attempts : worker.attempt? config directory sequence tree with
  | none => rfl
  | some moved =>
      cases moved with
      | none => rfl
      | some pair =>
          obtain ⟨target, place, -⟩ := attempt?_eq_some attempts
          have apart := (entryAt_ne_stagingAt directory target other).symm
          rw [← place] at apart
          exact if_neg apart

theorem sound_step (sound : Sound directory sequence worker tree) :
    Sound directory sequence (worker.step config directory sequence tree).1
      (worker.step config directory sequence tree).2 := by
  intro holds
  cases worker.uses config directory sequence with
  | nothing next steps onward silent =>
      rw [steps] at holds ⊢
      rcases onward with same | past
      · exact sound (same.symm.trans holds)
      · simp [past] at holds
  | create next failed steps early holding past silent =>
      rw [steps] at holds ⊢
      split
      · next created creates =>
          rw [show created.get? (stagingAt directory sequence) = _ from get?_createStaging creates]
          split
          · simp
          · simp
      · next failed => simp [failed, past] at holds
  | add next file chunk here steps holding still silent =>
      rw [steps, Ne, ← OpenFile.sameFolders_write file tree chunk]
      exact sound holding
  | name target next failed steps holding past failed_past attempts =>
      rw [steps] at holds
      split at holds
      · simp [past] at holds
      · simp [failed_past] at holds

/-- A step neither makes a directory nor takes one away. -/
theorem sameFolders_step (sound : Sound directory sequence worker tree) :
    SameFolders tree (worker.step config directory sequence tree).2 := by
  cases worker.uses config directory sequence with
  | nothing next steps onward silent =>
      rw [steps]
      exact SameFolders.refl tree
  | create next failed steps early holding past silent =>
      rw [steps]
      split
      · next creates => exact sameFolders_createStaging creates
      · exact SameFolders.refl tree
  | add next file chunk here steps holding still silent =>
      rw [steps]
      exact OpenFile.sameFolders_write file tree chunk
  | name target next failed steps holding past failed_past attempts =>
      rw [steps]
      split
      · next published publishes => exact sameFolders_publish (sound holding) publishes
      · exact SameFolders.refl tree

/-- A step depends on the files only by the unfinished file and the directories. -/
theorem step_congr (folders : SameFolders left right)
    (own : left.get? (stagingAt directory sequence) = right.get? (stagingAt directory sequence)) :
    (worker.step config directory sequence left).1 =
        (worker.step config directory sequence right).1 ∧
      (worker.step config directory sequence left).2.get? (stagingAt directory sequence) =
        (worker.step config directory sequence right).2.get? (stagingAt directory sequence) ∧
      worker.attempt? config directory sequence left =
        worker.attempt? config directory sequence right := by
  cases worker.uses config directory sequence with
  | nothing next steps onward silent =>
      rw [steps, steps, silent, silent]
      exact ⟨rfl, own, rfl⟩
  | create next failed steps early holding past silent =>
      rw [steps, steps, silent, silent]
      cases creates : createStaging config directory (Name.staging sequence) left with
      | ok created =>
          obtain ⟨other, also⟩ := createStaging_congr folders creates
          rw [also]
          refine ⟨rfl, ?_, rfl⟩
          have first := get?_createStaging creates
          have second := get?_createStaging also
          rw [show left.get? (directory ++ [Utf8.encode (Name.staging sequence)]) = _ from own]
            at first
          exact first.trans second.symm
      | error error =>
          cases also : createStaging config directory (Name.staging sequence) right with
          | ok created =>
              obtain ⟨other, created⟩ := createStaging_congr folders.symm also
              simp [creates] at created
          | error other => exact ⟨rfl, own, rfl⟩
  | add next file chunk here steps holding still silent =>
      rw [steps, steps, silent, silent]
      rw [← here] at own ⊢
      obtain ⟨file_same, failure_same, written_same⟩ :=
        @OpenFile.write_congr file left right chunk own
      rw [file_same, failure_same]
      exact ⟨rfl, written_same, rfl⟩
  | name target next failed steps holding past failed_past attempts =>
      rw [steps, steps, attempts, attempts]
      cases publishes : publish config directory (Name.staging sequence) target left with
      | ok published =>
          obtain ⟨other, also⟩ := publish_congr folders own publishes
          rw [also]
          refine ⟨rfl, ?_, by rw [own]⟩
          simp only [get?_publish publishes, get?_publish also,
            if_neg (entryAt_ne_stagingAt directory target sequence).symm, if_true]
      | error error =>
          cases also : publish config directory (Name.staging sequence) target right with
          | ok published =>
              obtain ⟨other, published⟩ := publish_congr folders.symm own.symm also
              simp [publishes] at published
          | error other => exact ⟨rfl, own, rfl⟩

/-- A worker that tries to give its file a name does not try again. -/
theorem past_of_attempt {moved : Attempt}
    (attempts : worker.attempt? config directory sequence tree = some moved) :
    worker.phase.stage = .holding ∧
      (worker.step config directory sequence tree).1.phase.stage = .past := by
  cases worker.uses config directory sequence with
  | nothing next steps onward silent => simp [silent] at attempts
  | create next failed steps early holding past silent => simp [silent] at attempts
  | add next file chunk place steps holding still silent => simp [silent] at attempts
  | name target next failed steps holding past failed_past attempted =>
      refine ⟨holding, ?_⟩
      rw [steps]
      split
      · exact past
      · exact failed_past

theorem past_step (past : worker.phase.stage = .past) :
    (worker.step config directory sequence tree).1.phase.stage = .past := by
  cases worker.uses config directory sequence with
  | nothing next steps onward silent =>
      rw [steps]
      rcases onward with same | past'
      · exact same.trans past
      · exact past'
  | create next failed steps early => simp [past] at early
  | add next file chunk place steps holding => simp [past] at holding
  | name target next failed steps holding => simp [past] at holding

end Worker

end Receiver

end FilePush
