import FilePush.Proofs.Name.Staging
import FilePush.Server.Service
import Mathlib.Data.List.Nodup
import Mathlib.Data.List.Perm.Subperm

/-!
# What an accept loop keeps

The steps of an accept loop may follow each other in any order that the loop and its permits allow.
However they do, the connections accepted are numbered from zero without a gap, and every permit is
free, with the loop or with a connection that is being served.
-/

namespace FilePush

namespace AcceptLoop

/-- The steps that an accept loop can take. -/
inductive Step : AcceptLoop → AcceptStep → AcceptLoop → Prop
  /-- The loop takes a permit, if connections are limited. -/
  | prepare (sequence : Nat) (free : Option Nat) (live : List Nat) :
      Step ⟨sequence, free.map (· + 1), false, live⟩ .prepare ⟨sequence, free, true, live⟩
  /-- The connection accepted is given the next number and keeps the permit. -/
  | accept (sequence : Nat) (free : Option Nat) (live : List Nat) :
      Step ⟨sequence, free, true, live⟩ .accept ⟨sequence + 1, free, false, sequence :: live⟩
  /-- The loop gives its permit back. -/
  | acceptFailed (sequence : Nat) (free : Option Nat) (live : List Nat) :
      Step ⟨sequence, free, true, live⟩ .acceptFailed ⟨sequence, free.map (· + 1), false, live⟩
  /-- A connection that has been served gives its permit back. -/
  | finish (sequence : Nat) (free : Option Nat) (isReady : Bool) {live : List Nat} {number : Nat}
      (served : number ∈ live) :
      Step ⟨sequence, free, isReady, live⟩ (.finish number)
        ⟨sequence, free.map (· + 1), isReady, live.erase number⟩

variable {limit : Option Nat} {accepted : List Nat} {loop next : AcceptLoop} {event : AcceptStep}

theorem step?_eq_some_iff : loop.step? event = some next ↔ Step loop event next := by
  constructor
  · intro steps
    obtain ⟨sequence, free, isReady, live⟩ := loop
    cases event with
    | prepare =>
        cases isReady with
        | true => simp [step?] at steps
        | false =>
            match free with
            | none =>
                cases steps
                exact .prepare sequence none live
            | some 0 => simp [step?] at steps
            | some (free + 1) =>
                cases steps
                exact .prepare sequence (some free) live
    | accept =>
        cases isReady with
        | true =>
            cases steps
            exact .accept sequence free live
        | false => simp [step?] at steps
    | acceptFailed =>
        cases isReady with
        | true =>
            cases steps
            exact .acceptFailed sequence free live
        | false => simp [step?] at steps
    | finish number =>
        by_cases served : number ∈ live
        · simp only [step?, if_pos served, Option.some.injEq] at steps
          subst steps
          exact .finish sequence free isReady served
        · simp [step?, served] at steps
  · intro steps
    cases steps with
    | prepare sequence free live => cases free <;> rfl
    | accept | acceptFailed => rfl
    | finish sequence free isReady served =>
        simp only [step?, if_pos served]
        rfl

/-- The numbers that a step gives to connections. -/
def given (loop : AcceptLoop) : AcceptStep → List Nat
  | .accept => [loop.nextSequence]
  | .prepare | .acceptFailed | .finish _ => []

/-- A loop with a limit comes to a state when it has accepted connections with some numbers. -/
inductive Reaches (limit : Option Nat) : List Nat → AcceptLoop → Prop
  /-- No connection was accepted at the start. -/
  | start : Reaches limit [] (start limit)
  /-- A step adds the numbers that it gives. -/
  | step {accepted : List Nat} {loop next : AcceptLoop} (event : AcceptStep)
      (reaches : Reaches limit accepted loop) (steps : loop.step? event = some next) :
      Reaches limit (accepted ++ loop.given event) next

/-- The permits that are not free: one for each connection that is being served, and the loop's. -/
def heldPermits (loop : AcceptLoop) : Nat := loop.live.length + loop.isReady.toNat

/-- A permit that is given back is no longer held. -/
theorem map_add_given_back (free : Option Nat) (held : Nat) :
    (free.map (· + 1)).map (· + held) = free.map (· + (held + 1)) := by
  rw [Option.map_map]
  congr 1
  funext count
  simp only [Function.comp_apply]
  omega

/-- What every step of an accept loop keeps. -/
structure Invariant (limit : Option Nat) (accepted : List Nat) (loop : AcceptLoop) : Prop where
  /-- The connections accepted are numbered in turn. -/
  numbered : accepted = List.range loop.nextSequence
  /-- The connections that are being served are among them, each once. -/
  live : loop.live.Subperm accepted
  /-- Each permit is free or held. -/
  permits : loop.freePermits.map (· + loop.heldPermits) = limit

theorem Invariant.start (limit : Option Nat) : Invariant limit [] (start limit) where
  numbered := rfl
  live := .refl []
  permits := by cases limit <;> rfl

theorem Invariant.step (invariant : Invariant limit accepted loop) (steps : Step loop event next) :
    Invariant limit (accepted ++ loop.given event) next := by
  obtain ⟨numbered, served, permits⟩ := invariant
  subst permits
  cases steps with
  | prepare sequence free live =>
      exact ⟨by simpa [given] using numbered, by simpa [given] using served,
        (map_add_given_back free live.length).symm⟩
  | accept sequence free live =>
      refine ⟨?_, ?_, rfl⟩
      · rw [numbered, given, List.range_succ]
      · exact ((List.subperm_cons sequence).mpr served).trans
          (List.perm_append_singleton sequence accepted).symm.subperm
  | acceptFailed sequence free live =>
      exact ⟨by simpa [given] using numbered, by simpa [given] using served,
        map_add_given_back free live.length⟩
  | @finish sequence free isReady live number member =>
      refine ⟨by simpa [given] using numbered, ?_, ?_⟩
      · rw [given, List.append_nil]
        exact List.erase_sublist.subperm.trans served
      · have fewer : (live.erase number).length + 1 = live.length := by
          rw [List.length_erase_of_mem member]
          exact Nat.sub_one_add_one (List.length_pos_of_mem member).ne'
        rw [map_add_given_back, heldPermits, heldPermits, ← fewer, Nat.add_right_comm]

theorem Reaches.invariant (reaches : Reaches limit accepted loop) :
    Invariant limit accepted loop := by
  induction reaches with
  | start => exact .start limit
  | step event _ steps induction => exact induction.step (step?_eq_some_iff.mp steps)

theorem Invariant.length_live_le {most : Nat} (invariant : Invariant (some most) accepted loop) :
    loop.live.length ≤ most := by
  obtain ⟨free, -, total⟩ := Option.map_eq_some_iff.mp invariant.permits
  rw [heldPermits] at total
  omega

/-- A loop gets ready unless it is ready or connections hold all permits. -/
theorem Invariant.goes_on (invariant : Invariant limit accepted loop) :
    loop.isReady = true ∨ (∃ ready, loop.step? .prepare = some ready) ∨
      limit = some loop.live.length := by
  rw [← invariant.permits]
  obtain ⟨sequence, free, isReady, live⟩ := loop
  cases isReady with
  | true => exact .inl rfl
  | false =>
      match free with
      | none => exact .inr (.inl ⟨_, rfl⟩)
      | some 0 => exact .inr (.inr (by simp [heldPermits]))
      | some (free + 1) => exact .inr (.inl ⟨_, rfl⟩)

/-- A failure to accept leaves the loop where it was before it got ready, and it gets ready again. -/
theorem prepare_of_acceptFailed (failed : loop.step? .acceptFailed = some next) :
    next.nextSequence = loop.nextSequence ∧ next.live = loop.live ∧
      next.freePermits = loop.freePermits.map (· + 1) ∧ next.step? .prepare = some loop := by
  cases step?_eq_some_iff.mp failed with
  | acceptFailed sequence free live =>
      exact ⟨rfl, rfl, rfl, step?_eq_some_iff.mpr (.prepare sequence free live)⟩

/--
In whatever order the steps of an accept loop follow each other, the connections accepted are numbered
from zero in turn, and those that are being served are some of them.  Each permit is free, with the
loop or with a connection that is being served, so that no more than the limit are served.  A failure
to accept takes neither a number nor a permit, and the loop goes on as long as a permit is to be had.
No two of the connections have the same unfinished file.
-/
theorem numbers_in_turn (reaches : Reaches limit accepted loop) :
    accepted = List.range loop.nextSequence ∧
      (accepted.length ≤ UInt64.size → ∀ number ∈ accepted, number < UInt64.size) ∧
      loop.live.Subperm accepted ∧
      (∀ failed, loop.step? .acceptFailed = some failed →
        failed.nextSequence = loop.nextSequence ∧ failed.live = loop.live ∧
          failed.freePermits = loop.freePermits.map (· + 1) ∧
          failed.step? .prepare = some loop) ∧
      loop.freePermits.map (· + (loop.live.length + loop.isReady.toNat)) = limit ∧
      (∀ most, limit = some most → loop.live.length ≤ most) ∧
      (loop.isReady = true ∨ (∃ ready, loop.step? .prepare = some ready) ∨
        limit = some loop.live.length) ∧
      (accepted.map Name.staging).Nodup := by
  have invariant := reaches.invariant
  refine ⟨invariant.numbered, fun few number member => ?_, invariant.live,
    fun _ => prepare_of_acceptFailed, invariant.permits, ?_, invariant.goes_on, ?_⟩
  · rw [invariant.numbered] at few member
    rw [List.length_range] at few
    exact (List.mem_range.mp member).trans_le few
  · rintro most rfl
    exact invariant.length_live_le
  · rw [invariant.numbered]
    exact List.Nodup.map (fun _ _ => Name.staging_injective) List.nodup_range

/-- With one permit, a connection is accepted after a failure and the next once it has been served. -/
theorem numbers_in_turn_one_permit :
    Reaches (some 1) [0, 1] ⟨2, some 0, false, [1]⟩ ∧
      [0, 1] = List.range 2 ∧ [1].Subperm [0, 1] ∧ [1].length ≤ 1 ∧
      ([0, 1].map Name.staging).Nodup := by
  have reaches : Reaches (some 1) [0, 1] ⟨2, some 0, false, [1]⟩ := by
    have ready := Reaches.step .prepare (Reaches.start : Reaches (some 1) [] _) rfl
    have failed := ready.step .acceptFailed rfl
    have again := failed.step .prepare rfl
    have first := again.step .accept rfl
    have served := first.step (.finish 0) rfl
    have last := served.step .prepare rfl
    exact last.step .accept rfl
  obtain ⟨numbered, -, live, -, -, few, -, apart⟩ := numbers_in_turn reaches
  exact ⟨reaches, numbered, live, few 1 rfl, apart⟩

end AcceptLoop

namespace Service

open AcceptLoop (Reaches)

variable {limit : Option Nat} {accepted : List Nat} {service later : Service} {handled : Handled}
  {journal : Journal}

/-- What a server sees to takes its accept loop through some of its steps. -/
theorem exists_reaches_next {incoming : Incoming} (reaches : Reaches limit accepted service.loop)
    (goes : service.next incoming = some (later, handled, journal)) :
    ∃ numbers, Reaches limit (accepted ++ numbers) later.loop := by
  simp only [next, Option.bind_eq_bind, Option.bind_eq_some_iff] at goes
  obtain ⟨ready, prepares, goes⟩ := goes
  have prepared := reaches.step .prepare prepares
  cases incoming with
  | failed error =>
      obtain ⟨loop, fails, goes⟩ := Option.bind_eq_some_iff.mp goes
      cases goes
      exact ⟨_, List.append_assoc _ _ _ ▸ prepared.step .acceptFailed fails⟩
  | connection peer connection =>
      obtain ⟨loop, accepts, goes⟩ := Option.bind_eq_some_iff.mp goes
      obtain ⟨served, finishes, goes⟩ := Option.bind_eq_some_iff.mp goes
      cases goes
      have finished := (prepared.step .accept accepts).step (.finish _) finishes
      exact ⟨_, by simpa only [List.append_assoc] using finished⟩

/-- The accept loop of a server never comes to a state that its steps do not come to. -/
theorem exists_reaches_run (reaches : Reaches limit accepted service.loop)
    (incoming : List Incoming) :
    ∀ state ∈ service.run incoming, ∃ numbers, Reaches limit (accepted ++ numbers) state.1.loop := by
  induction incoming generalizing service accepted with
  | nil => exact List.forall_mem_nil _
  | cons first rest induction =>
      intro state member
      rw [run] at member
      split at member
      · simp at member
      · next goes =>
          obtain ⟨numbers, onward⟩ := exists_reaches_next reaches goes
          rcases List.mem_cons.mp member with rfl | seen_later
          · exact ⟨numbers, onward⟩
          · obtain ⟨further, reached⟩ := induction onward state seen_later
            exact ⟨numbers ++ further, List.append_assoc _ _ _ ▸ reached⟩

end Service

end FilePush
