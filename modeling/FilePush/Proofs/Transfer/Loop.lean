import FilePush.IoError
import FilePush.Proofs.Sampling.Windows
import FilePush.Proofs.Session.Chunks

/-!
# Transfer loops

A transfer loop asks for bytes, writes what it is given and notes it, until its session is complete
or something goes wrong.  What it reads from and writes to is left open: `Surroundings` are anything
that gives at most as many bytes as are asked for.  `run` follows such a loop round by round, and
`steady_run` says that it neither overruns its size nor stalls, whatever it is given.
-/

namespace FilePush

namespace Transfer

/-- What surrounds a transfer loop, in a state that changes as the loop acts. -/
structure Surroundings (World : Type) where
  /-- Read at most so many bytes; nothing is read at the end. -/
  read : World → Nat → Except IoError Bytes × World
  /-- Write all of a chunk, unless that fails. -/
  write : World → Bytes → World × Option IoError
  /-- Read the clock. -/
  now : World → Instant × World
  /-- Report a sample that a session gave. -/
  report : World → Session → Sample → World
  /-- No more is read than was asked for. -/
  length_read : ∀ {world later : World} {wanted : Nat} {chunk : Bytes},
    read world wanted = (.ok chunk, later) → chunk.length ≤ wanted

/-- Why a transfer ends before its session is complete. -/
inductive Halt
  /-- A chunk was read and cannot be written. -/
  | unwritten (chunk : Bytes) (error : IoError)
  /-- Nothing was read. -/
  | ended
  /-- Reading failed. -/
  | failed (error : IoError)

/-- What comes of asking for bytes. -/
inductive Turn
  /-- A chunk is read and written, after which the clock shows a moment. -/
  | moved (chunk : Bytes) (now : Instant)
  /-- The transfer ends. -/
  | halted (halt : Halt)

namespace Turn

/-- The bytes that are read. -/
def taken : Turn → Bytes
  | moved chunk _ | halted (.unwritten chunk _) => chunk
  | halted .ended | halted (.failed _) => []

/-- What is done with the session: a chunk that was written is noted. -/
def use? : Turn → Option Session.Use
  | moved chunk now => some (.record chunk now)
  | halted _ => none

end Turn

/-- A round of a transfer loop. -/
structure Round (World : Type) where
  /-- The session at its beginning. -/
  session : Session
  /-- The surroundings at its beginning. -/
  world : World
  /-- How many bytes it asks for at most. -/
  wanted : Nat
  /-- What comes of that. -/
  turn : Turn

/-- How a transfer went. -/
structure Course (World : Type) where
  /-- Its rounds, in order. -/
  rounds : List (Round World)
  /-- The session that it leaves. -/
  session : Session
  /-- The surroundings that it leaves. -/
  world : World
  /-- Why it ended, unless its session is complete. -/
  halt? : Option Halt

variable {World : Type} (around : Surroundings World) (bufferSize : Nat) (session : Session)
  (world : World)

/-- What is done with the session in some rounds. -/
def usesOf (rounds : List (Round World)) : List Session.Use := rounds.filterMap (·.turn.use?)

/-- A transfer with one more round before it. -/
def Course.after (course : Course World) (round : Round World) : Course World :=
  { course with rounds := round :: course.rounds }

namespace Surroundings

/-- Ask for bytes, write what is read, and look at the clock once it is written. -/
def turn (wanted : Nat) : Turn × World :=
  match around.read world wanted with
  | (.error error, world) => (.halted (.failed error), world)
  | (.ok chunk, world) =>
      if chunk = [] then (.halted .ended, world)
      else
        match around.write world chunk with
        | (world, some error) => (.halted (.unwritten chunk error), world)
        | (world, none) =>
            let (now, world) := around.now world
            (.moved chunk now, world)

/-- Report the sample that noting a chunk gave, if it gave one. -/
def tell (noted : Option Sample × Session) : World :=
  match noted with
  | (some sample, session) => around.report world session sample
  | (none, _) => world

/-- A chunk is read and all of it is written, after which the clock shows a moment. -/
def Moves (wanted : Nat) (chunk : Bytes) (now : Instant) : Prop :=
  ∃ given written, around.read world wanted = (.ok chunk, given) ∧ chunk ≠ [] ∧
    around.write given chunk = (written, none) ∧ (around.now written).1 = now

theorem turn_eq_moved_iff (wanted : Nat) (chunk : Bytes) (now : Instant) :
    (around.turn world wanted).1 = .moved chunk now ↔ around.Moves world wanted chunk now := by
  constructor
  · intro moved
    unfold turn at moved
    split at moved
    · nomatch moved
    next other later given =>
      split at moved
      · nomatch moved
      next nonempty =>
        split at moved
        · nomatch moved
        next written_later written =>
          obtain ⟨rfl, rfl⟩ := Turn.moved.inj moved
          exact ⟨later, written_later, given, nonempty, written, rfl⟩
  · rintro ⟨later, written_later, given, nonempty, written, rfl⟩
    simp only [turn, given, if_neg nonempty, written]

/-- What is read is no more than was asked for. -/
theorem length_taken_turn (wanted : Nat) : (around.turn world wanted).1.taken.length ≤ wanted := by
  unfold turn
  split
  · exact Nat.zero_le _
  next chunk later given =>
    split
    · exact Nat.zero_le _
    · split <;> exact around.length_read given

/-- What is moved is something, and no more than was asked for. -/
theorem bounds_of_moved {wanted : Nat} {world later : World} {chunk : Bytes} {now : Instant}
    (given : around.turn world wanted = (.moved chunk now, later)) :
    0 < chunk.length ∧ chunk.length ≤ wanted := by
  have moves := (around.turn_eq_moved_iff world wanted chunk now).mp (congrArg Prod.fst given)
  obtain ⟨_, _, read, nonempty, -, -⟩ := moves
  exact ⟨List.length_pos_iff.mpr nonempty, around.length_read read⟩

end Surroundings

/-- Follow a transfer loop that moves at most `bufferSize` bytes at a time. -/
def run (session : Session) (world : World) : Course World :=
  if session.isComplete then ⟨[], session, world, none⟩
  else
    let wanted := session.nextChunkLength bufferSize
    match _given : around.turn world wanted with
    | (.halted halt, later) => ⟨[⟨session, world, wanted, .halted halt⟩], session, later, some halt⟩
    | (.moved chunk now, later) =>
        let noted := session.record chunk now
        (run noted.2 (around.tell later noted)).after ⟨session, world, wanted, .moved chunk now⟩
  termination_by session.remaining
  decreasing_by
    obtain ⟨nonempty, fits⟩ := around.bounds_of_moved _given
    exact Session.remaining_record_lt _ _ _ nonempty (Nat.le_trans fits (Nat.min_le_left _ _))

/-- One round of a transfer. -/
theorem run_eq :
    run around bufferSize session world =
      if session.isComplete then ⟨[], session, world, none⟩
      else
        let wanted := session.nextChunkLength bufferSize
        match around.turn world wanted with
        | (.halted halt, later) =>
            ⟨[⟨session, world, wanted, .halted halt⟩], session, later, some halt⟩
        | (.moved chunk now, later) =>
            let noted := session.record chunk now
            (run around bufferSize noted.2 (around.tell later noted)).after
              ⟨session, world, wanted, .moved chunk now⟩ := by
  rw [run]
  refine ite_congr rfl (fun _ => rfl) fun _ => ?_
  dsimp only
  split
  · next given => simp only [given]
  · next given => simp only [given]

/-! ## Invariants -/

/-- A round as the loop makes it. -/
structure Round.Made (round : Round World) : Prop where
  /-- Its session is not complete. -/
  incomplete : ¬round.session.isComplete
  /-- It asks for what is missing, as far as the buffer holds it. -/
  wanted_eq : round.wanted = round.session.nextChunkLength bufferSize
  /-- What comes of that is for the surroundings to say. -/
  turn_eq : round.turn = (around.turn round.world round.wanted).1

/--
What holds of the session at first and is kept when a chunk is noted that was asked for holds at the
beginning of every round and at the end.
-/
theorem run_keeps (invariant : Session → Prop)
    (kept : ∀ {session : Session} {chunk : Bytes} (now : Instant), invariant session →
      0 < chunk.length → chunk.length ≤ session.nextChunkLength bufferSize →
      invariant (session.record chunk now).2)
    (first : invariant session) :
    (∀ round ∈ (run around bufferSize session world).rounds,
      invariant round.session ∧ round.Made around bufferSize) ∧
      invariant (run around bufferSize session world).session := by
  fun_induction run around bufferSize session world with
  | case1 session world complete => exact ⟨nofun, first⟩
  | case2 session world incomplete wanted halt later given =>
      refine ⟨?_, first⟩
      rintro round (_ | ⟨_, ⟨⟩⟩)
      exact ⟨first, incomplete, rfl, (congrArg Prod.fst given).symm⟩
  | case3 session world incomplete wanted chunk now later given noted induction =>
      obtain ⟨nonempty, fits⟩ := around.bounds_of_moved given
      obtain ⟨rounds, last⟩ := induction (kept now first nonempty fits)
      refine ⟨?_, last⟩
      rintro round (_ | ⟨_, member⟩)
      · exact ⟨first, incomplete, rfl, (congrArg Prod.fst given).symm⟩
      · exact rounds round member

/-- A session in which no more than the declared size was counted. -/
structure Within (declared : Nat) (session : Session) : Prop where
  /-- The size is as declared. -/
  declared_eq : session.declared = declared
  /-- It has not been passed. -/
  transferred_le : session.transferred ≤ declared
  /-- What waits for a sample has been counted. -/
  waiting_le : session.meter.sinceSample ≤ session.transferred

namespace Within

variable {declared : Nat} {session : Session}

theorem start (sequence declared : Nat) (interval : Duration) (now : Instant) :
    Within declared (Session.start sequence declared interval now) :=
  ⟨rfl, Nat.zero_le _, Nat.le_refl _⟩

theorem remaining_eq (within : Within declared session) :
    session.remaining = declared - session.transferred := by
  rw [Session.remaining, within.declared_eq]

theorem isComplete_iff (within : Within declared session) :
    session.isComplete ↔ session.transferred = declared := by
  rw [Session.isComplete, decide_eq_true_iff, within.declared_eq]

/-- The size is not passed by a chunk that is not longer than what is missing. -/
theorem record (within : Within declared session) {chunk : Bytes} (now : Instant)
    (fits : chunk.length ≤ session.remaining) :
    Within declared (session.record chunk now).2 where
  declared_eq := by rw [Session.declared_record, within.declared_eq]
  transferred_le := by
    rw [within.remaining_eq] at fits
    rw [Session.transferred_record]
    exact Nat.add_le_of_le_sub' within.transferred_le fits
  waiting_le := by
    rw [Session.transferred_record]
    change (session.meter.record chunk.length now).2.sinceSample ≤ _
    rcases session.meter.record_cases chunk.length now with ⟨-, recorded⟩ | ⟨-, recorded⟩
    · rw [recorded]
      exact Nat.add_le_add_right within.waiting_le _
    · rw [recorded]
      exact Nat.zero_le _

end Within

/-! ## Rounds -/

/-- Every round but the last moves something. -/
theorem pairwise_run :
    (run around bufferSize session world).rounds.Pairwise
      fun earlier later => earlier.session.transferred < later.session.transferred := by
  fun_induction run around bufferSize session world with
  | case1 => exact .nil
  | case2 => exact List.pairwise_singleton _ _
  | case3 session world incomplete wanted chunk now later given noted induction =>
      refine .cons (fun round member => ?_) induction
      have further := run_keeps around bufferSize noted.2 (around.tell later noted)
        (session.transferred < ·.transferred) ?_ ?_
      · exact (further.1 round member).1
      · intro other chunk now above _ _
        rw [Session.transferred_record]
        exact Nat.lt_add_right _ above
      · rw [Session.transferred_record]
        exact Nat.lt_add_of_pos_right (around.bounds_of_moved given).1

/-- There are no more rounds than bytes are missing. -/
theorem length_rounds_run {declared : Nat} (within : Within declared session) :
    (run around bufferSize session world).rounds.length ≤ session.remaining := by
  fun_induction run around bufferSize session world with
  | case1 => exact Nat.zero_le _
  | case2 session world incomplete =>
      exact Session.remaining_pos (within.declared_eq ▸ within.transferred_le) incomplete
  | case3 session world incomplete wanted chunk now later given noted induction =>
      obtain ⟨nonempty, fits⟩ := around.bounds_of_moved given
      have fewer := Nat.le_trans fits (Nat.min_le_left _ _)
      have shorter := Session.remaining_record_lt session chunk now nonempty fewer
      exact Nat.lt_of_le_of_lt (induction (within.record now fewer)) shorter

/-- Nothing is missing at the end exactly if the transfer was not halted. -/
theorem isComplete_run_iff :
    (run around bufferSize session world).session.isComplete ↔
      (run around bufferSize session world).halt? = none := by
  fun_induction run around bufferSize session world with
  | case1 session world complete => exact iff_of_true complete rfl
  | case2 session world incomplete => exact iff_of_false incomplete nofun
  | case3 session world incomplete wanted chunk now later given noted induction => exact induction

/-- The session notes the chunks that were moved and nothing else. -/
theorem session_run :
    (run around bufferSize session world).session =
      session.afterAll (usesOf (run around bufferSize session world).rounds) := by
  fun_induction run around bufferSize session world with
  | case1 => rfl
  | case2 => rfl
  | case3 session world incomplete wanted chunk now later given noted induction => exact induction

/--
A round finds what the rounds before it left.  The session has noted what was moved in them, which
is something in all of them, and from there the transfer goes on as it does.
-/
theorem run_round :
    ∀ front round back, front ++ round :: back = (run around bufferSize session world).rounds →
      round.session = session.afterAll (usesOf front) ∧
        (∀ earlier ∈ front, ∃ chunk now, earlier.turn = .moved chunk now) ∧
        run around bufferSize round.session round.world =
          { run around bufferSize session world with rounds := round :: back } := by
  fun_induction run around bufferSize session world with
  | case1 =>
      intro front round back rounds
      simp at rounds
  | case2 session world incomplete wanted halt later given =>
      intro front round back rounds
      obtain ⟨rfl, only⟩ | ⟨front, rfl, none⟩ := List.append_eq_cons_iff.mp rounds
      · obtain ⟨rfl, rfl⟩ := List.cons.inj only
        refine ⟨rfl, nofun, ?_⟩
        rw [run_eq, if_neg incomplete]
        simp only [given, wanted]
      · simp at none
  | case3 session world incomplete wanted chunk now later given noted induction =>
      intro front round back rounds
      obtain ⟨rfl, first⟩ | ⟨front, rfl, onward⟩ := List.append_eq_cons_iff.mp rounds
      · obtain ⟨rfl, rfl⟩ := List.cons.inj first
        refine ⟨rfl, nofun, ?_⟩
        rw [run_eq, if_neg incomplete]
        simp only [given, wanted]
        rfl
      · obtain ⟨reached, moved, resumed⟩ := induction front round back onward.symm
        refine ⟨reached, ?_, resumed⟩
        rintro earlier (_ | ⟨_, member⟩)
        · exact ⟨chunk, now, rfl⟩
        · exact moved earlier member

/-! ## Steadiness -/

/-- A transfer of a declared size that started with a session and neither overran nor stalled. -/
structure Steady (declared : UInt64) (course : Course World) : Prop where
  /-- A round begins only while bytes are missing. -/
  short : ∀ round ∈ course.rounds, round.session.transferred < declared.toNat
  /-- It asks for something, and for no more than the buffer holds and is missing. -/
  asks : ∀ round ∈ course.rounds, 1 ≤ round.wanted ∧
    round.wanted ≤ min bufferSize (declared.toNat - round.session.transferred)
  /-- It moves a chunk exactly if that is read and all of it is written. -/
  moved_iff : ∀ round ∈ course.rounds, ∀ chunk now,
    round.turn = .moved chunk now ↔ around.Moves round.world round.wanted chunk now
  /-- What is read does not pass the declared size. -/
  fits : ∀ round ∈ course.rounds,
    round.session.transferred + round.turn.taken.length ≤ declared.toNat
  /-- Counting it overflows neither counter. -/
  counts : ∀ round ∈ course.rounds,
    round.session.transferred + round.turn.taken.length < UInt64.size ∧
      round.session.meter.sinceSample + round.turn.taken.length < UInt64.size
  /-- From one round to the next, more has been moved. -/
  rises : course.rounds.Pairwise
    fun earlier later => earlier.session.transferred < later.session.transferred
  /-- There are no more rounds than bytes. -/
  length_le : course.rounds.length ≤ declared.toNat
  /-- A round finds what the rounds before it left, all of which moved something, and goes on so. -/
  resumes : ∀ front round back, front ++ round :: back = course.rounds →
    round.session = session.afterAll (usesOf front) ∧
      (∀ earlier ∈ front, ∃ chunk now, earlier.turn = .moved chunk now) ∧
      run around bufferSize round.session round.world = { course with rounds := round :: back }
  /-- The session that is left notes what was moved, in order. -/
  noted : course.session = session.afterAll (usesOf course.rounds)
  /-- Not more than the declared size is moved. -/
  transferred_le : course.session.transferred ≤ declared.toNat
  /-- All of it is moved exactly if nothing halts the transfer. -/
  halt_eq_none_iff : course.halt? = none ↔ course.session.transferred = declared.toNat

/-- Whatever surrounds it, a transfer is steady if it has a buffer and has not passed its size. -/
theorem steady_run {declared : UInt64} (within : Within declared.toNat session)
    (buffered : 0 < bufferSize) :
    Steady around bufferSize session declared (run around bufferSize session world) := by
  obtain ⟨rounds, last⟩ := run_keeps around bufferSize session world (Within declared.toNat)
    (fun now within _ fits => within.record now (Nat.le_trans fits (Nat.min_le_left _ _))) within
  have short : ∀ round ∈ (run around bufferSize session world).rounds,
      round.session.transferred < declared.toNat := by
    intro round member
    obtain ⟨within, made⟩ := rounds round member
    exact Nat.lt_of_le_of_ne within.transferred_le (mt within.isComplete_iff.mpr made.incomplete)
  have wanted_eq : ∀ round ∈ (run around bufferSize session world).rounds,
      round.wanted = min (declared.toNat - round.session.transferred) bufferSize := by
    intro round member
    obtain ⟨within, made⟩ := rounds round member
    rw [made.wanted_eq, Session.nextChunkLength, within.remaining_eq]
  have fits : ∀ round ∈ (run around bufferSize session world).rounds,
      round.session.transferred + round.turn.taken.length ≤ declared.toNat := by
    intro round member
    have taken := around.length_taken_turn round.world round.wanted
    rw [← (rounds round member).2.turn_eq, wanted_eq round member] at taken
    have short := short round member
    omega
  refine
    { short, fits
      asks := fun round member => ?_
      moved_iff := fun round member chunk now => ?_
      counts := fun round member => ?_
      rises := pairwise_run around bufferSize session world
      length_le := ?_
      resumes := run_round around bufferSize session world
      noted := session_run around bufferSize session world
      transferred_le := last.transferred_le
      halt_eq_none_iff := ?_ }
  · have wanted := wanted_eq round member
    have short := short round member
    omega
  · rw [(rounds round member).2.turn_eq, around.turn_eq_moved_iff]
  · have total := Nat.lt_of_le_of_lt (fits round member) declared.toNat_lt_size
    have waiting := (rounds round member).1.waiting_le
    exact ⟨total, by omega⟩
  · have fewer := length_rounds_run around bufferSize session world within
    exact Nat.le_trans fewer (within.remaining_eq ▸ Nat.sub_le _ _)
  · rw [← isComplete_run_iff, last.isComplete_iff]

end Transfer

end FilePush
