import FilePush.Meter
import Mathlib.Algebra.Order.BigOperators.Group.List
import Mathlib.Algebra.Order.Ring.Int
import Mathlib.Data.List.DropRight

/-!
# The windows of throughput samples

A meter divides what it counts into windows, one for each sample that it gives: every byte is
counted in one window or still waits for the next sample, and the windows cover the time from the
start to the last sample without a gap.  A clock that runs backwards only makes the meter wait.
-/

namespace FilePush

namespace Meter

/-- A sample is due: the clock has gone on since the last one, by the interval at least. -/
def Due (meter : Meter) (now : Instant) : Prop :=
  meter.lastSample < now ∧ (meter.interval : Int) ≤ now - meter.lastSample

/-- The sample that is due. -/
def sampleAt (meter : Meter) (bytes : Nat) (now : Instant) : Sample :=
  ⟨⟨meter.sinceSample + bytes, Instant.since now meter.lastSample⟩,
    ⟨meter.total + bytes, Instant.since now meter.start⟩⟩

/-- The time since the last sample tells whether the next is due. -/
theorem due_iff (meter : Meter) (now : Instant) :
    meter.Due now ↔ ¬(Instant.since now meter.lastSample < meter.interval ∨
      Instant.since now meter.lastSample = 0) := by
  have on_integers (later earlier : Int) (interval : Nat) :
      earlier < later ∧ (interval : Int) ≤ later - earlier ↔
        ¬((later - earlier).toNat < interval ∨ (later - earlier).toNat = 0) := by
    omega
  exact on_integers now meter.lastSample meter.interval

/-- A meter counts bytes; if a sample is due, it gives one and starts a new window. -/
theorem record_cases (meter : Meter) (bytes : Nat) (now : Instant) :
    (¬meter.Due now ∧ meter.record bytes now =
      (none, { meter with
        total := meter.total + bytes
        sinceSample := meter.sinceSample + bytes })) ∨
    (meter.Due now ∧ meter.record bytes now =
      (some (meter.sampleAt bytes now), { meter with
        total := meter.total + bytes
        sinceSample := 0
        lastSample := now })) := by
  by_cases due : meter.Due now
  · exact .inr ⟨due, if_neg ((due_iff meter now).mp due)⟩
  · exact .inl ⟨due, if_pos (Decidable.of_not_not (mt (due_iff meter now).mpr due))⟩

theorem since_of_due {meter : Meter} {now : Instant} (due : meter.Due now) :
    (Instant.since now meter.lastSample : Int) = now - meter.lastSample :=
  Int.toNat_of_nonneg (Int.sub_nonneg_of_le (Int.le_of_lt due.1))

/-- A call of a meter, and the sample that it gave. -/
structure Call where
  /-- The number of bytes counted. -/
  bytes : Nat
  /-- The moment of the call. -/
  now : Instant
  /-- The sample, if one was due. -/
  sample? : Option Sample

/-- The samples that calls gave, in order. -/
def samplesOf (calls : List Call) : List Sample := calls.filterMap Call.sample?

/-- The bytes counted by the calls after the last one that gave a sample. -/
def waitingOf (calls : List Call) : Nat :=
  ((calls.rtakeWhile (·.sample?.isNone)).map Call.bytes).sum

theorem waitingOf_concat_none (calls : List Call) (bytes : Nat) (now : Instant) :
    waitingOf (calls ++ [⟨bytes, now, none⟩]) = waitingOf calls + bytes := by
  rw [waitingOf, List.rtakeWhile_concat_pos _ _ _ rfl, List.map_append, List.sum_append, waitingOf]
  rfl

theorem waitingOf_concat_some (calls : List Call) (bytes : Nat) (now : Instant) (sample : Sample) :
    waitingOf (calls ++ [⟨bytes, now, some sample⟩]) = 0 := by
  rw [waitingOf, List.rtakeWhile_concat_neg _ _ _ Bool.false_ne_true]
  rfl

theorem samplesOf_concat (calls : List Call) (call : Call) :
    samplesOf (calls ++ [call]) = samplesOf calls ++ call.sample?.toList := by
  rw [samplesOf, List.filterMap_append, samplesOf]
  cases sample : call.sample? with
  | none => simp [sample]
  | some given => simp [sample]

/-- A meter and the calls that brought it to where it is. -/
structure Run where
  /-- The calls, in order. -/
  calls : List Call
  /-- The meter after them. -/
  meter : Meter

/-- One more call. -/
def Run.record (run : Run) (bytes : Nat) (now : Instant) : Run :=
  ⟨run.calls ++ [⟨bytes, now, (run.meter.record bytes now).1⟩], (run.meter.record bytes now).2⟩

/-- A meter that is started at a moment and then told of bytes, each time at a moment. -/
def runFrom (start : Instant) (interval : Duration) (told : List (Nat × Instant)) : Run :=
  told.foldl (fun run call => run.record call.1 call.2) ⟨[], startingAt start interval⟩

theorem runFrom_concat (start : Instant) (interval : Duration) (told : List (Nat × Instant))
    (bytes : Nat) (now : Instant) :
    runFrom start interval (told ++ [(bytes, now)]) =
      (runFrom start interval told).record bytes now :=
  List.foldl_concat _ _ _ _

section

variable {start : Instant} {interval : Duration} {told : List (Nat × Instant)} {run : Run}

/-- What a meter has made of the bytes that it was told of. -/
structure Accounted (start : Instant) (interval : Duration) (told : List (Nat × Instant))
    (run : Run) : Prop where
  /-- The interval stays as it was set. -/
  interval_eq : run.meter.interval = interval
  /-- Every call is made as told. -/
  calls : run.calls.map (fun call => (call.bytes, call.now)) = told
  /-- All bytes are counted. -/
  total : run.meter.total = (told.map Prod.fst).sum
  /-- Those that no sample has counted wait for the next. -/
  waiting : run.meter.sinceSample = waitingOf run.calls
  /-- No byte is counted in two windows or lost. -/
  bytes : ((samplesOf run.calls).map (·.window.bytes)).sum + run.meter.sinceSample =
    run.meter.total
  /-- The windows stand one after another up to the last sample. -/
  elapsed : ((samplesOf run.calls).map fun sample => (sample.window.elapsed : Int)).sum =
    run.meter.lastSample - start
  /-- No window is shorter than the interval. -/
  spacing : ∀ sample ∈ samplesOf run.calls, interval ≤ sample.window.elapsed

theorem accounted_start (start : Instant) (interval : Duration) :
    Accounted start interval [] (runFrom start interval []) where
  interval_eq := rfl
  calls := rfl
  total := rfl
  waiting := rfl
  bytes := rfl
  elapsed := (Int.sub_self start).symm
  spacing := fun _ member => nomatch member

/-- One more call keeps the account. -/
theorem Accounted.record (accounted : Accounted start interval told run) (bytes : Nat)
    (now : Instant) :
    Accounted start interval (told ++ [(bytes, now)]) (run.record bytes now) := by
  have calls (call : Call) (made : (call.bytes, call.now) = (bytes, now)) :
      (run.calls ++ [call]).map (fun call => (call.bytes, call.now)) =
        told ++ [(bytes, now)] := by
    rw [List.map_append, accounted.calls, List.map_singleton, made]
  have total : run.meter.total + bytes = ((told ++ [(bytes, now)]).map Prod.fst).sum := by
    rw [List.map_append, List.sum_append, accounted.total]
    rfl
  rw [Run.record]
  -- Without a sample the window stays open; a sample closes it and leaves nothing waiting.
  rcases run.meter.record_cases bytes now with ⟨-, recorded⟩ | ⟨due, recorded⟩
  · rw [recorded]
    refine ⟨accounted.interval_eq, calls _ rfl, total, ?_, ?_, ?_, ?_⟩
    · rw [waitingOf_concat_none, accounted.waiting]
    · rw [samplesOf_concat, Option.toList_none, List.append_nil, ← accounted.bytes, Nat.add_assoc]
    · rw [samplesOf_concat, Option.toList_none, List.append_nil, accounted.elapsed]
    · rw [samplesOf_concat, Option.toList_none, List.append_nil]
      exact accounted.spacing
  · rw [recorded]
    refine ⟨accounted.interval_eq, calls _ rfl, total, ?_, ?_, ?_, ?_⟩
    · rw [waitingOf_concat_some]
    · rw [samplesOf_concat, Option.toList_some, List.map_append, List.sum_append,
        ← accounted.bytes]
      simp only [List.map_singleton, List.sum_singleton, sampleAt]
      omega
    · rw [samplesOf_concat, Option.toList_some, List.map_append, List.sum_append,
        accounted.elapsed]
      simp only [List.map_singleton, List.sum_singleton, sampleAt, since_of_due due]
      omega
    · rw [samplesOf_concat, Option.toList_some]
      intro sample member
      rcases List.mem_append.mp member with earlier | last
      · exact accounted.spacing sample earlier
      · obtain rfl := List.mem_singleton.mp last
        rw [← accounted.interval_eq, ← Int.ofNat_le]
        simp only [sampleAt, since_of_due due]
        exact due.2

theorem runFrom_accounted (start : Instant) (interval : Duration) (told : List (Nat × Instant)) :
    Accounted start interval told (runFrom start interval told) := by
  induction told using List.reverseRecOn with
  | nil => exact accounted_start start interval
  | append_singleton told call induction =>
      rw [runFrom_concat]
      exact induction.record call.1 call.2

/-- The samples are given at least the interval apart. -/
theorem Accounted.length_mul_le (accounted : Accounted start interval told run) :
    ((samplesOf run.calls).length : Int) * interval ≤ run.meter.lastSample - start := by
  have apart : ∀ window ∈ (samplesOf run.calls).map fun sample => (sample.window.elapsed : Int),
      (interval : Int) ≤ window :=
    List.forall_mem_map.mpr fun sample member => Int.ofNat_le.mpr (accounted.spacing sample member)
  have bounded := List.card_nsmul_le_sum _ _ apart
  rwa [List.length_map, Int.nsmul_eq_mul, accounted.elapsed] at bounded

end

/--
However a meter is called, in whatever order the moments come: the bytes in the windows of the
samples and those counted since the last sample are all bytes, and the windows cover the time from
the start to the last sample, which therefore is long enough for all intervals.  A call gives a
sample exactly if the clock has gone on by the interval since the last one, and some time at all;
the last sample is never set back.  A sample tells the bytes since the one before it and those since
the start.
-/
theorem windows_conserve (start : Instant) (interval : Duration) (told : List (Nat × Instant)) :
    let run := runFrom start interval told
    let samples := samplesOf run.calls
    run.calls.map (fun call => (call.bytes, call.now)) = told ∧
    run.meter.total = (told.map Prod.fst).sum ∧
    (samples.map (·.window.bytes)).sum + waitingOf run.calls = run.meter.total ∧
    (samples.map fun sample => (sample.window.elapsed : Int)).sum =
      run.meter.lastSample - start ∧
    (samples.length : Int) * interval ≤ run.meter.lastSample - start ∧
    ∀ (bytes : Nat) (now : Instant),
      let sample? := (run.meter.record bytes now).1
      let next := runFrom start interval (told ++ [(bytes, now)])
      next.calls = run.calls ++ [⟨bytes, now, sample?⟩] ∧
      (sample?.isSome ↔
        run.meter.lastSample < now ∧ (interval : Int) ≤ now - run.meter.lastSample) ∧
      run.meter.lastSample ≤ next.meter.lastSample ∧
      ∀ sample, sample? = some sample →
        sample.window.bytes = waitingOf run.calls + bytes ∧
          sample.total.bytes = (told.map Prod.fst).sum + bytes := by
  intro run samples
  have accounted : Accounted start interval told run := runFrom_accounted start interval told
  refine ⟨accounted.calls, accounted.total, accounted.waiting ▸ accounted.bytes,
    accounted.elapsed, accounted.length_mul_le, fun bytes now => ?_⟩
  intro sample? next
  have advanced : next = run.record bytes now := runFrom_concat start interval told bytes now
  have due_when : run.meter.Due now ↔
      run.meter.lastSample < now ∧ (interval : Int) ≤ now - run.meter.lastSample := by
    rw [Due, accounted.interval_eq]
  rw [advanced, Run.record]
  refine ⟨rfl, ?_⟩
  rcases run.meter.record_cases bytes now with ⟨early, recorded⟩ | ⟨due, recorded⟩
  · have none_given : sample? = none := congrArg Prod.fst recorded
    rw [recorded, none_given, ← due_when]
    exact ⟨by simp [early], Int.le_refl _, by simp⟩
  · have given : sample? = some (run.meter.sampleAt bytes now) := congrArg Prod.fst recorded
    rw [recorded, given, ← due_when]
    refine ⟨by simp [due], Int.le_of_lt due.1, ?_⟩
    rintro sample ⟨⟩
    exact ⟨congrArg (· + bytes) accounted.waiting, congrArg (· + bytes) accounted.total⟩

end Meter

end FilePush
