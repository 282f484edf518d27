import FilePush.Stream.Delivery

/-!
# What a reader takes from a stream

`Consumes` says that a reader took some bytes from a stream: they were the next bytes to be
delivered, the ending of the stream is still to come, and every byte that has arrived is either
among them or still unread.  Readers that follow one another consume one after another, and a reader
that gets enough from the first arrivals does not come to the later ones.
-/

namespace FilePush

/-- The number of bytes that a read gives. -/
def Reading.size : Reading → Nat
  | .data chunk => chunk.length
  | .ended | .failed _ => 0

namespace Inbound

theorem ending_ne_full (inbound : Inbound) : inbound.ending ≠ .full := by
  have never (arrivals : List Arrival) : endingOf arrivals ≠ .full := by
    fun_induction endingOf arrivals with
    | case1 => simp
    | case2 later induction => exact induction
    | case3 => simp
    | case4 => simp
    | case5 data later nonempty induction => exact induction
  exact never inbound.arrivals

/-- A stream ends or fails. -/
theorem ending_cases (inbound : Inbound) :
    inbound.ending = .ended ∨ ∃ error, inbound.ending = .failed error := by
  cases ending : inbound.ending with
  | full => exact absurd ending inbound.ending_ne_full
  | ended => exact .inl rfl
  | failed error => exact .inr ⟨error, rfl⟩

/-- A reader of the stream `before` took `bytes` and left the stream `after`. -/
structure Consumes (before after : Inbound) (bytes : Bytes) : Prop where
  /-- The bytes were the next to be delivered. -/
  delivered : before.delivered = bytes ++ after.delivered
  /-- The ending is still to come. -/
  ending : after.ending = before.ending
  /-- No other byte was taken. -/
  unread : before.unread = bytes.length + after.unread

theorem Consumes.refl (inbound : Inbound) : Consumes inbound inbound [] := by
  constructor <;> simp

theorem Consumes.trans {first second third : Inbound} {front back : Bytes}
    (earlier : Consumes first second front) (later : Consumes second third back) :
    Consumes first third (front ++ back) where
  delivered := by rw [earlier.delivered, later.delivered, List.append_assoc]
  ending := later.ending.trans earlier.ending
  unread := by rw [earlier.unread, later.unread, List.length_append, Nat.add_assoc]

/-- A read leaves every byte that it does not give. -/
theorem pending_readArrivals (wanted : Nat) (arrivals : List Arrival) :
    pending arrivals =
      (readArrivals wanted arrivals).1.size + pending (readArrivals wanted arrivals).2 := by
  fun_induction readArrivals wanted arrivals with
  | case1 => rfl
  | case2 later induction => exact induction
  | case3 => simp [Reading.size, pending]
  | case4 data later rest left nothing =>
      have all_left : rest.length = data.length := by
        have lengths := congrArg List.length nothing
        simp only [List.length_take, List.length_nil] at lengths
        simp only [rest, List.length_drop]
        omega
      by_cases exhausted : rest = []
      · simp [left, exhausted, Reading.size, pending, ← all_left]
      · simp [left, exhausted, Reading.size, pending, all_left]
  | case5 data later rest left nonempty =>
      have lengths : (data.take wanted).length + rest.length = data.length := by
        rw [← List.length_append, List.take_append_drop]
      by_cases exhausted : rest = []
      · rw [exhausted, List.length_nil, Nat.add_zero] at lengths
        simp only [left, if_pos exhausted, Reading.size, pending, lengths]
      · simp only [left, if_neg exhausted, Reading.size, pending]
        omega

theorem unread_read (inbound : Inbound) (wanted : Nat) :
    inbound.unread = (inbound.read wanted).1.size + (inbound.read wanted).2.unread :=
  pending_readArrivals wanted inbound.arrivals

/-- A read that gives no bytes leaves as many as there were. -/
theorem unread_of_read_nothing {wanted : Nat} {inbound later : Inbound} {reading : Reading}
    (given : inbound.read wanted = (reading, later)) (nothing : reading.size = 0) :
    inbound.unread = later.unread := by
  have unread := inbound.unread_read wanted
  rwa [given, nothing, Nat.zero_add] at unread

theorem read_data_consumes {wanted : Nat} {inbound later : Inbound} {chunk : Bytes}
    (given : inbound.read wanted = (.data chunk, later)) : Consumes inbound later chunk := by
  obtain ⟨delivered, ending⟩ := read_data_delivers given
  refine ⟨delivered, ending.symm, ?_⟩
  simpa only [given, Reading.size] using inbound.unread_read wanted

/-- A reader that stops because it has enough has consumed what it collected. -/
theorem collect_consumes {wanted : Nat} {inbound rest : Inbound} {bytes : Bytes}
    (collected : inbound.collect wanted = (bytes, .full, rest)) :
    bytes.length = wanted ∧ Consumes inbound rest bytes := by
  fun_induction collect inbound wanted generalizing bytes with
  | case1 =>
      obtain ⟨rfl, -, rfl⟩ := collected
      exact ⟨rfl, Consumes.refl _⟩
  | case2 => simp at collected
  | case3 => simp at collected
  | case4 inbound wanted _ chunk later given more _ _ found induction =>
      simp only [Prod.mk.injEq] at collected
      obtain ⟨rfl, rfl, rfl⟩ := collected
      obtain ⟨length, consumed⟩ := induction found
      have fits := (read_data given).2
      refine ⟨?_, (read_data_consumes given).trans consumed⟩
      rw [List.length_append, length]
      omega

theorem collect_of_enough {wanted : Nat} {inbound : Inbound}
    (enough : wanted ≤ inbound.delivered.length) :
    ∃ rest, inbound.collect wanted = (inbound.delivered.take wanted, .full, rest) := by
  refine ⟨(inbound.collect wanted).2.2, ?_⟩
  rw [← collect_bytes, Prod.mk.injEq, Prod.mk.injEq]
  exact ⟨rfl, by rw [collect_stop, if_pos enough], rfl⟩

/-- A read that finds bytes leaves what arrives after them alone. -/
theorem readArrivals_append {wanted : Nat} {front : List Arrival} (later : List Arrival)
    (some_bytes : deliveredBy front ≠ []) :
    readArrivals wanted (front ++ later) =
      ((readArrivals wanted front).1, (readArrivals wanted front).2 ++ later) := by
  fun_induction readArrivals wanted front with
  | case1 => simp [deliveredBy] at some_bytes
  | case2 front induction => exact induction some_bytes
  | case3 => simp [deliveredBy] at some_bytes
  | case4 data front rest left nothing =>
      rw [List.cons_append, readArrivals]
      simp only [if_pos nothing]
      by_cases exhausted : rest = []
      · simp only [rest, left, if_pos exhausted]
      · simp only [rest, left, if_neg exhausted, List.cons_append]
  | case5 data front rest left something =>
      rw [List.cons_append, readArrivals]
      simp only [if_neg something]
      by_cases exhausted : rest = []
      · simp only [rest, left, if_pos exhausted]
      · simp only [rest, left, if_neg exhausted, List.cons_append]

/-- A reader that gets enough from the first arrivals leaves the later ones alone. -/
theorem collect_append {wanted : Nat} {front : Inbound} (later : List Arrival)
    (enough : wanted ≤ front.delivered.length) :
    collect ⟨front.arrivals ++ later⟩ wanted =
      ((front.collect wanted).1, (front.collect wanted).2.1,
        ⟨(front.collect wanted).2.2.arrivals ++ later⟩) := by
  fun_induction collect front wanted with
  | case1 => rw [collect, if_pos rfl]
  | case2 front wanted nonzero rest given =>
      simp [(read_ended (Nat.pos_of_ne_zero nonzero) given).1, nonzero] at enough
  | case3 front wanted nonzero error rest given =>
      simp [(read_failed given).1, nonzero] at enough
  | case4 front wanted nonzero chunk rest given more stop last collected induction =>
      have delivers := (read_data_delivers given).1
      have some_bytes : front.delivered ≠ [] :=
        List.length_pos_iff.mp (Nat.lt_of_lt_of_le (Nat.pos_of_ne_zero nonzero) enough)
      have given_first : read ⟨front.arrivals ++ later⟩ wanted =
          (.data chunk, ⟨rest.arrivals ++ later⟩) := by
        simp only [read, Prod.mk.injEq] at given
        rw [read, readArrivals_append later some_bytes, given.1, ← given.2]
      rw [delivers, List.length_append] at enough
      rw [collect, if_neg nonzero]
      split
      · next ended => simp [given_first] at ended
      · next failed => simp [given_first] at failed
      · next found =>
          rw [given_first] at found
          cases found
          rw [induction (by omega), collected]

end Inbound

end FilePush
