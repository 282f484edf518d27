import FilePush.Stream.Inbound

/-!
# What a stream delivers

How the bytes of a stream are divided into pieces does not matter to a reader that collects a number
of them.  What matters is `delivered`, the bytes that arrive before a read gives nothing or fails,
and `ending`, which of the two happens.  `collect` takes its bytes from the front of `delivered`, and
comes to the ending if there are too few.
-/

namespace FilePush

namespace Inbound

/-- The bytes that arrive before a read gives nothing or fails. -/
def deliveredBy : List Arrival → Bytes
  | [] => []
  | .pause :: later => deliveredBy later
  | .failure _ :: _ => []
  | .bytes data :: later => if data = [] then [] else data ++ deliveredBy later

/-- What a reader comes to that reads everything. -/
def endingOf : List Arrival → Stop
  | [] => .ended
  | .pause :: later => endingOf later
  | .failure error :: _ => .failed error
  | .bytes data :: later => if data = [] then .ended else endingOf later

/-- The bytes that arrive before a read gives nothing or fails. -/
def delivered (inbound : Inbound) : Bytes := deliveredBy inbound.arrivals

/-- What a reader comes to that reads everything. -/
def ending (inbound : Inbound) : Stop := endingOf inbound.arrivals

/-- What the first read gives is the front of what is delivered. -/
theorem readArrivals_data_delivers {wanted : Nat} {arrivals later : List Arrival} {chunk : Bytes}
    (given : readArrivals wanted arrivals = (.data chunk, later)) :
    deliveredBy arrivals = chunk ++ deliveredBy later ∧ endingOf arrivals = endingOf later := by
  fun_induction readArrivals wanted arrivals with
  | case1 => simp at given
  | case2 later induction => exact induction given
  | case3 => simp at given
  | case4 => simp at given
  | case5 data later rest left nonempty =>
      simp only [Prod.mk.injEq, Reading.data.injEq] at given
      obtain ⟨rfl, rfl⟩ := given
      have some_data : data ≠ [] := fun none => nonempty (by simp [none])
      by_cases exhausted : rest = []
      · have whole : data.take wanted = data :=
          List.take_of_length_le (List.drop_eq_nil_iff.mp exhausted)
        simp [left, exhausted, deliveredBy, endingOf, some_data, whole]
      · simp only [left, if_neg exhausted, deliveredBy, endingOf, if_neg some_data, and_true]
        rw [← List.append_assoc, List.take_append_drop]

/-- A read gives nothing where nothing more is delivered and the stream ends. -/
theorem readArrivals_ended {wanted : Nat} {arrivals later : List Arrival} (some_wanted : 0 < wanted)
    (given : readArrivals wanted arrivals = (.ended, later)) :
    deliveredBy arrivals = [] ∧ endingOf arrivals = .ended := by
  fun_induction readArrivals wanted arrivals with
  | case1 => simp [deliveredBy, endingOf]
  | case2 later induction => exact induction given
  | case3 => simp at given
  | case4 data _ _ _ nothing =>
      have none : data = [] := by
        rcases List.take_eq_nil_iff.mp nothing with zero | none
        · omega
        · exact none
      simp [deliveredBy, endingOf, none]
  | case5 => simp at given

/-- A read fails where nothing more is delivered and the stream fails. -/
theorem readArrivals_failed {wanted : Nat} {arrivals later : List Arrival} {error : IoError}
    (given : readArrivals wanted arrivals = (.failed error, later)) :
    deliveredBy arrivals = [] ∧ endingOf arrivals = .failed error := by
  fun_induction readArrivals wanted arrivals with
  | case1 => simp at given
  | case2 later induction => exact induction given
  | case3 =>
      simp only [Prod.mk.injEq, Reading.failed.injEq] at given
      simp [deliveredBy, endingOf, given.1]
  | case4 => simp at given
  | case5 => simp at given

theorem read_data_delivers {wanted : Nat} {inbound later : Inbound} {chunk : Bytes}
    (given : inbound.read wanted = (.data chunk, later)) :
    inbound.delivered = chunk ++ later.delivered ∧ inbound.ending = later.ending := by
  simp only [read, Prod.mk.injEq] at given
  exact readArrivals_data_delivers (by rw [← given.1, ← given.2])

theorem read_ended {wanted : Nat} {inbound later : Inbound} (some_wanted : 0 < wanted)
    (given : inbound.read wanted = (.ended, later)) :
    inbound.delivered = [] ∧ inbound.ending = .ended := by
  simp only [read, Prod.mk.injEq] at given
  exact @readArrivals_ended _ _ later.arrivals some_wanted (by rw [← given.1, ← given.2])

theorem read_failed {wanted : Nat} {inbound later : Inbound} {error : IoError}
    (given : inbound.read wanted = (.failed error, later)) :
    inbound.delivered = [] ∧ inbound.ending = .failed error := by
  simp only [read, Prod.mk.injEq] at given
  exact @readArrivals_failed _ _ later.arrivals _ (by rw [← given.1, ← given.2])

/-- The bytes collected are the front of what is delivered. -/
theorem collect_bytes (inbound : Inbound) (wanted : Nat) :
    (inbound.collect wanted).1 = inbound.delivered.take wanted := by
  fun_induction collect inbound wanted with
  | case1 => simp
  | case2 inbound wanted nonzero later given =>
      simp [(read_ended (Nat.pos_of_ne_zero nonzero) given).1]
  | case3 inbound wanted _ error later given => simp [(read_failed given).1]
  | case4 inbound wanted _ chunk later given more _ _ collected induction =>
      have front := (read_data_delivers given).1
      have fits := (read_data given).2
      rw [collected] at induction
      simp only at induction ⊢
      rw [induction, front, List.take_append, List.take_of_length_le fits]

/-- A reader stops when it has enough, and otherwise comes to the ending of the stream. -/
theorem collect_stop (inbound : Inbound) (wanted : Nat) :
    (inbound.collect wanted).2.1 =
      if wanted ≤ inbound.delivered.length then .full else inbound.ending := by
  fun_induction collect inbound wanted with
  | case1 => simp
  | case2 inbound wanted nonzero later given =>
      obtain ⟨nothing, ending⟩ := read_ended (Nat.pos_of_ne_zero nonzero) given
      simp [nothing, ending, nonzero]
  | case3 inbound wanted nonzero error later given =>
      obtain ⟨nothing, ending⟩ := read_failed given
      simp [nothing, ending, nonzero]
  | case4 inbound wanted _ chunk later given _ _ _ collected induction =>
      obtain ⟨front, ending⟩ := read_data_delivers given
      rw [collected] at induction
      simp only at induction ⊢
      rw [induction, front, ending, List.length_append]
      have fits := (read_data given).2
      simp only [Nat.sub_le_iff_le_add, Nat.add_comm]

end Inbound

end FilePush
