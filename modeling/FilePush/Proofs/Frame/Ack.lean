import FilePush.Frame.Ack
import FilePush.Proofs.Stream.Consumption
import FilePush.Sender
import Mathlib.Data.List.DropRight

/-!
# Reading an answer

Bytes are read as an answer exactly if they are its token with any number of NUL bytes after it.  A
sender judges a transfer by the first bytes that arrive in answer.  If these are only a beginning of
an answer, it takes them for that answer or for none: the two tokens part in their fifth letter, and
a beginning that is read as a token holds all of it.
-/

namespace FilePush

namespace Ack

theorem trimNuls_eq_token {bytes : Bytes} {answer : Ack} (parsed : parse bytes = .ok answer) :
    trimNuls bytes = Utf8.encode answer.token := by
  rw [parse] at parsed
  split at parsed
  · next same =>
      cases parsed
      exact same
  · split at parsed
    · next same =>
        cases parsed
        exact same
    · simp at parsed

/-- The NUL bytes that are cut off stand at the end. -/
theorem exists_eq_trimNuls_append (bytes : Bytes) :
    ∃ nuls, bytes = trimNuls bytes ++ List.replicate nuls 0 := by
  have zeros : ∀ byte ∈ bytes.rtakeWhile (· = 0), byte = 0 := fun byte member => by
    simpa using List.mem_rtakeWhile_imp member
  refine ⟨(bytes.rtakeWhile (· = 0)).length, ?_⟩
  rw [← List.eq_replicate_of_mem zeros]
  exact List.rdropWhile_append_rtakeWhile.symm

/-- All of the NUL bytes at the end are cut off. -/
theorem trimNuls_append_replicate (front : Bytes) (nuls : Nat) :
    trimNuls (front ++ List.replicate nuls 0) = trimNuls front := by
  induction nuls with
  | zero => rw [List.replicate_zero, List.append_nil]
  | succ nuls induction =>
      rw [List.replicate_succ', ← List.append_assoc, ← induction]
      exact List.rdropWhile_concat_pos _ _ _ (by simp)

/-- No token ends in a NUL byte. -/
theorem trimNuls_token (ack : Ack) : trimNuls (Utf8.encode ack.token) = Utf8.encode ack.token := by
  cases ack with
  | success => decide
  | failure => decide

/-- An answer is read from its token with any number of NUL bytes after it, and from nothing else. -/
theorem parse_eq_ok_iff {bytes : Bytes} {ack : Ack} :
    parse bytes = .ok ack ↔ ∃ nuls, bytes = Utf8.encode ack.token ++ List.replicate nuls 0 := by
  constructor
  · intro parsed
    obtain ⟨nuls, whole⟩ := exists_eq_trimNuls_append bytes
    rw [trimNuls_eq_token parsed] at whole
    exact ⟨nuls, whole⟩
  · rintro ⟨nuls, rfl⟩
    rw [parse, trimNuls_append_replicate, trimNuls_token]
    cases ack with
    | success => rfl
    | failure => rfl

theorem parse_token (ack : Ack) (nuls : Nat) :
    parse (Utf8.encode ack.token ++ List.replicate nuls 0) = .ok ack :=
  parse_eq_ok_iff.mpr ⟨nuls, rfl⟩

/-- A token that is read from bytes stands at their beginning. -/
theorem token_prefix_of_parse {bytes : Bytes} {answer : Ack} (parsed : parse bytes = .ok answer) :
    Utf8.encode answer.token <+: bytes := by
  obtain ⟨nuls, rfl⟩ := parse_eq_ok_iff.mp parsed
  exact List.prefix_append _ _

/-- No answer begins with the token of the other. -/
theorem eq_of_token_prefix {answer ack : Ack} (front : Utf8.encode answer.token <+: ack.toBytes) :
    answer = ack := by
  cases answer with
  | success =>
      cases ack with
      | success => rfl
      | failure => exact absurd front (by decide)
  | failure =>
      cases ack with
      | success => exact absurd front (by decide)
      | failure => rfl

theorem parse_nil : parse [] = .error (.unknownAck []) := rfl

/-- Bytes that are no answer are reported as they are. -/
theorem eq_of_parse_eq_error {bytes : Bytes} {error : ProtocolError}
    (refused : parse bytes = .error error) : error = .unknownAck bytes := by
  rw [parse] at refused
  split at refused
  · simp at refused
  · split at refused
    · simp at refused
    · exact (Except.error.inj refused).symm

@[simp]
theorem parse_toBytes (ack : Ack) : parse ack.toBytes = .ok ack := by
  cases ack with
  | success => rfl
  | failure => rfl

theorem nul_not_mem_token (ack : Ack) : 0 ∉ Utf8.encode ack.token := by
  cases ack with
  | success => decide
  | failure => decide

/-- A NUL byte in an answer stands after the whole token, and only NUL bytes stand after it. -/
theorem nul_after_token {ack : Ack} {front back : Bytes}
    (parsed : parse (front ++ 0 :: back) = .ok ack) :
    Utf8.encode ack.token <+: front ∧ ∀ byte ∈ back, byte = 0 := by
  obtain ⟨nuls, whole⟩ := parse_eq_ok_iff.mp parsed
  have among_nuls : ∃ padding, front = Utf8.encode ack.token ++ padding ∧
      List.replicate nuls 0 = padding ++ 0 :: back := by
    rcases List.append_eq_append_iff.mp whole with ⟨letters, token, rest⟩ | among_nuls
    · cases letters with
      | nil => exact ⟨[], by rw [token, List.append_nil, List.append_nil], rest.symm⟩
      | cons letter more =>
          -- The NUL byte would be a letter of the token.
          obtain ⟨rfl, -⟩ := List.cons_eq_cons.mp rest
          exact absurd (token ▸ by simp) ack.nul_not_mem_token
    · exact among_nuls
  obtain ⟨padding, rfl, nuls_split⟩ := among_nuls
  refine ⟨List.prefix_append _ _, fun byte later => ?_⟩
  have member : byte ∈ List.replicate nuls 0 :=
    nuls_split ▸ List.mem_append_right padding (List.mem_cons_of_mem 0 later)
  exact List.eq_of_mem_replicate member

/--
Bytes are read as an answer exactly if they are its token with any number of NUL bytes after it; all
others are reported unchanged.  Hence an answer as it is sent is read with more NUL bytes after it
too, a NUL byte is tolerated only behind the whole token, and no bytes are two answers.
-/
theorem parse_accepts_tokens :
    (∀ (bytes : Bytes) (ack : Ack),
      parse bytes = .ok ack ↔
        ∃ nuls, bytes = Utf8.encode ack.token ++ List.replicate nuls 0) ∧
    (∀ bytes : Bytes,
      (∀ (ack : Ack) (nuls : Nat), bytes ≠ Utf8.encode ack.token ++ List.replicate nuls 0) →
        parse bytes = .error (.unknownAck bytes)) ∧
    (∀ (ack : Ack) (nuls : Nat), parse (ack.toBytes ++ List.replicate nuls 0) = .ok ack) ∧
    (∀ (ack : Ack) (front back : Bytes), parse (front ++ 0 :: back) = .ok ack →
      Utf8.encode ack.token <+: front ∧ ∀ byte ∈ back, byte = 0) ∧
    ∀ (left right : Ack) (nuls nuls' : Nat),
      Utf8.encode left.token ++ List.replicate nuls 0 =
          Utf8.encode right.token ++ List.replicate nuls' 0 →
        left = right ∧ nuls = nuls' := by
  refine ⟨fun bytes ack => parse_eq_ok_iff, fun bytes unlike => ?_, fun ack nuls => ?_,
    fun ack front back parsed => nul_after_token parsed, fun left right nuls nuls' same => ?_⟩
  · cases parsed : parse bytes with
    | ok ack =>
        obtain ⟨nuls, whole⟩ := parse_eq_ok_iff.mp parsed
        exact absurd whole (unlike ack nuls)
    | error error => rw [eq_of_parse_eq_error parsed]
  · have read := parse_token ack (nuls + 1)
    rwa [List.replicate_succ, ← List.singleton_append, ← List.append_assoc] at read
  · have read_twice := parse_token left nuls
    rw [same, parse_token] at read_twice
    obtain rfl := Except.ok.inj read_twice
    have padding := congrArg List.length (List.append_cancel_left same)
    rw [List.length_replicate, List.length_replicate] at padding
    exact ⟨rfl, padding⟩

-- A NUL byte in front of a token is not tolerated.
example : parse (0 :: Ack.failure.toBytes) = .error (.unknownAck (0 :: Ack.failure.toBytes)) := by
  rfl

theorem length_toBytes_le (ack : Ack) : ack.toBytes.length ≤ maxLength := by
  cases ack with
  | success => decide
  | failure => decide

theorem toBytes_ne_nil (ack : Ack) : ack.toBytes ≠ [] := by
  simp [toBytes]

end Ack

namespace Sender

/-- What a sender makes of the bytes that it was answered with. -/
def verdict (bytes : Bytes) : Except TransferError Ack :=
  if bytes = [] then .error .noAck
  else
    match Ack.parse bytes with
    | .ok ack => .ok ack
    | .error error => .error (.protocol error)

theorem verdict_eq_ok_iff {bytes : Bytes} {ack : Ack} :
    verdict bytes = .ok ack ↔ Ack.parse bytes = .ok ack := by
  rw [verdict]
  split
  · next nothing => simp [nothing, Ack.parse_nil]
  · cases Ack.parse bytes with
    | ok answer => simp
    | error error => simp

/-- Some bytes are taken for what they are read as. -/
theorem verdict_eq_parse {bytes : Bytes} (something : bytes ≠ []) :
    verdict bytes = (Ack.parse bytes).mapError .protocol := by
  rw [verdict, if_neg something]
  cases Ack.parse bytes with
  | ok ack => rfl
  | error error => rfl

theorem verdict_eq_noAck_iff {bytes : Bytes} : verdict bytes = .error .noAck ↔ bytes = [] := by
  rw [verdict]
  split
  · next nothing => simp [nothing]
  · next something =>
      cases Ack.parse bytes with
      | ok ack => simp [something]
      | error error => simp [something]

theorem verdict_of_unknown {bytes : Bytes} (something : bytes ≠ [])
    (unknown : ∀ ack, Ack.parse bytes ≠ .ok ack) :
    verdict bytes = .error (.protocol (.unknownAck bytes)) := by
  rw [verdict, if_neg something]
  cases parsed : Ack.parse bytes with
  | ok ack => exact absurd parsed (unknown ack)
  | error error => rw [Ack.eq_of_parse_eq_error parsed]

/-- A sender judges by what it collected, unless the connection failed before that was enough. -/
theorem readAck_of_collect {inbound rest : Inbound} {bytes : Bytes} {stop : Stop}
    (journal : Journal) (collected : inbound.collect Ack.maxLength = (bytes, stop, rest))
    (kept : ∀ error, stop ≠ .failed error) :
    readAck inbound journal = (verdict bytes, rest, journal) := by
  rw [readAck, collected]
  cases stop with
  | failed error => exact absurd rfl (kept error)
  | full | ended =>
      cases bytes with
      | nil => rfl
      | cons first more =>
          simp only [verdict, reduceCtorEq, if_false]
          cases Ack.parse (first :: more) with
          | ok ack => rfl
          | error error => rfl

/-- A sender judges by the first bytes that arrive, unless the connection fails before them. -/
theorem readAck_eq_verdict (inbound : Inbound) (journal : Journal) :
    (readAck inbound journal).1 =
      if Ack.maxLength ≤ inbound.delivered.length ∨ inbound.ending = .ended then
        verdict (inbound.delivered.take Ack.maxLength)
      else .error .noAck := by
  have bytes := inbound.collect_bytes Ack.maxLength
  have stop := inbound.collect_stop Ack.maxLength
  rcases collected : inbound.collect Ack.maxLength with ⟨taken, stopped, rest⟩
  rw [collected] at bytes stop
  obtain rfl : taken = _ := bytes
  simp only at stop
  split
  · next heard =>
      refine congrArg Prod.fst (readAck_of_collect journal collected fun error failed => ?_)
      rw [failed] at stop
      split at stop
      · simp at stop
      · next fewer => simp [← stop, fewer] at heard
  · next lost =>
      obtain ⟨fewer, unended⟩ := not_or.mp lost
      rw [if_neg fewer] at stop
      rw [readAck, collected]
      cases stopped with
      | full => exact absurd stop.symm inbound.ending_ne_full
      | ended => exact absurd stop.symm unended
      | failed error => rfl

/-- An answer that is read begins with bytes that arrived. -/
theorem token_prefix_of_readAck {inbound : Inbound} {journal : Journal} {answer : Ack}
    (read : (readAck inbound journal).1 = .ok answer) :
    Utf8.encode answer.token <+: inbound.delivered := by
  rw [readAck_eq_verdict] at read
  split at read
  · exact (Ack.token_prefix_of_parse (verdict_eq_ok_iff.mp read)).trans (List.take_prefix _ _)
  · simp at read

/-- A sender that gets a beginning of an answer does not take it for another answer. -/
theorem eq_of_readAck {inbound : Inbound} {journal : Journal} {ack answer : Ack}
    (front : inbound.delivered <+: ack.toBytes)
    (read : (readAck inbound journal).1 = .ok answer) : answer = ack :=
  Ack.eq_of_token_prefix ((token_prefix_of_readAck read).trans front)

/-- An answer that arrives is read, if the stream ends after it. -/
theorem readAck_of_delivered (journal : Journal) {inbound : Inbound} {ack : Ack}
    (arrives : inbound.delivered = ack.toBytes) (ends : inbound.ending = .ended) :
    (readAck inbound journal).1 = .ok ack := by
  rw [readAck_eq_verdict, if_pos (.inr ends), arrives, List.take_of_length_le ack.length_toBytes_le]
  exact verdict_eq_ok_iff.mpr ack.parse_toBytes

end Sender

end FilePush
