import FilePush.Sender

/-!
# Sending a payload

However large the buffer is, a sender writes the content of its file from the front.  It writes as
much as it declared unless the connection fails or the file has become too short, and a connection
that fails leaves it without an answer.
-/

namespace FilePush

namespace Outbound

/-- Once bytes are offered and no more are taken, they are not taken where they are offered. -/
theorem reply_of_offer_failure {reply : Nat → WriteReply} {position offered : Nat}
    (failed : (offer reply position offered).2 ≠ none) (count : Nat) :
    reply (offer reply position offered).1 ≠ .takes (count + 1) := by
  fun_induction offer reply position offered with
  | case1 => simp at failed
  | case2 position offered nonzero error fails => simp [fails]
  | case3 position offered nonzero nothing => simp [nothing]
  | case4 position offered nonzero count _ taken induction => exact induction failed

/-- Nothing has been taken beyond a limit or will be. -/
structure Bounded (outbound : Outbound) (limit : Nat) : Prop where
  /-- The limit has not been passed. -/
  position_le : outbound.position ≤ limit
  /-- Before the limit no more is taken at a time than there is left. -/
  takes_le : ∀ place count, place ≤ limit → outbound.reply place = .takes (count + 1) →
    place + (count + 1) ≤ limit

/-- Writing does not pass a limit. -/
theorem Bounded.writeAll {outbound : Outbound} {limit : Nat} (bounded : outbound.Bounded limit)
    (bytes : Bytes) : (outbound.writeAll bytes).1.Bounded limit := by
  refine ⟨?_, bounded.takes_le⟩
  have within := bounded.position_le
  show (offer outbound.reply outbound.position bytes.length).1 ≤ limit
  generalize outbound.position = position at within
  fun_induction offer outbound.reply position bytes.length with
  | case1 | case2 | case3 => exact within
  | case4 position offered nonzero count takes taken induction =>
      have some_taken : taken ≤ count + 1 := Nat.min_le_left _ _
      exact induction (Nat.le_trans (Nat.add_le_add_left some_taken _)
        (bounded.takes_le position count within takes))

/-- The connection once it has taken some bytes. -/
def took (outbound : Outbound) (bytes : Bytes) : Outbound :=
  { outbound with
    position := outbound.position + bytes.length
    written := outbound.written ++ bytes }

@[simp]
theorem took_nil (outbound : Outbound) : outbound.took [] = outbound := by
  simp [took]

theorem took_append (outbound : Outbound) (front back : Bytes) :
    (outbound.took front).took back = outbound.took (front ++ back) := by
  simp [took, Nat.add_assoc]

/-- No more bytes are taken than there are before the limit. -/
theorem Bounded.length_le {outbound : Outbound} {bytes : Bytes} {room : Nat}
    (bounded : (outbound.took bytes).Bounded (outbound.position + room)) : bytes.length ≤ room :=
  Nat.le_of_add_le_add_left bounded.position_le

/-- Nothing is taken of what is offered when so many bytes have been taken before. -/
def Refuses (outbound : Outbound) (place : Nat) : Prop :=
  ∀ count, outbound.reply place ≠ .takes (count + 1)

/-- All bytes are written, or the connection refuses to take more after some of them. -/
theorem writeAll_cases (outbound : Outbound) (bytes : Bytes) :
    outbound.writeAll bytes = (outbound.took bytes, none) ∨
      ∃ taken error, taken <+: bytes ∧ taken.length < bytes.length ∧
        outbound.Refuses (outbound.position + taken.length) ∧
        outbound.writeAll bytes = (outbound.took taken, some error) := by
  obtain ⟨lower, upper⟩ := offer_bounds outbound.reply outbound.position bytes.length
  have all_taken := offer_eq_none_iff outbound.reply outbound.position bytes.length
  have refused := @reply_of_offer_failure outbound.reply outbound.position bytes.length
  rw [writeAll]
  generalize offer outbound.reply outbound.position bytes.length = offered at *
  obtain ⟨place, failure⟩ := offered
  dsimp only at *
  obtain ⟨count, rfl⟩ := Nat.exists_eq_add_of_le lower
  have within : count ≤ bytes.length := Nat.le_of_add_le_add_left upper
  rw [Nat.add_sub_cancel_left]
  cases failure with
  | none =>
      have whole : count = bytes.length := Nat.add_left_cancel (all_taken.mp rfl)
      rw [whole, List.take_length]
      exact .inl rfl
  | some error =>
      have partly : count ≠ bytes.length := fun whole => by simp [whole] at all_taken
      have length := List.length_take_of_le within
      refine .inr ⟨bytes.take count, error, List.take_prefix count bytes, ?_, ?_, ?_⟩
      · rw [length]
        exact Nat.lt_of_le_of_ne within partly
      · rw [length]
        exact refused (by simp)
      · rw [took, length]

/-- A connection that takes bytes wherever they are offered takes all of them. -/
theorem writeAll_of_taking {outbound : Outbound} {bytes : Bytes}
    (taking : ∀ place, outbound.position ≤ place → place < outbound.position + bytes.length →
      ∃ count, outbound.reply place = .takes (count + 1)) :
    outbound.writeAll bytes = (outbound.took bytes, none) := by
  rcases outbound.writeAll_cases bytes with all | ⟨taken, error, -, fewer, refuses, -⟩
  · exact all
  · obtain ⟨count, takes⟩ := taking _ (Nat.le_add_right _ _) (Nat.add_lt_add_left fewer _)
    exact absurd takes (refuses count)

end Outbound

namespace Source

/-- A read cuts the content of a file in two. -/
theorem read_content {content chunk : Bytes} {wanted : Nat} {later : Source}
    (given : (Source.content content).read wanted = .ok (chunk, later)) :
    ∃ rest, later = .content rest ∧ content = chunk ++ rest ∧ chunk.length ≤ wanted := by
  have short := Source.length_read given
  simp only [read, Except.ok.injEq, Prod.mk.injEq] at given
  obtain ⟨rfl, rfl⟩ := given
  exact ⟨_, rfl, (List.take_append_drop _ content).symm, short⟩

theorem read_content_ne_nil {content chunk : Bytes} {wanted : Nat} {later : Source}
    (given : (Source.content content).read wanted = .ok (chunk, later))
    (some_wanted : 0 < wanted) (some_left : 0 < content.length) : chunk ≠ [] := by
  simp only [read, Except.ok.injEq, Prod.mk.injEq] at given
  obtain ⟨rfl, -⟩ := given
  rw [Ne, List.take_eq_nil_iff, not_or]
  refine ⟨Nat.ne_of_gt (Nat.lt_min.mpr ⟨some_wanted, by decide⟩), ?_⟩
  exact List.length_pos_iff.mp some_left

end Source

namespace Sender

theorem take_append_of_le {chunk rest : Bytes} {wanted : Nat} (fits : chunk.length ≤ wanted) :
    (chunk ++ rest).take wanted = chunk ++ rest.take (wanted - chunk.length) := by
  rw [List.take_append, List.take_of_length_le fits]

/-- Bytes are taken wherever the next `count` of them are offered. -/
def Taking (outbound : Outbound) (count : Nat) : Prop :=
  ∀ place, outbound.position ≤ place → place < outbound.position + count →
    ∃ more, outbound.reply place = .takes (more + 1)

/-- So many more bytes are taken and none after them, in whatever pieces they are offered. -/
structure Room (outbound : Outbound) (room : Nat) : Prop where
  /-- Bytes are taken as long as there is room. -/
  taking : Taking outbound room
  /-- No more are taken than there is room for. -/
  bounded : outbound.Bounded (outbound.position + room)

/-- What is wrong with a file in which fewer bytes than declared are found. -/
def shortage (path : Path) (declared found : Nat) : Option TransferError :=
  if found < declared then some (.file (.shrunk path declared found)) else none

theorem shortage_eq_none_iff {path : Path} {declared found : Nat} :
    shortage path declared found = none ↔ declared ≤ found := by
  simp [shortage]

theorem shortage_eq_some_iff {path : Path} {declared found : Nat} {error : TransferError} :
    shortage path declared found = some error ↔
      error = .file (.shrunk path declared found) ∧ found < declared := by
  simp [shortage, and_comm, eq_comm]

theorem shortage_ne_noAck (path : Path) (declared found : Nat) :
    shortage path declared found ≠ some .noAck := by
  simp [shortage_eq_some_iff]

/--
How writing ends: what is written of the `whole` that there is to write, and the error.  A file may
turn out to be too short once all that it has is written.
-/
inductive Ending (outbound : Outbound) (short : Option TransferError) (whole : Bytes) :
    Bytes → Option TransferError → Prop
  /-- The connection refuses what comes next. -/
  | cut {sent : Bytes} (front : sent <+: whole) (partly : sent ≠ whole)
      (refuses : outbound.Refuses (outbound.position + sent.length)) :
      Ending outbound short whole sent (some .noAck)
  /-- The file is too short. -/
  | short {error : TransferError} (found : short = some error) :
      Ending outbound short whole whole (some error)
  /-- The connection does not flush. -/
  | unflushed (enough : short = none) (fails : outbound.flushFailure ≠ none) :
      Ending outbound short whole whole (some .noAck)
  /-- Nothing fails. -/
  | complete (enough : short = none) (flushes : outbound.flushFailure = none) :
      Ending outbound short whole whole none

namespace Ending

variable {outbound : Outbound} {short result : Option TransferError} {whole sent : Bytes}

/-- Writing ends as it goes on after the first bytes. -/
theorem after {front : Bytes} (ending : Ending (outbound.took front) short whole sent result) :
    Ending outbound short (front ++ whole) (front ++ sent) result := by
  cases ending with
  | cut within partly refuses =>
      refine .cut ((List.prefix_append_right_inj front).mpr within)
        (fun same => partly (List.append_cancel_left same)) ?_
      rw [List.length_append, ← Nat.add_assoc]
      exact refuses
  | short found => exact .short found
  | unflushed enough fails => exact .unflushed enough fails
  | complete enough flushes => exact .complete enough flushes

theorem sent_prefix (ending : Ending outbound short whole sent result) : sent <+: whole := by
  cases ending with
  | cut front => exact front
  | _ => exact List.prefix_refl whole

/-- As much is sent as the connection takes wherever it is offered, unless more is sent. -/
theorem sent_eq_take (ending : Ending outbound short whole sent result) {room : Nat}
    (taking : Taking outbound room) (within : sent.length ≤ room) : sent = whole.take room := by
  cases ending with
  | cut front partly refuses =>
      have reached : room ≤ sent.length := by
        refine Nat.not_lt.mp fun fewer => ?_
        obtain ⟨more, takes⟩ := taking _ (Nat.le_add_right _ _) (Nat.add_lt_add_left fewer _)
        exact refuses more takes
      rw [← Nat.le_antisymm within reached]
      exact List.prefix_iff_eq_take.mp front
  | _ => exact (List.take_of_length_le within).symm

/-- A connection that takes bytes wherever they are offered is sent all there is. -/
theorem sent_eq_of_taking (ending : Ending outbound short whole sent result)
    (taking : Taking outbound whole.length) : sent = whole := by
  rw [ending.sent_eq_take taking ending.sent_prefix.length_le, List.take_length]

theorem eq_none_iff (ending : Ending outbound short whole sent result) :
    result = none ↔ sent = whole ∧ short = none ∧ outbound.flushFailure = none := by
  cases ending with
  | cut front partly => simp [partly]
  | short found => simp [found]
  | unflushed enough fails => simp [fails]
  | complete enough flushes => simp [enough, flushes]

theorem eq_some_iff (ending : Ending outbound short whole sent result) {error : TransferError}
    (other : error ≠ .noAck) : result = some error ↔ sent = whole ∧ short = some error := by
  cases ending with
  | cut front partly => simp [partly, other.symm]
  | short found => simp [found]
  | unflushed enough => simp [enough, other.symm]
  | complete enough => simp [enough]

theorem eq_noAck_iff (ending : Ending outbound short whole sent result)
    (other : short ≠ some .noAck) :
    result = some .noAck ↔ sent ≠ whole ∨ short = none ∧ outbound.flushFailure ≠ none := by
  cases ending with
  | cut front partly => simp [partly]
  | short found => simpa [found] using other
  | unflushed enough fails => simp [enough, fails]
  | complete enough flushes => simp [enough, flushes]

/-- An ending that is no loss of the connection leaves nothing open. -/
theorem eq_short_of_ne_noAck (ending : Ending outbound short whole sent result)
    (kept : result ≠ some .noAck) : sent = whole ∧ result = short := by
  cases ending with
  | cut | unflushed => exact absurd rfl kept
  | short found => exact ⟨rfl, found.symm⟩
  | complete enough => exact ⟨rfl, enough.symm⟩

/-- How writing ends is decided by what is sent. -/
theorem result_unique {other : Option TransferError} (found : short ≠ some .noAck)
    (one : Ending outbound short whole sent result) (two : Ending outbound short whole sent other) :
    result = other := by
  by_cases lost : result = some .noAck
  · rw [lost, (two.eq_noAck_iff found).mpr ((one.eq_noAck_iff found).mp lost)]
  · have kept : other ≠ some .noAck := fun also_lost =>
      lost ((one.eq_noAck_iff found).mpr ((two.eq_noAck_iff found).mp also_lost))
    rw [(one.eq_short_of_ne_noAck lost).2, (two.eq_short_of_ne_noAck kept).2]

theorem refuses (ending : Ending outbound short whole sent result) (partly : sent ≠ whole) :
    outbound.Refuses (outbound.position + sent.length) := by
  cases ending with
  | cut front partly refuses => exact refuses
  | _ => exact absurd rfl partly

end Ending

/--
What a session has counted of the `content` of a file of which `sent` was written.  A chunk is counted
once all of it is written, so what is not counted of it is less than a buffer.
-/
structure Counted (bufferSize : Nat) (content whole sent : Bytes) (before after : Session)
    (count : Nat) : Prop where
  /-- So many bytes were counted. -/
  transferred : after.transferred = before.transferred + count
  /-- Their checksum was taken. -/
  checksum : after.checksum = before.checksum.update (content.take count)
  /-- What was counted was written. -/
  le_sent : count ≤ sent.length
  /-- What was written beyond it is less than a buffer. -/
  sent_lt : sent.length < count + bufferSize
  /-- If all was written, all was counted. -/
  of_whole : sent = whole → count = sent.length

namespace Counted

variable {bufferSize : Nat} {content whole sent : Bytes} {before after : Session} {count : Nat}

/-- Nothing is counted of less than a buffer, unless it is all. -/
theorem nothing (fewer : sent.length < bufferSize) (of_whole : sent = whole → sent = []) :
    Counted bufferSize content whole sent before before 0 where
  transferred := rfl
  checksum := rfl
  le_sent := Nat.zero_le _
  sent_lt := by rwa [Nat.zero_add]
  of_whole same := by rw [of_whole same, List.length_nil]

/-- A chunk that is written and counted comes before what is counted afterwards. -/
theorem after_chunk {chunk rest : Bytes} {now : Instant}
    (counted : Counted bufferSize rest whole sent (before.record chunk now).2 after count) :
    Counted bufferSize (chunk ++ rest) (chunk ++ whole) (chunk ++ sent) before after
      (chunk.length + count) where
  transferred := by rw [counted.transferred, Session.transferred_record, Nat.add_assoc]
  checksum := by
    rw [counted.checksum, List.take_length_add_append, Checksum.update_append]
    rfl
  le_sent := by
    rw [List.length_append]
    exact Nat.add_le_add_left counted.le_sent _
  sent_lt := by
    rw [List.length_append, Nat.add_assoc]
    exact Nat.add_lt_add_left counted.sent_lt _
  of_whole same := by
    rw [List.length_append, counted.of_whole (List.append_cancel_left same)]

end Counted

/-- How sending a payload ends, and what it leaves. -/
theorem sendPayload_ends (path : Path) {bufferSize : Nat} (some_buffer : 0 < bufferSize)
    (state : Sending) {content : Bytes} (source : state.source = .content content)
    (within : state.session.transferred ≤ state.session.declared) :
    ∃ sent count, (sendPayload path bufferSize state).1.outbound = state.outbound.took sent ∧
      Ending state.outbound
        (shortage path state.session.declared (state.session.transferred + content.length))
        (content.take state.session.remaining) sent (sendPayload path bufferSize state).2 ∧
      Counted bufferSize content (content.take state.session.remaining) sent state.session
        (sendPayload path bufferSize state).1.session count := by
  fun_induction sendPayload path bufferSize state generalizing content with
  | case1 state complete error failed =>
      have none_left := Session.remaining_of_isComplete complete
      rw [none_left, List.take_zero]
      refine ⟨[], 0, by simp [Sending.disconnect], ?_, .nothing some_buffer fun _ => rfl⟩
      refine .unflushed (shortage_eq_none_iff.mpr ?_) fun flushes => ?_
      · exact Nat.le_add_right_of_le (Nat.le_of_sub_eq_zero none_left)
      · simp [Outbound.flush, flushes] at failed
  | case2 state complete flushed =>
      have none_left := Session.remaining_of_isComplete complete
      rw [none_left, List.take_zero]
      refine ⟨[], 0, by simp, ?_, .nothing some_buffer fun _ => rfl⟩
      refine .complete (shortage_eq_none_iff.mpr ?_) flushed
      exact Nat.le_add_right_of_le (Nat.le_of_sub_eq_zero none_left)
  | case3 state incomplete error given => simp [source, Source.read] at given
  | case4 state incomplete later shrunk =>
      rename_i given
      have some_left := Session.remaining_pos within incomplete
      rw [source] at given
      cases content with
      | nil =>
          refine ⟨[], 0, by simp, ?_, .nothing some_buffer fun _ => rfl⟩
          rw [List.take_nil]
          exact .short (if_pos (Nat.lt_of_sub_pos some_left))
      | cons first rest =>
          exact absurd rfl (Source.read_content_ne_nil given
            (Nat.lt_min.mpr ⟨some_left, some_buffer⟩) (Nat.zero_lt_succ _))
  | case5 state incomplete chunk later given some_chunk outbound error failed =>
      rw [source] at given
      obtain ⟨rest, rfl, rfl, short⟩ := Source.read_content given
      have fits := Nat.le_trans short (Nat.min_le_left _ _)
      rw [take_append_of_le fits]
      rcases state.outbound.writeAll_cases chunk with all | ⟨taken, cause, front, fewer, refuses, cut⟩
      · simp [failed] at all
      · obtain ⟨rfl, -⟩ := Prod.mk.inj (failed.symm.trans cut)
        have proper : taken ≠ chunk ++ rest.take (state.session.remaining - chunk.length) := by
          rintro rfl
          rw [List.length_append] at fewer
          omega
        refine ⟨taken, 0, rfl, .cut (front.trans (List.prefix_append _ _)) proper refuses, ?_⟩
        refine .nothing ?_ fun same => absurd same proper
        exact Nat.lt_of_lt_of_le fewer (Nat.le_trans short (Nat.min_le_right _ _))
  | case6 state incomplete chunk later given some_chunk outbound passed induction =>
      rw [source] at given
      obtain ⟨rest, rfl, rfl, short⟩ := Source.read_content given
      have fits := Nat.le_trans short (Nat.min_le_left _ _)
      rw [take_append_of_le fits]
      rcases state.outbound.writeAll_cases chunk with all | ⟨taken, cause, -, -, -, cut⟩
      · obtain ⟨rfl, -⟩ := Prod.mk.inj (passed.symm.trans all)
        obtain ⟨sent, count, took, ending, counted⟩ :=
          induction rfl (Session.transferred_record_le _ within fits)
        rw [Sending.session_record] at ending counted
        rw [Session.remaining_record, Session.transferred_record, Session.declared_record,
          Nat.add_assoc, ← List.length_append] at ending
        rw [Session.remaining_record] at counted
        exact ⟨chunk ++ sent, chunk.length + count, took.trans (Outbound.took_append _ _ _),
          ending.after, counted.after_chunk⟩
      · simp [passed] at cut

/-- Sending a payload does not pass a limit of the connection. -/
theorem bounded_sendPayload (path : Path) (bufferSize : Nat) {state : Sending} {limit : Nat}
    (bounded : state.outbound.Bounded limit) :
    (sendPayload path bufferSize state).1.outbound.Bounded limit := by
  fun_induction sendPayload path bufferSize state with
  | case1 | case2 | case3 | case4 => exact bounded
  | case5 state incomplete chunk later given some_chunk outbound error failed =>
      have after := bounded.writeAll chunk
      rw [failed] at after
      exact after
  | case6 state incomplete chunk later given some_chunk outbound passed induction =>
      have after := bounded.writeAll chunk
      rw [passed] at after
      exact induction after

end Sender

end FilePush
